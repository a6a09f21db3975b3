/-
  Declarations in another order.

  A tree of declarations is reordered by permuting, at any depth, the fields and the nested types of its messages
  and the values of its enumerations. Names, kinds and marks stay, and so do the namespaces that its fields refer
  to. What a mark lists is permuted with its values, and a mark that is the only one may stand anywhere.
-/

import Mathlib.Data.List.Basic
import Mathlib.Data.List.Forall2
import ProtoEmit.Imports
import ProtoEmit.Oneof

namespace ProtoEmit

/-! ## The relation -/

/-- The same enumeration with its values in another order. -/
def Enumeration.Reordered (e e' : Enumeration) : Prop :=
  ∃ values, e.values.Perm values ∧ e' = { e with values := values }

mutual

/-- The same message with its declarations in another order, at any depth. -/
inductive Message.Reordered : Message → Message → Prop
  | intro {name origin : String} {fields fields' : List Field} {nested between nested' : List Declaration}
      {isPrivate : Bool} (hfields : fields.Perm fields') (hnested : Declaration.EachReordered nested between)
      (hperm : between.Perm nested') :
      Message.Reordered ⟨name, origin, fields, nested, isPrivate⟩ ⟨name, origin, fields', nested', isPrivate⟩

/-- The same declaration in another order inside. -/
inductive Declaration.Reordered : Declaration → Declaration → Prop
  | message {m m' : Message} (h : m.Reordered m') : Declaration.Reordered (.message m) (.message m')
  | enumeration {e e' : Enumeration} (h : e.Reordered e') :
      Declaration.Reordered (.enumeration e) (.enumeration e')

/-- Declarations in the same order, each of them in another order inside. -/
inductive Declaration.EachReordered : List Declaration → List Declaration → Prop
  | nil : Declaration.EachReordered [] []
  | cons {d d' : Declaration} {ds ds' : List Declaration} (h : d.Reordered d')
      (hs : Declaration.EachReordered ds ds') : Declaration.EachReordered (d :: ds) (d' :: ds')

end

/-- The same namespace with its types in another order, and each of them in another order inside. -/
structure Namespace.Reordered (n n' : Namespace) : Prop where
  name : n.name = n'.name
  messages : ∃ between, List.Forall₂ Message.Reordered n.messages between ∧ between.Perm n'.messages
  enumerations : ∃ between, List.Forall₂ Enumeration.Reordered n.enumerations between ∧ between.Perm n'.enumerations

/-! ## Names, kinds and marks -/

theorem Message.Reordered.isPrivate_eq {m m' : Message} (h : m.Reordered m') : m.isPrivate = m'.isPrivate := by
  cases h
  rfl

theorem Enumeration.Reordered.isPrivate_eq {e e' : Enumeration} (h : e.Reordered e') : e.isPrivate = e'.isPrivate := by
  obtain ⟨values, -, rfl⟩ := h
  rfl

namespace Declaration

theorem Reordered.isMark_eq {d d' : Declaration} (h : d.Reordered d') : d.isMark = d'.isMark := by
  cases h with
  | message h => rfl
  | enumeration h =>
    obtain ⟨values, -, rfl⟩ := h
    rfl

theorem EachReordered.length_filter_isMark {ds ds' : List Declaration} (h : EachReordered ds ds') :
    (ds.filter isMark).length = (ds'.filter isMark).length := by
  induction ds generalizing ds' with
  | nil =>
    cases h
    rfl
  | cons d ds ih =>
    cases h with
    | @cons _ d' _ ds' hd hs =>
      rw [List.filter_cons, List.filter_cons, hd.isMark_eq]
      split
      · rw [List.length_cons, List.length_cons, ih hs]
      · exact ih hs

/-- The names that a mark lists are permuted with its values. -/
theorem EachReordered.markedNames_perm {ds ds' : List Declaration} (h : EachReordered ds ds') :
    (markedNames ds).Perm (markedNames ds') := by
  induction ds generalizing ds' with
  | nil =>
    cases h
    exact .refl _
  | cons d ds ih =>
    cases h with
    | cons hd hs =>
      cases hd with
      | message _ =>
        rw [markedNames, markedNames]
        exact ih hs
      | enumeration he =>
        obtain ⟨values, hvalues, rfl⟩ := he
        rw [markedNames, markedNames]
        split
        · exact hvalues.map _
        · exact ih hs

theorem isMark_enumeration_iff (e : Enumeration) : isMark (.enumeration e) = true ↔ e.name = oneofMark := by
  simp [isMark, isEnumeration, name]

theorem markedNames_filter (ds : List Declaration) : markedNames (ds.filter isMark) = markedNames ds := by
  induction ds with
  | nil => rfl
  | cons d ds ih =>
    cases d with
    | message m => exact ih
    | enumeration e =>
      by_cases he : e.name = oneofMark
      · rw [List.filter_cons_of_pos ((isMark_enumeration_iff e).2 he), markedNames, markedNames, if_pos he, if_pos he]
      · rw [List.filter_cons_of_neg (mt (isMark_enumeration_iff e).1 he), markedNames, if_neg he, ih]

/-- Where there is at most one mark, the order of the types says nothing about the alternatives. -/
theorem markedNames_eq_of_perm {ds ds' : List Declaration} (h : ds.Perm ds') (hmarks : (ds.filter isMark).length ≤ 1) :
    markedNames ds = markedNames ds' := by
  have hfilter : ds.filter isMark = ds'.filter isMark := by
    -- a list of at most one item has no other order
    have hperm := h.filter isMark
    rcases Nat.le_one_iff_eq_zero_or_eq_one.1 hmarks with h0 | h1
    · rw [List.length_eq_zero_iff.1 h0] at hperm ⊢
      exact hperm.nil_eq
    · obtain ⟨mark, hmark⟩ := List.length_eq_one_iff.1 h1
      rw [hmark] at hperm ⊢
      exact hperm.singleton_eq
  rw [← markedNames_filter ds, ← markedNames_filter ds', hfilter]

end Declaration

/-! ## The namespaces that fields refer to -/

/-- The namespaces that the fields of messages refer to, with repetitions. -/
def ownersIn (ms : List Message) : List String :=
  ms.flatMap fun m => m.fields.filterMap fun f => f.type.owner?

theorem ownersIn_append (ms ms' : List Message) : ownersIn (ms ++ ms') = ownersIn ms ++ ownersIn ms' :=
  List.flatMap_append

theorem Declaration.allMessages_eq_flatMap (ds : List Declaration) : allMessages ds = ds.flatMap messages := by
  induction ds with
  | nil => rfl
  | cons d ds ih => rw [allMessages, ih, List.flatMap_cons]

theorem Declaration.ownersIn_perm_of_perm {ds ds' : List Declaration} (h : ds.Perm ds') :
    (ownersIn (allMessages ds)).Perm (ownersIn (allMessages ds')) := by
  rw [allMessages_eq_flatMap, allMessages_eq_flatMap]
  exact (h.flatMap_right _).flatMap_right _

mutual

theorem Message.Reordered.ownersIn_perm {m m' : Message} (h : m.Reordered m') :
    (ownersIn m.all).Perm (ownersIn m'.all) := by
  match h with
  | .intro hfields hnested hperm =>
    have howners := hnested.ownersIn_perm.trans (Declaration.ownersIn_perm_of_perm hperm)
    rw [Message.all, Message.all, ownersIn, ownersIn, List.flatMap_cons, List.flatMap_cons]
    exact (hfields.filterMap _).append howners
termination_by structural h

theorem Declaration.Reordered.ownersIn_perm {d d' : Declaration} (h : d.Reordered d') :
    (ownersIn d.messages).Perm (ownersIn d'.messages) := by
  match h with
  | .message h => exact h.ownersIn_perm
  | .enumeration _ => exact .refl _
termination_by structural h

theorem Declaration.EachReordered.ownersIn_perm {ds ds' : List Declaration} (h : Declaration.EachReordered ds ds') :
    (ownersIn (Declaration.allMessages ds)).Perm (ownersIn (Declaration.allMessages ds')) := by
  match h with
  | .nil => exact .refl _
  | .cons h hs =>
    rw [Declaration.allMessages, Declaration.allMessages, ownersIn_append, ownersIn_append]
    exact h.ownersIn_perm.append hs.ownersIn_perm
termination_by structural h

end

theorem ownersIn_perm_of_forall₂ {ms ms' : List Message} (h : List.Forall₂ Message.Reordered ms ms') :
    (ownersIn (ms.flatMap Message.all)).Perm (ownersIn (ms'.flatMap Message.all)) := by
  induction h with
  | nil => exact .refl _
  | cons hm _ ih =>
    rw [List.flatMap_cons, List.flatMap_cons, ownersIn_append, ownersIn_append]
    exact hm.ownersIn_perm.append ih

/-- The fields of all messages, private ones included, refer to the same namespaces. -/
theorem Namespace.Reordered.referredOwners_perm {n n' : Namespace} (h : n.Reordered n') :
    n.referredOwners.Perm n'.referredOwners := by
  obtain ⟨between, hbetween, hperm⟩ := h.messages
  exact (ownersIn_perm_of_forall₂ hbetween).trans ((hperm.flatMap_right _).flatMap_right _)

end ProtoEmit
