/-
  The names of values in one scope.

  The values of all enumerations in a scope share that scope, so the name of a value starts with the name of its
  enumeration and an underscore. Names may have underscores themselves, and the joined name does not tell where
  the first part ends: `Order` with a value `Status_Open` and `Order_Status` with a value `Open` show one name. Two
  names meet in this way only, or where a declared value has the name of the zero that is added beside it.
-/

import Mathlib.Data.List.Lattice
import Mathlib.Data.List.Nodup
import Mathlib.Data.List.Pairwise
import Mathlib.Data.List.Perm.Basic
import ProtoEmit.Proofs.EnumValues
import ProtoEmit.Proofs.Lines

namespace ProtoEmit

/-! ## Joined names -/

/-- If the first part of one joined name starts the first part of the other, it is the whole of it, or it goes on
    with an underscore and a tail, which the first name has in its second part. -/
theorem parts_eq_or_exists_tail {a b v w : String} {more : List Char} (hfirst : b.toList = a.toList ++ more)
    (hsecond : '_' :: v.toList = more ++ '_' :: w.toList) :
    (a = b ∧ v = w) ∨ ∃ tail, b = a ++ "_" ++ tail ∧ v = tail ++ "_" ++ w := by
  cases more with
  | nil =>
    refine .inl ⟨String.toList_inj.1 ?_, String.toList_inj.1 ?_⟩
    · simpa using hfirst.symm
    · simpa using hsecond
  | cons c more =>
    obtain ⟨rfl, hsecond⟩ := List.cons.inj hsecond
    refine .inr ⟨String.ofList more, String.toList_inj.1 ?_, String.toList_inj.1 ?_⟩
    · simpa using hfirst
    · simpa using hsecond

/-- Two names joined with underscores are equal if their parts are, or if one first part goes on with an
    underscore and a tail that the other name has in its second part. -/
theorem join_eq_join_iff (a b v w : String) :
    a ++ "_" ++ v = b ++ "_" ++ w ↔
      (a = b ∧ v = w) ∨ (∃ tail, b = a ++ "_" ++ tail ∧ v = tail ++ "_" ++ w) ∨
        ∃ tail, a = b ++ "_" ++ tail ∧ w = tail ++ "_" ++ v := by
  constructor
  · intro h
    have hchars : a.toList ++ '_' :: v.toList = b.toList ++ '_' :: w.toList := by
      simpa using congrArg String.toList h
    rcases List.append_eq_append_iff.1 hchars with ⟨more, hb, hv⟩ | ⟨more, ha, hw⟩
    · rcases parts_eq_or_exists_tail hb hv with hparts | htail
      · exact .inl hparts
      · exact .inr (.inl htail)
    · rcases parts_eq_or_exists_tail ha hw with ⟨hname, hvalue⟩ | htail
      · exact .inl ⟨hname.symm, hvalue.symm⟩
      · exact .inr (.inr htail)
  · rintro (⟨rfl, rfl⟩ | ⟨tail, rfl, rfl⟩ | ⟨tail, rfl, rfl⟩)
    · rfl
    · simp only [String.append_assoc]
    · simp only [String.append_assoc]

/-! ## Names that meet -/

namespace Enumeration

/-- The name under which a value is listed. -/
def shownName (e : Enumeration) (v : EnumValue) : String :=
  e.name ++ "_" ++ v.name

/-- No declared value is zero, and one of them has the name of the zero that is added. -/
def DeclaresExtraZero (e : Enumeration) : Prop :=
  (∀ v ∈ e.values, v.number ≠ 0) ∧ ∃ v ∈ e.values, v.name = e.name ++ "_AUTO_INVALID"

instance : DecidablePred DeclaresExtraZero :=
  fun _ => inferInstanceAs (Decidable (_ ∧ _))

/-- The name of `e'` is that of `e` with a tail, and a value of `e` has this tail and the name of a value of `e'`. -/
def Overlaps (e e' : Enumeration) : Prop :=
  ∃ tail, e'.name = e.name ++ "_" ++ tail ∧
    ∃ v ∈ e.completed, ∃ v' ∈ e'.completed, v.name = tail ++ "_" ++ v'.name

/-- Of two enumerations that show a value under one name, the one with the shorter name overlaps the other. -/
theorem overlaps_iff (e e' : Enumeration) :
    e.Overlaps e' ↔ e.name.toList.length < e'.name.toList.length ∧
      ∃ v ∈ e.completed, ∃ v' ∈ e'.completed, e.shownName v = e'.shownName v' := by
  constructor
  · rintro ⟨tail, hname, v, hv, v', hv', hvalue⟩
    have hlength : e'.name.toList.length = e.name.toList.length + (tail.toList.length + 1) := by
      simp [hname]
    refine ⟨by omega, v, hv, v', hv', ?_⟩
    exact (join_eq_join_iff _ _ _ _).2 (.inr (.inl ⟨tail, hname, hvalue⟩))
  · rintro ⟨hlength, v, hv, v', hv', hshown⟩
    rcases (join_eq_join_iff _ _ _ _).1 hshown with ⟨hname, -⟩ | ⟨tail, hname, hvalue⟩ | ⟨tail, hname, -⟩
    · exact absurd hlength (by simp [hname])
    · exact ⟨tail, hname, v, hv, v', hv', hvalue⟩
    · simp only [hname, String.toList_append, List.length_append] at hlength
      omega

instance : DecidableRel Overlaps :=
  fun e e' => decidable_of_iff' _ (overlaps_iff e e')

/-- The values of one enumeration have distinct names, but for the one that is added. -/
theorem nodup_shownNames_iff {e : Enumeration} (h : (e.values.map (·.name)).Nodup) :
    (e.completed.map e.shownName).Nodup ↔ ¬ e.DeclaresExtraZero := by
  have hinj : Function.Injective fun name => e.name ++ "_" ++ name := by
    intro s t hst
    simpa using hst
  have hshown : e.completed.map e.shownName = (e.completed.map (·.name)).map fun name => e.name ++ "_" ++ name := by
    rw [List.map_map]
    rfl
  rw [hshown, List.nodup_map_iff hinj]
  unfold completed DeclaresExtraZero
  split
  · rename_i hzero
    obtain ⟨v, hv, hnumber⟩ := hzero
    exact ⟨fun _ hnone => hnone.1 v hv hnumber, fun _ => h⟩
  · rename_i hnone
    have hnone' : ∀ v ∈ e.values, v.number ≠ 0 := fun v hv hnumber => hnone ⟨v, hv, hnumber⟩
    rw [List.map_cons, List.nodup_cons, and_iff_left h, List.mem_map, and_iff_right hnone']
    rfl

/-- Enumerations of different names share the name of a value exactly if one of them overlaps the other. -/
theorem disjoint_shownNames_iff {e e' : Enumeration} (h : e.name ≠ e'.name) :
    List.Disjoint (e.completed.map e.shownName) (e'.completed.map e'.shownName) ↔
      ¬ e.Overlaps e' ∧ ¬ e'.Overlaps e := by
  rw [← not_or, ← not_iff_not, not_not, List.disjoint_left]
  constructor
  · intro hshared
    simp only [not_forall, not_not] at hshared
    obtain ⟨name, hmem, hmem'⟩ := hshared
    obtain ⟨v, hv, rfl⟩ := List.mem_map.1 hmem
    obtain ⟨v', hv', heq⟩ := List.mem_map.1 hmem'
    rcases (join_eq_join_iff _ _ _ _).1 heq with ⟨hname, -⟩ | ⟨tail, hname, hvalue⟩ | ⟨tail, hname, hvalue⟩
    · exact absurd hname.symm h
    · exact .inr ⟨tail, hname, v', hv', v, hv, hvalue⟩
    · exact .inl ⟨tail, hname, v, hv, v', hv', hvalue⟩
  · rintro (hoverlap | hoverlap) hdisjoint
    · obtain ⟨-, v, hv, v', hv', hshown⟩ := (overlaps_iff e e').1 hoverlap
      exact hdisjoint (List.mem_map_of_mem hv) (hshown ▸ List.mem_map_of_mem hv')
    · obtain ⟨-, v', hv', v, hv, hshown⟩ := (overlaps_iff e' e).1 hoverlap
      exact hdisjoint (List.mem_map_of_mem hv) (hshown ▸ List.mem_map_of_mem hv')

/-! ## The lines of a scope -/

/-- The names of values on the lines of enumerations that are written into one scope. -/
def namesOnLines (es : List Enumeration) (scope : Scope) (references : Bool) (indent : String) : List String :=
  (valuesOn indent (Block.linesAll references indent
    (Declaration.outlines scope (es.map Declaration.enumeration)))).map (·.name)

theorem namesOnLines_perm (es : List Enumeration) (scope : Scope) (references : Bool) (indent : String) :
    (namesOnLines es scope references indent).Perm (es.flatMap fun e => e.completed.map e.shownName) := by
  have hlines : namesOnLines es scope references indent = es.flatMap fun e => e.outline.values.map e.shownName := by
    unfold namesOnLines valuesOn
    rw [Declaration.outlines_eq_map, Block.linesAll_eq_flatMap, List.map_map, List.flatMap_map,
      List.filterMap_flatMap, List.map_flatMap]
    congr 1
    funext e
    have hvalues := valuesOn_enumLines references indent e.outline
    unfold valuesOn at hvalues
    show ((e.outline.lines references indent).filterMap _).map _ = _
    rw [hvalues, List.map_map]
    rfl
  rw [hlines]
  exact List.Perm.flatMap_left _ fun e _ => e.values_outline_perm.map e.shownName

/-- Enumerations of distinct names whose values have distinct names are written with distinct names of values
    exactly if none of them declares the zero that is added, and none overlaps another. -/
theorem value_names_distinct_iff (es : List Enumeration) (scope : Scope) (references : Bool) (indent : String)
    (hnames : (es.map (·.name)).Nodup) (hvalues : ∀ e ∈ es, (e.values.map (·.name)).Nodup) :
    (namesOnLines es scope references indent).Nodup ↔
      (∀ e ∈ es, ¬ e.DeclaresExtraZero) ∧ ∀ e ∈ es, ∀ e' ∈ es, ¬ e.Overlaps e' := by
  have hown : (∀ e ∈ es, (e.completed.map e.shownName).Nodup) ↔ ∀ e ∈ es, ¬ e.DeclaresExtraZero :=
    forall₂_congr fun e he => nodup_shownNames_iff (hvalues e he)
  have hne : ∀ e ∈ es, ∀ e' ∈ es, e ≠ e' → e.name ≠ e'.name :=
    fun e he e' he' hne hname => hne (List.inj_on_of_nodup_map hnames he he' hname)
  have hothers : es.Pairwise (Function.onFun List.Disjoint fun e => e.completed.map e.shownName) ↔
      ∀ e ∈ es, ∀ e' ∈ es, ¬ e.Overlaps e' := by
    constructor
    · intro hpairwise e he e' he' hoverlap
      -- a name is not itself with a tail, so these are two enumerations
      have hdistinct : e ≠ e' := by
        rintro rfl
        exact absurd ((overlaps_iff _ _).1 hoverlap).1 (Nat.lt_irrefl _)
      have hsymm : Std.Symm (Function.onFun List.Disjoint fun e : Enumeration => e.completed.map e.shownName) :=
        ⟨fun _ _ h => List.Disjoint.symm h⟩
      have hdisjoint := hpairwise.forall he he' hdistinct
      exact ((disjoint_shownNames_iff (hne e he e' he' hdistinct)).1 hdisjoint).1 hoverlap
    · intro hnone
      refine hnames.of_map.pairwise_of_forall_ne fun e he e' he' hdistinct => ?_
      exact (disjoint_shownNames_iff (hne e he e' he' hdistinct)).2 ⟨hnone e he e' he', hnone e' he' e he⟩
  rw [(namesOnLines_perm es scope references indent).nodup_iff, List.nodup_flatMap, hown, hothers]

end Enumeration

/-- Two enumerations of which one name goes on where the other ends. The second one has no zero. -/
def statusAndKind : List Enumeration :=
  [⟨"Status", "", [⟨"Open", 0⟩, ⟨"Kind", 1⟩, ⟨"Kind_Of", 1⟩], false⟩,
    ⟨"Status_Kind", "", [⟨"Open", 1⟩, ⟨"AUTO_INVALID", 2⟩], false⟩]

/-- No value of the first one goes on in the same way, so all names are distinct. -/
theorem statusAndKind_value_names_distinct :
    (statusAndKind.map (·.name)).Nodup ∧ (∀ e ∈ statusAndKind, (e.values.map (·.name)).Nodup) ∧
      (Enumeration.namesOnLines statusAndKind ⟨"Shop", []⟩ false "").Nodup := by
  refine ⟨by decide, by decide, ?_⟩
  refine (Enumeration.value_names_distinct_iff statusAndKind _ _ _ (by decide) (by decide)).2 ⟨?_, ?_⟩
  · decide
  · decide

/-- Two enumerations, of which the first has a value that goes on as the name of the second does. -/
def orderAndStatus : List Enumeration :=
  [⟨"Order", "", [⟨"Status_Open", 0⟩], false⟩, ⟨"Order_Status", "", [⟨"Open", 0⟩], false⟩]

/-- An enumeration without a zero that declares the name of the one that is added. -/
def bareLevel : Enumeration :=
  ⟨"Level", "", [⟨"Level_AUTO_INVALID", 1⟩], false⟩

/-- All declared names are distinct, and still one name stands on two lines. -/
theorem value_name_on_two_lines :
    (orderAndStatus.map (·.name)).Nodup ∧ (∀ e ∈ orderAndStatus, (e.values.map (·.name)).Nodup) ∧
      Block.linesAll false "" (Declaration.outlines ⟨"Shop", []⟩ (orderAndStatus.map Declaration.enumeration)) =
        ["enum Order \x7b", "\tOrder_Status_Open = 0;", "\x7d", "",
          "enum Order_Status \x7b", "\tOrder_Status_Open = 0;", "\x7d", ""] ∧
      ¬ (Enumeration.namesOnLines orderAndStatus ⟨"Shop", []⟩ false "").Nodup ∧
      (bareLevel.values.map (·.name)).Nodup ∧
      Block.linesAll false "" (Declaration.outlines ⟨"Shop", []⟩ [.enumeration bareLevel]) =
        ["enum Level \x7b", "\tLevel_Level_AUTO_INVALID = 0;", "\tLevel_Level_AUTO_INVALID = 1;", "\x7d", ""] ∧
      ¬ (Enumeration.namesOnLines [bareLevel] ⟨"Shop", []⟩ false "").Nodup := by
  refine ⟨by decide, by decide, by cbv, ?_, by decide, by cbv, ?_⟩
  · rw [(Enumeration.namesOnLines_perm _ _ _ _).nodup_iff]
    decide
  · rw [(Enumeration.namesOnLines_perm _ _ _ _).nodup_iff]
    decide

end ProtoEmit
