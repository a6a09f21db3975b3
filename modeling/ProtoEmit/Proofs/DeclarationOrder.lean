/-
  The output does not depend on the order of the declarations.

  Fields are told apart by tag and by name, values by number, and types by the key of their name. Where these are
  distinct, every list of the output is a sort of what is declared, so that declarations in another order give the
  same blocks and, for a namespace, the same file.
-/

import ProtoEmit.Proofs.Contents
import ProtoEmit.Proofs.ImportAgreement
import ProtoEmit.Proofs.Reordering

namespace ProtoEmit

/-! ## Distinct keys -/

/-- An enumeration without aliases. -/
def Enumeration.HasDistinctNumbers (e : Enumeration) : Prop :=
  (e.values.map (·.number)).Nodup

/-- What is asked of a nested type itself. -/
def Declaration.HasDistinctNumbers : Declaration → Prop
  | .message _ => True
  | .enumeration e => e.HasDistinctNumbers

instance : DecidablePred Enumeration.HasDistinctNumbers :=
  fun e => inferInstanceAs (Decidable (e.values.map (·.number)).Nodup)

instance : DecidablePred Declaration.HasDistinctNumbers
  | .message _ => inferInstanceAs (Decidable True)
  | .enumeration e => inferInstanceAs (Decidable e.HasDistinctNumbers)

/-- A message whose own declarations can be told apart. -/
@[mk_iff]
structure Message.Keyed (m : Message) : Prop where
  tags : (m.fields.map Field.tag).Nodup
  names : (m.fields.map Field.name).Nodup
  marks : (m.nested.filter Declaration.isMark).length ≤ 1
  enumerations : ((m.nested.filter fun d => d.isEnumeration && !d.isMark).map fun d => Text.sortKey d.name).Nodup
  messages : ((m.nested.filter fun d => !d.isEnumeration).map fun d => Text.sortKey d.name).Nodup
  numbers : ∀ d ∈ m.nested, d.isMark = false → d.HasDistinctNumbers

instance : DecidablePred Message.Keyed :=
  fun m => decidable_of_iff' _ (Message.keyed_iff m)

/-- A message whose declarations can be told apart at any depth. -/
def Message.WellKeyed (m : Message) : Prop :=
  ∀ c ∈ m.all, c.Keyed

instance : DecidablePred Message.WellKeyed :=
  fun m => inferInstanceAs (Decidable (∀ c ∈ m.all, c.Keyed))

/-- A namespace whose public types can be told apart, with all that they declare, and so can those that it
    imports. -/
@[mk_iff]
structure Namespace.WellKeyed (n : Namespace) : Prop where
  types : (n.publicTypes.map fun d => Text.sortKey d.name).Nodup
  messages : ∀ m ∈ n.messages, m.isPrivate = false → m.WellKeyed
  enumerations : ∀ e ∈ n.enumerations, e.isPrivate = false → e.HasDistinctNumbers
  imports : (n.imports.map Text.sortKey).Nodup

instance : DecidablePred Namespace.WellKeyed :=
  fun n => decidable_of_iff' _ (Namespace.wellKeyed_iff n)

/-! ## Fields -/

/-- Among fields of distinct names, those that are taken are those that the names list. -/
theorem takeFields_perm_filter (names : List String) {fields : List Field} (hnodup : (fields.map Field.name).Nodup) :
    (takeFields names fields).1.Perm (fields.filter fun f => f.name ∈ names)
      ∧ (takeFields names fields).2.Perm (fields.filter fun f => f.name ∉ names) := by
  induction names generalizing fields with
  | nil => simp [takeFields]
  | cons name names ih =>
    rw [takeFields]
    cases htake : takeField name fields with
    | none =>
      have hnone := takeField_eq_none_iff.1 htake
      have hmem : ∀ f ∈ fields, (f.name ∈ name :: names ↔ f.name ∈ names) := by
        intro f hf
        simp [hnone f hf]
      rw [List.filter_congr fun f hf => decide_eq_decide.2 (hmem f hf),
        List.filter_congr fun f hf => decide_eq_decide.2 (not_congr (hmem f hf))]
      exact ih hnodup
    | some taken =>
      obtain ⟨f, rest⟩ := taken
      obtain ⟨hname, hperm⟩ := takeField_perm htake
      -- no other field has the name, so it decides on none of them
      have hnodup' := (hperm.map Field.name).nodup_iff.2 hnodup
      rw [List.map_cons, List.nodup_cons, hname] at hnodup'
      have hmem : ∀ g ∈ rest, (g.name ∈ name :: names ↔ g.name ∈ names) := by
        intro g hg
        have hne : g.name ≠ name := fun h => hnodup'.1 (h ▸ List.mem_map_of_mem hg)
        simp [hne]
      obtain ⟨hgroup, hflat⟩ := ih hnodup'.2
      constructor
      · refine List.Perm.trans ?_ (hperm.filter _)
        rw [List.filter_cons_of_pos (by simp [hname]), List.filter_congr fun g hg => decide_eq_decide.2 (hmem g hg)]
        exact hgroup.cons f
      · refine List.Perm.trans ?_ (hperm.filter _)
        rw [List.filter_cons_of_neg (by simp [hname]),
          List.filter_congr fun g hg => decide_eq_decide.2 (not_congr (hmem g hg))]
        exact hflat

theorem takeFields_perm_of_perm {marked marked' : List String} {fields fields' : List Field}
    (hmarked : marked.Perm marked') (hfields : fields.Perm fields') (hnodup : (fields.map Field.name).Nodup) :
    (takeFields marked fields).1.Perm (takeFields marked' fields').1
      ∧ (takeFields marked fields).2.Perm (takeFields marked' fields').2 := by
  obtain ⟨hgroup, hflat⟩ := takeFields_perm_filter marked hnodup
  obtain ⟨hgroup', hflat'⟩ := takeFields_perm_filter marked' ((hfields.map Field.name).nodup_iff.1 hnodup)
  simp only [← hmarked.mem_iff] at hgroup' hflat'
  exact ⟨hgroup.trans ((hfields.filter _).trans hgroup'.symm), hflat.trans ((hfields.filter _).trans hflat'.symm)⟩

theorem splitAtGroup_eq_of_perm {group group' : List Field} (h : group.Perm group') (fields : List Field) :
    splitAtGroup group fields = splitAtGroup group' fields := by
  have hmin : (group.map Field.tag).min? = (group'.map Field.tag).min? := by
    ext least
    rw [List.min?_eq_some_iff, List.min?_eq_some_iff]
    simp only [(h.map Field.tag).mem_iff]
  rw [splitAtGroup, splitAtGroup, countBelow, countBelow, hmin]

/-! ## Values -/

/-- The value that comes first is the same, and so are the others but for their order. -/
theorem Enumeration.splitZero_of_perm {e : Enumeration} {values : List EnumValue} (h : e.values.Perm values)
    (hnumbers : e.HasDistinctNumbers) :
    ∃ zero rest rest' added, e.splitZero = (zero, rest, added)
      ∧ ({ e with values := values } : Enumeration).splitZero = (zero, rest', added)
      ∧ rest.Perm rest' ∧ rest ⊆ e.values := by
  unfold splitZero
  cases htake : takeZero e.values with
  | none =>
    have htake' : takeZero values = none := by
      rw [takeZero_eq_none_iff] at htake ⊢
      exact fun v hv => htake v (h.mem_iff.2 hv)
    simp only [htake']
    exact ⟨_, _, _, _, rfl, rfl, h, List.Subset.refl _⟩
  | some taken =>
    obtain ⟨zero, rest⟩ := taken
    obtain ⟨hzero, hperm⟩ := takeZero_perm htake
    have hmem : zero ∈ e.values := hperm.mem_iff.1 List.mem_cons_self
    cases htake' : takeZero values with
    | none => exact absurd hzero (takeZero_eq_none_iff.1 htake' zero (h.mem_iff.1 hmem))
    | some taken' =>
      obtain ⟨zero', rest'⟩ := taken'
      obtain ⟨hzero', hperm'⟩ := takeZero_perm htake'
      have hmem' : zero' ∈ e.values := h.mem_iff.2 (hperm'.mem_iff.1 List.mem_cons_self)
      have heq : zero = zero' := List.inj_on_of_nodup_map hnumbers hmem hmem' (hzero.trans hzero'.symm)
      subst heq
      refine ⟨zero, rest, rest', false, rfl, rfl, ?_, ?_⟩
      · exact (hperm.trans (h.trans hperm'.symm)).cons_inv
      · exact fun v hv => hperm.mem_iff.1 (List.mem_cons_of_mem _ hv)

theorem Enumeration.Reordered.outline_eq {e e' : Enumeration} (h : e.Reordered e') (hnumbers : e.HasDistinctNumbers) :
    e.outline = e'.outline := by
  obtain ⟨values, hperm, rfl⟩ := h
  obtain ⟨zero, rest, rest', added, hsplit, hsplit', hrest, hsub⟩ := splitZero_of_perm hperm hnumbers
  have hsort : Text.sortByNumber EnumValue.number rest = Text.sortByNumber EnumValue.number rest' := by
    refine Text.sortByNumber_eq_of_perm hrest ?_
    exact fun a ha b hb hab => List.inj_on_of_nodup_map hnumbers (hsub ha) (hsub hb) hab
  have halias : e.aliased = false := hasRepetition_eq_false_iff.2 hnumbers
  have halias' : ({ e with values := values } : Enumeration).aliased = false :=
    hasRepetition_eq_false_iff.2 ((hperm.map _).nodup_iff.1 hnumbers)
  simp only [outline, hsplit, hsplit', halias, halias', hsort]

/-! ## Types -/

theorem enumerationsFirst_eq_of_perm {α : Type} {isEnum : α → Bool} {name : α → String} {items others : List α}
    (h : items.Perm others)
    (hkeys : ∀ a ∈ items, ∀ b ∈ items, isEnum a = isEnum b → Text.sortKey (name a) = Text.sortKey (name b) → a = b) :
    enumerationsFirst isEnum name items = enumerationsFirst isEnum name others := by
  unfold enumerationsFirst
  congr 1
  · refine Text.sortByName_eq_of_perm (h.filter _) ?_
    intro a ha b hb hab
    rw [List.mem_filter] at ha hb
    exact hkeys a ha.1 b hb.1 (ha.2.trans hb.2.symm) hab
  · refine Text.sortByName_eq_of_perm (h.filter _) ?_
    intro a ha b hb hab
    rw [List.mem_filter, Bool.not_eq_true'] at ha hb
    exact hkeys a ha.1 b hb.1 (ha.2.trans hb.2.symm) hab

/-! ## Messages -/

theorem messageBlock_eq_of_perm (scope : Scope) (origin name : String) {fields fields' : List Field}
    {marked marked' : List String} {blocks blocks' : List Block} (hmarked : marked.Perm marked')
    (hfields : fields.Perm fields') (htags : (fields.map Field.tag).Nodup) (hnames : (fields.map Field.name).Nodup)
    (hblocks : (blocks.filter fun b => !b.isMark).Perm (blocks'.filter fun b => !b.isMark))
    (hkeys : ∀ a ∈ blocks.filter fun b => !b.isMark, ∀ b ∈ blocks.filter fun b => !b.isMark,
      a.isEnumeration = b.isEnumeration → Text.sortKey a.name = Text.sortKey b.name → a = b) :
    messageBlock scope origin name fields marked blocks = messageBlock scope origin name fields' marked' blocks' := by
  obtain ⟨hgroup, hflat⟩ := takeFields_perm_of_perm hmarked hfields hnames
  -- names decide which fields are taken, tags how each part is sorted
  have hsort : ∀ {taken taken' : List Field}, taken.Perm taken' → taken ⊆ fields →
      Text.sortByNumber Field.tag taken = Text.sortByNumber Field.tag taken' := by
    intro taken taken' hperm hsub
    refine Text.sortByNumber_eq_of_perm hperm ?_
    exact fun a ha b hb hab => List.inj_on_of_nodup_map htags (hsub ha) (hsub hb) hab
  have hall := takeFields_perm marked fields
  have hgroupSort := hsort hgroup fun f hf => hall.mem_iff.1 (List.mem_append_left _ hf)
  have hflatSort := hsort hflat fun f hf => hall.mem_iff.1 (List.mem_append_right _ hf)
  rw [messageBlock_eq, messageBlock_eq, hgroupSort, hflatSort, splitAtGroup_eq_of_perm hgroup,
    enumerationsFirst_eq_of_perm hblocks hkeys]

theorem Declaration.filter_outlines (scope : Scope) (ds : List Declaration) :
    ((Declaration.outlines scope ds).filter fun b => !b.isMark) =
      (ds.filter fun d => !d.isMark).map (Declaration.outline scope) := by
  rw [outlines_eq_map, List.filter_map]
  simp only [Function.comp_def, isMark_outline]

/-- Kind and key tell the nested types of a message apart. -/
theorem Message.Keyed.eq_of_sortKey_eq {m : Message} (h : m.Keyed) (scope : Scope) :
    ∀ a ∈ (Declaration.outlines scope m.nested).filter fun b => !b.isMark,
      ∀ b ∈ (Declaration.outlines scope m.nested).filter fun b => !b.isMark,
        a.isEnumeration = b.isEnumeration → Text.sortKey a.name = Text.sortKey b.name → a = b := by
  rw [Declaration.filter_outlines]
  intro a ha b hb hkind hkey
  obtain ⟨d, hd, rfl⟩ := List.mem_map.1 ha
  obtain ⟨d', hd', rfl⟩ := List.mem_map.1 hb
  rw [Declaration.isEnumeration_outline, Declaration.isEnumeration_outline] at hkind
  rw [Declaration.name_outline, Declaration.name_outline] at hkey
  rw [List.mem_filter] at hd hd'
  congr 1
  cases henum : d.isEnumeration with
  | true =>
    refine List.inj_on_of_nodup_map h.enumerations ?_ ?_ hkey
    · simpa [henum] using hd
    · simpa [← hkind, henum] using hd'
  | false =>
    refine List.inj_on_of_nodup_map h.messages ?_ ?_ hkey
    · simpa [henum] using hd.1
    · simpa [← hkind, henum] using hd'.1

mutual

/-- A well-keyed message has the same block in every order of its declarations. -/
theorem Message.Reordered.outline_eq {m m' : Message} (h : m.Reordered m') (hkeys : m.WellKeyed) (scope : Scope) :
    m.outline scope = m'.outline scope := by
  match h with
  | @Message.Reordered.intro name origin fields fields' nested between nested' isPrivate hfields hnested hperm =>
    rw [Message.WellKeyed, Message.all, List.forall_mem_cons] at hkeys
    obtain ⟨hown, hinner⟩ := hkeys
    -- `between` has the order of the one list and the types of the other
    have hmarks : (between.filter Declaration.isMark).length ≤ 1 := by
      rw [← hnested.length_filter_isMark]
      exact hown.marks
    have hmarked : (markedNames nested).Perm (markedNames nested') := by
      rw [← Declaration.markedNames_eq_of_perm hperm hmarks]
      exact hnested.markedNames_perm
    have hblocks : ((Declaration.outlines (scope.enter name) nested).filter fun b => !b.isMark).Perm
        ((Declaration.outlines (scope.enter name) nested').filter fun b => !b.isMark) := by
      rw [Declaration.filter_outlines, Declaration.filter_outlines, hnested.outlines_eq hinner hown.numbers]
      exact (hperm.filter _).map _
    rw [Message.outline, Message.outline]
    exact messageBlock_eq_of_perm scope origin name hmarked hfields hown.tags hown.names hblocks
      (hown.eq_of_sortKey_eq _)
termination_by structural h

theorem Declaration.Reordered.outline_eq {d d' : Declaration} (h : d.Reordered d') (hkeys : ∀ c ∈ d.messages, c.Keyed)
    (hnumbers : d.HasDistinctNumbers) (scope : Scope) : d.outline scope = d'.outline scope := by
  match h with
  | .message h => exact h.outline_eq hkeys scope
  | .enumeration h => exact congrArg Block.enumeration (h.outline_eq hnumbers)
termination_by structural h

theorem Declaration.EachReordered.outlines_eq {ds ds' : List Declaration} (h : Declaration.EachReordered ds ds')
    (hkeys : ∀ c ∈ Declaration.allMessages ds, c.Keyed)
    (hnumbers : ∀ d ∈ ds, d.isMark = false → d.HasDistinctNumbers) (scope : Scope) :
    (ds.filter fun d => !d.isMark).map (Declaration.outline scope) =
      (ds'.filter fun d => !d.isMark).map (Declaration.outline scope) := by
  match h with
  | .nil => rfl
  | @Declaration.EachReordered.cons d d' ds ds' hd hs =>
    rw [Declaration.allMessages, List.forall_mem_append] at hkeys
    rw [List.forall_mem_cons] at hnumbers
    have ih := hs.outlines_eq hkeys.2 hnumbers.2 scope
    rw [List.filter_cons, List.filter_cons, ← hd.isMark_eq]
    -- the block of a mark may change with its values, but marks are left out
    cases hmark : d.isMark with
    | true => simpa using ih
    | false => simp [hd.outline_eq hkeys.1 (hnumbers.1 hmark) scope, ih]
termination_by structural h

end

/-! ## Namespaces -/

/-- Lists of related items give the same results, if related items are kept alike and those kept give the same. -/
theorem map_filter_eq_of_forall₂ {α β : Type} {R : α → α → Prop} {keep : α → Bool} (g : α → β) {xs ys : List α}
    (h : List.Forall₂ R xs ys) (hkeep : ∀ x y, R x y → keep x = keep y)
    (hg : ∀ x ∈ xs, keep x = true → ∀ y, R x y → g x = g y) : (xs.filter keep).map g = (ys.filter keep).map g := by
  induction h with
  | nil => rfl
  | @cons x y xs ys hxy _ ih =>
    rw [List.forall_mem_cons] at hg
    rw [List.filter_cons, List.filter_cons, ← hkeep x y hxy]
    cases hx : keep x with
    | true => simp [hg.1 hx y hxy, ih hg.2]
    | false => simpa using ih hg.2

namespace Namespace

/-- The blocks of the public types: of the enumerations, then of the messages. -/
theorem map_outline_publicTypes (n : Namespace) (scope : Scope) :
    n.publicTypes.map (Declaration.outline scope) =
      (n.enumerations.filter fun e => !e.isPrivate).map (fun e => .enumeration e.outline)
        ++ (n.messages.filter fun m => !m.isPrivate).map (Message.outline scope) := by
  unfold publicTypes
  rw [List.filter_append, List.filter_map, List.filter_map, List.map_append, List.map_map, List.map_map]
  rfl

theorem unitBlocks_eq_sortByName (n : Namespace) :
    n.unitBlocks = Text.sortByName Block.name (n.publicTypes.map (Declaration.outline ⟨n.name, []⟩)) := by
  unfold unitBlocks Declaration.interleaved
  rw [Declaration.outlines_eq_map, Text.sortByName_map (Declaration.name_outline _)]

variable {n n' : Namespace}

theorem Reordered.unitBlocks_eq (h : n.Reordered n') (hkeys : n.WellKeyed) : n.unitBlocks = n'.unitBlocks := by
  obtain ⟨ms, hms, hmsperm⟩ := h.messages
  obtain ⟨es, hes, hesperm⟩ := h.enumerations
  -- private types need no keys, since they have no blocks here
  have hmessages : (n.messages.filter fun m => !m.isPrivate).map (Message.outline ⟨n.name, []⟩) =
      (ms.filter fun m => !m.isPrivate).map (Message.outline ⟨n.name, []⟩) := by
    refine map_filter_eq_of_forall₂ _ hms (fun m m' hm => by rw [hm.isPrivate_eq]) ?_
    intro m hm hpublic m' hreordered
    exact hreordered.outline_eq (hkeys.messages m hm (by simpa using hpublic)) _
  have henumerations : (n.enumerations.filter fun e => !e.isPrivate).map (fun e => Block.enumeration e.outline) =
      (es.filter fun e => !e.isPrivate).map (fun e => Block.enumeration e.outline) := by
    refine map_filter_eq_of_forall₂ _ hes (fun e e' he => by rw [he.isPrivate_eq]) ?_
    intro e he hpublic e' hreordered
    rw [hreordered.outline_eq (hkeys.enumerations e he (by simpa using hpublic))]
  rw [unitBlocks_eq_sortByName, unitBlocks_eq_sortByName, ← h.name]
  refine Text.sortByName_eq_of_perm ?_ ?_
  · rw [map_outline_publicTypes, map_outline_publicTypes, hmessages, henumerations]
    exact ((hesperm.filter _).map _).append ((hmsperm.filter _).map _)
  · intro a ha b hb hab
    obtain ⟨d, hd, rfl⟩ := List.mem_map.1 ha
    obtain ⟨d', hd', rfl⟩ := List.mem_map.1 hb
    rw [Declaration.name_outline, Declaration.name_outline] at hab
    rw [List.inj_on_of_nodup_map hkeys.types hd hd' hab]

theorem Reordered.imports_perm (h : n.Reordered n') : n.imports.Perm n'.imports := by
  unfold imports
  refine (List.perm_ext_iff_of_nodup (nodup_eraseDups _) (nodup_eraseDups _)).2 ?_
  intro owner
  rw [List.mem_eraseDups, List.mem_eraseDups, ← h.name]
  exact (h.referredOwners_perm.filter _).mem_iff

theorem Reordered.sortedImports_eq (h : n.Reordered n') (hkeys : n.WellKeyed) : n.sortedImports = n'.sortedImports := by
  refine Text.sortByName_eq_of_perm h.imports_perm ?_
  exact fun a ha b hb hab => List.inj_on_of_nodup_map hkeys.imports ha hb hab

end Namespace

/-- Declarations in another order give the same lines for a well-keyed message, and the same file, reports
    included, for a well-keyed namespace. -/
theorem output_unchanged_by_reordering :
    (∀ m m' : Message, m.WellKeyed → m.Reordered m' → ∀ (scope : Scope) (references : Bool) (indent : String),
        (m.outline scope).lines references indent = (m'.outline scope).lines references indent)
      ∧ ∀ n n' : Namespace, n.WellKeyed → n.Reordered n' → ∀ (references : Bool) (files : List (String × Path)),
          n.unit references files = n'.unit references files := by
  constructor
  · intro m m' hkeys h scope references indent
    rw [h.outline_eq hkeys scope]
  · intro n n' hkeys h references files
    unfold Namespace.unit Namespace.importFiles Namespace.missingImports
    rw [h.unitBlocks_eq hkeys, h.sortedImports_eq hkeys, h.name]

/-- A message with alternatives, and with an enumeration inside a nested message. -/
def basket : Message where
  name := "Basket"
  fields :=
    [⟨"Price", .reference ⟨"Money", "Amount"⟩, ⟨.singular, 3, true⟩⟩, ⟨"Gift", .scalar .bool, ⟨.singular, 2, true⟩⟩,
      ⟨"Owner", .reference ⟨"People", "Person"⟩, ⟨.singular, 1, true⟩⟩]
  nested :=
    [.message { name := "Line", nested := [.enumeration { name := "Kind", values := [⟨"Plain", 4⟩, ⟨"Marked", 2⟩] }] },
      .enumeration { name := "MessageOneofCase", values := [⟨"Gift", 0⟩, ⟨"Price", 0⟩] },
      .enumeration { name := "State", values := [⟨"Open", 1⟩, ⟨"Closed", 0⟩] }]

/-- The same message in another order, down to the values in the nested message. -/
def basketReordered : Message where
  name := "Basket"
  fields :=
    [⟨"Owner", .reference ⟨"People", "Person"⟩, ⟨.singular, 1, true⟩⟩, ⟨"Gift", .scalar .bool, ⟨.singular, 2, true⟩⟩,
      ⟨"Price", .reference ⟨"Money", "Amount"⟩, ⟨.singular, 3, true⟩⟩]
  nested :=
    [.enumeration { name := "State", values := [⟨"Closed", 0⟩, ⟨"Open", 1⟩] },
      .enumeration { name := "MessageOneofCase", values := [⟨"Price", 0⟩, ⟨"Gift", 0⟩] },
      .message { name := "Line", nested := [.enumeration { name := "Kind", values := [⟨"Marked", 2⟩, ⟨"Plain", 4⟩] }] }]

theorem basket_reordered : basket.Reordered basketReordered := by
  have hline : Message.Reordered
      { name := "Line", nested := [.enumeration { name := "Kind", values := [⟨"Plain", 4⟩, ⟨"Marked", 2⟩] }] }
      { name := "Line", nested := [.enumeration { name := "Kind", values := [⟨"Marked", 2⟩, ⟨"Plain", 4⟩] }] } :=
    .intro (.refl _) (.cons (.enumeration ⟨_, by decide, rfl⟩) .nil) (.refl _)
  refine .intro (by decide) ?_ (List.reverse_perm _)
  exact .cons (.message hline)
    (.cons (.enumeration ⟨_, by decide, rfl⟩) (.cons (.enumeration ⟨_, by decide, rfl⟩) .nil))

/-- A namespace that refers to two others. -/
def market : Namespace where
  name := "Market"
  messages := [basket, { name := "Aisle" }]
  enumerations := [{ name := "Color", values := [⟨"Red", 2⟩, ⟨"Blue", 1⟩] }]

def marketReordered : Namespace where
  name := "Market"
  messages := [{ name := "Aisle" }, basketReordered]
  enumerations := [{ name := "Color", values := [⟨"Blue", 1⟩, ⟨"Red", 2⟩] }]

theorem market_unchanged_by_reordering :
    basket.WellKeyed ∧ basket.Reordered basketReordered ∧ market.WellKeyed ∧ market.Reordered marketReordered
      ∧ (∀ scope references indent,
          (basket.outline scope).lines references indent = (basketReordered.outline scope).lines references indent)
      ∧ ∀ references files, market.unit references files = marketReordered.unit references files := by
  have hbasket : basket.WellKeyed := by decide +kernel
  have hmarket : market.WellKeyed := by decide +kernel
  have hreordered : market.Reordered marketReordered :=
    ⟨rfl, ⟨_, .cons basket_reordered (.cons (.intro (.refl _) .nil (.refl _)) .nil), .swap _ _ _⟩,
      ⟨_, .cons ⟨_, by decide, rfl⟩ .nil, .refl _⟩⟩
  obtain ⟨hlines, hunit⟩ := output_unchanged_by_reordering
  exact ⟨hbasket, basket_reordered, hmarket, hreordered, hlines _ _ hbasket basket_reordered,
    hunit _ _ hmarket hreordered⟩

end ProtoEmit
