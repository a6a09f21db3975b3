/-
  What a block holds of the declaration that it stands for.

  Taking out the alternatives, splitting the other fields around them and sorting all of them lose no field and
  invent none, so the lines of a message's block are those of its fields. Its nested blocks are those of its
  nested types without the marks, in the order in which the types themselves would be listed. An enumeration
  shows its own values, and one more if none of them is zero.
-/

import ProtoEmit.Outline
import ProtoEmit.Proofs.Order

namespace ProtoEmit

/-! ## Taking an item out of a list -/

/-- Takes the first item that passes a test out of a list. -/
def takeFirst {α : Type} (test : α → Bool) : List α → Option (α × List α)
  | [] => none
  | a :: rest => if test a then some (a, rest) else (takeFirst test rest).map fun (b, others) => (b, a :: others)

theorem takeFirst_eq {α : Type} (test : α → Bool) (items : List α) :
    takeFirst test items = (items.find? test).map fun a => (a, items.eraseP test) := by
  induction items with
  | nil => rfl
  | cons b items ih =>
    rw [takeFirst, List.find?_cons, List.eraseP_cons, ih]
    cases test b with
    | true => rfl
    | false => simp [Function.comp_def]

/-- The item that is taken stood between those that are left, and none before it passes the test. -/
theorem exists_split_of_takeFirst {α : Type} {test : α → Bool} {items rest : List α} {a : α}
    (h : takeFirst test items = some (a, rest)) :
    ∃ before after, items = before ++ a :: after ∧ rest = before ++ after ∧ test a = true ∧
      ∀ b ∈ before, test b = false := by
  rw [takeFirst_eq, Option.map_eq_some_iff] at h
  obtain ⟨c, hfind, heq⟩ := h
  obtain ⟨rfl, rfl⟩ := Prod.mk.inj heq
  obtain ⟨htest, before, after, rfl, hbefore⟩ := List.find?_eq_some_iff_append.1 hfind
  simp only [Bool.not_eq_true'] at hbefore
  refine ⟨before, after, rfl, ?_, htest, hbefore⟩
  rw [List.eraseP_append_right _ (by simpa using hbefore), List.eraseP_cons_of_pos htest]

theorem takeFirst_perm {α : Type} {test : α → Bool} {items rest : List α} {a : α}
    (h : takeFirst test items = some (a, rest)) : test a = true ∧ (a :: rest).Perm items := by
  obtain ⟨before, after, rfl, rfl, htest, -⟩ := exists_split_of_takeFirst h
  exact ⟨htest, List.perm_middle.symm⟩

theorem takeFirst_eq_none_iff {α : Type} {test : α → Bool} {items : List α} :
    takeFirst test items = none ↔ ∀ a ∈ items, test a = false := by
  rw [takeFirst_eq, Option.map_eq_none_iff, List.find?_eq_none]
  simp only [Bool.not_eq_true]

/-! ## Fields -/

theorem takeField_eq_takeFirst (name : String) (fields : List Field) :
    takeField name fields = takeFirst (fun f => f.name == name) fields := by
  induction fields with
  | nil => rfl
  | cons f fields ih => simp only [takeField, takeFirst, ih, beq_iff_eq]

theorem takeField_perm {name : String} {fields : List Field} {f : Field} {rest : List Field}
    (h : takeField name fields = some (f, rest)) : f.name = name ∧ (f :: rest).Perm fields := by
  rw [takeField_eq_takeFirst] at h
  simpa using takeFirst_perm h

theorem takeField_eq_none_iff {name : String} {fields : List Field} :
    takeField name fields = none ↔ ∀ f ∈ fields, f.name ≠ name := by
  rw [takeField_eq_takeFirst, takeFirst_eq_none_iff]
  simp only [beq_eq_false_iff_ne]

/-- The fields that are taken and those that are left are together all fields. -/
theorem takeFields_perm (names : List String) (fields : List Field) :
    ((takeFields names fields).1 ++ (takeFields names fields).2).Perm fields := by
  induction names generalizing fields with
  | nil => exact .refl _
  | cons name names ih =>
    rw [takeFields]
    cases htake : takeField name fields with
    | none => exact ih fields
    | some taken =>
      obtain ⟨f, rest⟩ := taken
      exact ((ih rest).cons f).trans (takeField_perm htake).2

/-- The fields before a group and those after it are together all fields that are split. -/
theorem splitAtGroup_append (group fields : List Field) :
    (splitAtGroup group fields).1 ++ (splitAtGroup group fields).2 = fields := by
  rw [splitAtGroup, List.splitAt_eq, List.take_append_drop]

/-- However fields are shown, sorting and splitting show each of them once. -/
theorem map_splitAtGroup_perm {β : Type} (shown : Bool → Field → β) (group flat : List Field) :
    ((splitAtGroup group (Text.sortByNumber Field.tag flat)).1.map (shown false)
        ++ (Text.sortByNumber Field.tag group).map (shown true)
        ++ (splitAtGroup group (Text.sortByNumber Field.tag flat)).2.map (shown false)).Perm
      (group.map (shown true) ++ flat.map (shown false)) := by
  have hgroup := (Text.sortByNumber_perm Field.tag group).map (shown true)
  have hflat := (Text.sortByNumber_perm Field.tag flat).map (shown false)
  rw [← splitAtGroup_append group (Text.sortByNumber Field.tag flat), List.map_append] at hflat
  refine (List.perm_append_comm.append_right _).trans ?_
  rw [List.append_assoc]
  exact hgroup.append hflat

/-! ## Values -/

theorem hasRepetition_eq_false_iff {numbers : List Int} : hasRepetition numbers = false ↔ numbers.Nodup := by
  induction numbers with
  | nil => simp [hasRepetition]
  | cons n numbers ih => simp [hasRepetition, ih]

theorem takeZero_eq_takeFirst (values : List EnumValue) :
    takeZero values = takeFirst (fun v => v.number == 0) values := by
  induction values with
  | nil => rfl
  | cons v values ih => simp only [takeZero, takeFirst, ih, beq_iff_eq]

theorem takeZero_perm {values : List EnumValue} {zero : EnumValue} {rest : List EnumValue}
    (h : takeZero values = some (zero, rest)) : zero.number = 0 ∧ (zero :: rest).Perm values := by
  rw [takeZero_eq_takeFirst] at h
  simpa using takeFirst_perm h

theorem takeZero_eq_none_iff {values : List EnumValue} : takeZero values = none ↔ ∀ v ∈ values, v.number ≠ 0 := by
  rw [takeZero_eq_takeFirst, takeFirst_eq_none_iff]
  simp only [beq_eq_false_iff_ne]

namespace Enumeration

/-- The values of an enumeration, with an extra zero if none of them is zero. -/
def completed (e : Enumeration) : List EnumValue :=
  if ∃ v ∈ e.values, v.number = 0 then e.values else e.extraZero :: e.values

/-- The output lists the declared values and the extra zero. -/
theorem values_outline_perm (e : Enumeration) : e.outline.values.Perm e.completed := by
  unfold outline splitZero completed
  cases htake : takeZero e.values with
  | none =>
    have hnone := takeZero_eq_none_iff.1 htake
    rw [if_neg (by simpa using hnone)]
    exact (Text.sortByNumber_perm _ _).cons _
  | some taken =>
    obtain ⟨zero, rest⟩ := taken
    obtain ⟨hzero, hperm⟩ := takeZero_perm htake
    rw [if_pos ⟨zero, hperm.mem_iff.1 List.mem_cons_self, hzero⟩]
    exact ((Text.sortByNumber_perm _ _).cons _).trans hperm

end Enumeration

/-! ## Blocks -/

namespace Block

/-- The blocks directly inside a block. -/
def children : Block → List Block
  | .enumeration _ => []
  | .message _ _ nested _ _ _ => nested

/-- The lines of a block's own fields, in the order of the output. -/
def fieldLines : Block → List FieldLine
  | .enumeration _ => []
  | .message _ _ _ before group after => before ++ group ++ after

end Block

namespace Declaration

theorem outlines_eq_map (scope : Scope) (ds : List Declaration) : outlines scope ds = ds.map (outline scope) := by
  induction ds with
  | nil => rfl
  | cons d ds ih => rw [outlines, ih, List.map_cons]

@[simp] theorem name_outline (scope : Scope) (d : Declaration) : (d.outline scope).name = d.name := by
  cases d with
  | message m => cases m; rfl
  | enumeration e => rfl

@[simp] theorem isEnumeration_outline (scope : Scope) (d : Declaration) :
    (d.outline scope).isEnumeration = d.isEnumeration := by
  cases d with
  | message m => cases m; rfl
  | enumeration e => rfl

@[simp] theorem isMark_outline (scope : Scope) (d : Declaration) : (d.outline scope).isMark = d.isMark := by
  simp [Block.isMark, isMark]

end Declaration

/-- Grouping and sorting look at kinds and names only, so they commute with any map that keeps both. -/
theorem enumerationsFirst_map {α β : Type} {isEnum : α → Bool} {name : α → String} {isEnum' : β → Bool}
    {name' : β → String} {g : α → β} (hkind : ∀ a, isEnum' (g a) = isEnum a) (hname : ∀ a, name' (g a) = name a)
    (items : List α) :
    enumerationsFirst isEnum' name' (items.map g) = (enumerationsFirst isEnum name items).map g := by
  unfold enumerationsFirst
  rw [List.map_append, List.filter_map, List.filter_map, Text.sortByName_map hname, Text.sortByName_map hname]
  simp only [Function.comp_def, hkind]

theorem messageBlock_eq (scope : Scope) (origin name : String) (fields : List Field) (marked : List String)
    (nested : List Block) :
    messageBlock scope origin name fields marked nested =
      .message origin name (enumerationsFirst Block.isEnumeration Block.name (nested.filter fun b => !b.isMark))
        ((splitAtGroup (takeFields marked fields).1 (Text.sortByNumber Field.tag (takeFields marked fields).2)).1.map
          (Field.line (scope.enter name) false))
        ((Text.sortByNumber Field.tag (takeFields marked fields).1).map (Field.line (scope.enter name) true))
        ((splitAtGroup (takeFields marked fields).1 (Text.sortByNumber Field.tag (takeFields marked fields).2)).2.map
          (Field.line (scope.enter name) false)) :=
  rfl

namespace Message

/-- The block of a message: the nested types that are no marks, the alternatives, and the other fields around
    them. -/
theorem outline_eq (scope : Scope) (m : Message) :
    m.outline scope =
      .message m.origin m.name (Declaration.outlines (scope.enter m.name) (Declaration.grouped m.grouping.types))
        ((splitAtGroup m.grouping.group (Text.sortByNumber Field.tag m.grouping.flat)).1.map
          (Field.line (scope.enter m.name) false))
        ((Text.sortByNumber Field.tag m.grouping.group).map (Field.line (scope.enter m.name) true))
        ((splitAtGroup m.grouping.group (Text.sortByNumber Field.tag m.grouping.flat)).2.map
          (Field.line (scope.enter m.name) false)) := by
  obtain ⟨name, origin, fields, nested, isPrivate⟩ := m
  have hnested :
      enumerationsFirst Block.isEnumeration Block.name
          ((Declaration.outlines (scope.enter name) nested).filter fun b => !b.isMark) =
        Declaration.outlines (scope.enter name) (Declaration.grouped (nested.filter fun d => !d.isMark)) := by
    rw [Declaration.outlines_eq_map, Declaration.outlines_eq_map, List.filter_map]
    rw [enumerationsFirst_map (Declaration.isEnumeration_outline _) (Declaration.name_outline _)]
    simp only [Function.comp_def, Declaration.isMark_outline]
    rfl
  rw [outline, messageBlock_eq, hnested]
  rfl

/-- Below a message's block stand the blocks of its nested types, each once, but for the marks. -/
theorem children_outline_perm (scope : Scope) (m : Message) :
    (m.outline scope).children.Perm
      ((m.nested.filter fun d => !d.isMark).map (Declaration.outline (scope.enter m.name))) := by
  rw [outline_eq, Block.children, Declaration.outlines_eq_map]
  refine List.Perm.map _ ?_
  unfold Declaration.grouped enumerationsFirst
  refine ((Text.sortByName_perm _ _).append (Text.sortByName_perm _ _)).trans ?_
  exact List.filter_append_perm _ _

theorem mem_children_outline {scope : Scope} {m : Message} {b : Block} :
    b ∈ (m.outline scope).children ↔ ∃ d ∈ m.nested, d.isMark = false ∧ d.outline (scope.enter m.name) = b := by
  rw [(children_outline_perm scope m).mem_iff]
  simp [and_assoc]

/-- A message's block has one line for each field: of the alternatives, and of the others. -/
theorem fieldLines_outline_perm (scope : Scope) (m : Message) :
    (m.outline scope).fieldLines.Perm
      (m.grouping.group.map (Field.line (scope.enter m.name) true)
        ++ m.grouping.flat.map (Field.line (scope.enter m.name) false)) := by
  rw [outline_eq, Block.fieldLines]
  exact map_splitAtGroup_perm (Field.line (scope.enter m.name)) m.grouping.group m.grouping.flat

theorem grouping_perm (m : Message) : (m.grouping.group ++ m.grouping.flat).Perm m.fields :=
  takeFields_perm (markedNames m.nested) m.fields

/-- Every field has its line, as an alternative or otherwise. -/
theorem exists_line_of_mem_fields (scope : Scope) {m : Message} {f : Field} (h : f ∈ m.fields) :
    ∃ inGroup, f.line (scope.enter m.name) inGroup ∈ (m.outline scope).fieldLines := by
  have hsplit : f ∈ m.grouping.group ++ m.grouping.flat := m.grouping_perm.mem_iff.2 h
  rcases List.mem_append.1 hsplit with hg | hf
  · refine ⟨true, (fieldLines_outline_perm scope m).mem_iff.2 (List.mem_append_left _ ?_)⟩
    exact List.mem_map_of_mem hg
  · refine ⟨false, (fieldLines_outline_perm scope m).mem_iff.2 (List.mem_append_right _ ?_)⟩
    exact List.mem_map_of_mem hf

end Message

end ProtoEmit
