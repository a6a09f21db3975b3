/-
  The structure of a message, as it is declared and as it is printed.

  Printing sorts values, fields and nested types, so the two are compared up to the order of each list, at every
  depth. Apart from that a message's block has the structure of the message: its nested types without the marks,
  the values of its enumerations, and all of its fields, each known as one of the alternatives or not.
-/

import ProtoEmit.Proofs.Contents
import ProtoEmit.Proofs.Reader

namespace ProtoEmit

/-! ## Equality up to order -/

mutual

/-- Two shapes differ at most in the order of values, fields and nested types, at any depth. -/
inductive Shape.Same : Shape → Shape → Prop
  | enumeration {name : String} {values values' : List EnumValue} (h : values.Perm values') :
      Same (.enumeration name values) (.enumeration name values')
  | message {name : String} {nested nested' : List Shape} {fields fields' : List FieldShape}
      (hnested : SameAll nested nested') (hfields : fields.Perm fields') :
      Same (.message name nested fields) (.message name nested' fields')

/-- Two lists have the same shapes, each as often, in any order. -/
inductive Shape.SameAll : List Shape → List Shape → Prop
  | nil : SameAll [] []
  | cons {a b : Shape} {as bs : List Shape} (h : Same a b) (hs : SameAll as bs) : SameAll (a :: as) (b :: bs)
  | swap (a b : Shape) (as : List Shape) : SameAll (b :: a :: as) (a :: b :: as)
  | trans {as bs cs : List Shape} (h : SameAll as bs) (h' : SameAll bs cs) : SameAll as cs

end

namespace Shape

mutual

theorem Same.refl (s : Shape) : s.Same s := by
  match s with
  | .enumeration name values => exact .enumeration (.refl values)
  | .message name nested fields => exact .message (SameAll.refl nested) (.refl fields)
termination_by structural s

theorem SameAll.refl (as : List Shape) : SameAll as as := by
  match as with
  | [] => exact .nil
  | a :: as => exact .cons (Same.refl a) (SameAll.refl as)
termination_by structural as

end

mutual

theorem Same.symm {s t : Shape} (h : s.Same t) : t.Same s := by
  match h with
  | .enumeration h => exact .enumeration h.symm
  | .message hnested hfields => exact .message hnested.symm hfields.symm
termination_by structural h

theorem SameAll.symm {as bs : List Shape} (h : SameAll as bs) : SameAll bs as := by
  match h with
  | .nil => exact .nil
  | .cons h hs => exact .cons h.symm hs.symm
  | .swap a b as => exact .swap b a as
  | .trans h h' => exact .trans h'.symm h.symm
termination_by structural h

end

theorem Same.trans {s t u : Shape} (h : s.Same t) (h' : t.Same u) : s.Same u := by
  cases h with
  | enumeration h =>
    cases h' with
    | enumeration h' => exact .enumeration (h.trans h')
  | message hnested hfields =>
    cases h' with
    | message hnested' hfields' => exact .message (hnested.trans hnested') (hfields.trans hfields')

theorem SameAll.of_perm {as bs : List Shape} (h : as.Perm bs) : SameAll as bs := by
  induction h with
  | nil => exact .nil
  | cons a _ ih => exact .cons (.refl a) ih
  | swap a b as => exact .swap a b as
  | trans _ _ ih ih' => exact .trans ih ih'

end Shape

/-! ## The structure of a block -/

/-- What a line shows of its field. -/
def FieldLine.shape (inGroup : Bool) (f : FieldLine) : FieldShape :=
  ⟨f.repeated, f.type, f.name, f.tag, inGroup⟩

mutual

/-- What a block shows. -/
def Block.shape : Block → Shape
  | .enumeration e => .enumeration e.name e.values
  | .message _ name nested before group after =>
    .message name (Block.shapes nested)
      (before.map (FieldLine.shape false) ++ group.map (FieldLine.shape true) ++ after.map (FieldLine.shape false))
termination_by structural b => b

/-- What blocks show, one after the other. -/
def Block.shapes : List Block → List Shape
  | [] => []
  | b :: rest => b.shape :: Block.shapes rest
termination_by structural bs => bs

end

theorem Block.shapes_eq_map (bs : List Block) : Block.shapes bs = bs.map Block.shape := by
  induction bs with
  | nil => rfl
  | cons b bs ih => rw [shapes, ih, List.map_cons]

/-! ## The structure of a declaration -/

/-- What a field shows in a scope. -/
def Field.shape (scope : Scope) (inGroup : Bool) (f : Field) : FieldShape :=
  ⟨f.options.label == .repeated, f.type.text scope, Text.lowerFirst f.name, f.tag, inGroup⟩

/-- What some fields show, as they are declared. Each marked name stands for the first field of this name that no
    earlier mark stands for. -/
def fieldShapes (scope : Scope) : List String → List Field → List FieldShape
  | _, [] => []
  | marked, f :: rest =>
    if f.name ∈ marked then f.shape scope true :: fieldShapes scope (marked.erase f.name) rest
    else f.shape scope false :: fieldShapes scope marked rest

mutual

/-- What a message shows in a scope: its nested types without the marks, and its fields. -/
def Message.shape (scope : Scope) : Message → Shape
  | ⟨name, _, fields, nested, _⟩ =>
    .message name (Declaration.shapes (scope.enter name) nested)
      (fieldShapes (scope.enter name) (markedNames nested) fields)
termination_by structural m => m

/-- What a declaration shows in a scope. -/
def Declaration.shape (scope : Scope) : Declaration → Shape
  | .message m => m.shape scope
  | .enumeration e => .enumeration e.name e.completed
termination_by structural d => d

/-- What declarations show in a scope, as they are declared. -/
def Declaration.shapes (scope : Scope) : List Declaration → List Shape
  | [] => []
  | d :: rest => if d.isMark then Declaration.shapes scope rest else d.shape scope :: Declaration.shapes scope rest
termination_by structural ds => ds

end

/-! ## Blocks have the structure of their declarations -/

theorem fieldShapes_nil (scope : Scope) (fields : List Field) :
    fieldShapes scope [] fields = fields.map (Field.shape scope false) := by
  induction fields with
  | nil => rfl
  | cons f fields ih => rw [fieldShapes, if_neg List.not_mem_nil, ih, List.map_cons]

/-- A mark that names no field changes nothing. -/
theorem fieldShapes_cons_of_none (scope : Scope) {name : String} {fields : List Field} (names : List String)
    (h : takeField name fields = none) : fieldShapes scope (name :: names) fields = fieldShapes scope names fields := by
  induction fields generalizing names with
  | nil => rfl
  | cons f fields ih =>
    rw [takeField] at h
    by_cases hf : f.name = name
    · rw [if_pos hf] at h
      cases h
    · rw [if_neg hf, Option.map_eq_none_iff] at h
      have hmem : f.name ∈ name :: names ↔ f.name ∈ names := by simp [hf]
      have herase : (name :: names).erase f.name = name :: names.erase f.name :=
        List.erase_cons_tail (by simpa using Ne.symm hf)
      simp only [fieldShapes, hmem, herase, ih _ h]

/-- A mark that names a field turns this field into an alternative. -/
theorem fieldShapes_cons_of_some (scope : Scope) {name : String} {fields : List Field} {f : Field} {rest : List Field}
    (names : List String) (h : takeField name fields = some (f, rest)) :
    (f.shape scope true :: fieldShapes scope names rest).Perm (fieldShapes scope (name :: names) fields) := by
  induction fields generalizing names rest with
  | nil => simp [takeField] at h
  | cons g fields ih =>
    rw [takeField] at h
    by_cases hg : g.name = name
    · rw [if_pos hg, Option.some.injEq, Prod.mk.injEq] at h
      obtain ⟨rfl, rfl⟩ := h
      rw [fieldShapes, if_pos (by simp [hg]), hg, List.erase_cons_head]
    · rw [if_neg hg, Option.map_eq_some_iff] at h
      obtain ⟨⟨g', others⟩, htake, heq⟩ := h
      rw [Prod.mk.injEq] at heq
      obtain ⟨rfl, rfl⟩ := heq
      have hmem : g.name ∈ name :: names ↔ g.name ∈ names := by simp [hg]
      have herase : (name :: names).erase g.name = name :: names.erase g.name :=
        List.erase_cons_tail (by simpa using Ne.symm hg)
      simp only [fieldShapes, hmem, herase]
      -- the field in front is an alternative or not by the other names alone
      by_cases hin : g.name ∈ names
      · rw [if_pos hin, if_pos hin]
        exact (List.Perm.swap _ _ _).trans ((ih _ htake).cons _)
      · rw [if_neg hin, if_neg hin]
        exact (List.Perm.swap _ _ _).trans ((ih _ htake).cons _)

/-- The fields that are taken out are the alternatives, and those that are left are the others. -/
theorem takeFields_shapes_perm (scope : Scope) (marked : List String) (fields : List Field) :
    ((takeFields marked fields).1.map (Field.shape scope true)
        ++ (takeFields marked fields).2.map (Field.shape scope false)).Perm
      (fieldShapes scope marked fields) := by
  induction marked generalizing fields with
  | nil => rw [takeFields, fieldShapes_nil, List.map_nil, List.nil_append]
  | cons name names ih =>
    rw [takeFields]
    cases htake : takeField name fields with
    | none =>
      rw [fieldShapes_cons_of_none scope names htake]
      exact ih fields
    | some taken =>
      obtain ⟨f, rest⟩ := taken
      exact ((ih rest).cons _).trans (fieldShapes_cons_of_some scope names htake)

/-- The fields of a message's block are the fields of the message. -/
theorem Message.exists_shape_outline (scope : Scope) (m : Message) :
    ∃ fields, (m.outline scope).shape = .message m.name (Block.shapes (m.outline scope).children) fields
      ∧ fields.Perm (fieldShapes (scope.enter m.name) (markedNames m.nested) m.fields) := by
  rw [outline_eq]
  refine ⟨_, by rw [Block.shape, Block.children], ?_⟩
  rw [List.map_map, List.map_map, List.map_map]
  exact (map_splitAtGroup_perm (Field.shape (scope.enter m.name)) m.grouping.group m.grouping.flat).trans
    (takeFields_shapes_perm _ _ _)

mutual

/-- A message's block has the structure of the message. -/
theorem Message.same_shape_outline (scope : Scope) (m : Message) : ((m.outline scope).shape).Same (m.shape scope) := by
  obtain ⟨fields, hshape, hfields⟩ := Message.exists_shape_outline scope m
  -- sorting and leaving out marks first, then each nested type by itself
  have hchildren := (Message.children_outline_perm scope m).map Block.shape
  rw [List.map_map, ← Block.shapes_eq_map] at hchildren
  rw [hshape]
  match m with
  | ⟨name, origin, fields', nested, isPrivate⟩ =>
    refine .message (.trans (.of_perm hchildren) ?_) hfields
    exact Declaration.sameAll_shapes_outline (scope.enter name) nested
termination_by structural m

theorem Declaration.same_shape_outline (scope : Scope) (d : Declaration) :
    ((d.outline scope).shape).Same (d.shape scope) := by
  match d with
  | .message m => exact Message.same_shape_outline scope m
  | .enumeration e => exact .enumeration e.values_outline_perm
termination_by structural d

theorem Declaration.sameAll_shapes_outline (scope : Scope) (ds : List Declaration) :
    Shape.SameAll ((ds.filter fun d => !d.isMark).map (Block.shape ∘ Declaration.outline scope))
      (Declaration.shapes scope ds) := by
  match ds with
  | [] => exact .nil
  | d :: rest =>
    have ih := Declaration.sameAll_shapes_outline scope rest
    rw [Declaration.shapes]
    cases hmark : d.isMark with
    | true => simpa [hmark] using ih
    | false => simpa [hmark] using Shape.SameAll.cons (Declaration.same_shape_outline scope d) ih
termination_by structural ds

end

end ProtoEmit
