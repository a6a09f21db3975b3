/-
  The layout of a message.

  Between its nested types and its end a message lists its fields by their tags. The alternatives stand together
  in one block, and the block stands where the least of their tags belongs: the other fields below that tag come
  before it, the rest after it. Each field has one line, and a line says that its field is not packed exactly if
  the field is a repeated alternative that is declared so.
-/

import ProtoEmit.Proofs.Contents
import ProtoEmit.Proofs.ReadLines

namespace ProtoEmit

/-! ## The fields around a group -/

/-- The tag of a field is below all tags of a group, so below the least of them. -/
def Field.IsBelow (group : List Field) (f : Field) : Prop :=
  ∀ g ∈ group, f.tag < g.tag

instance (group : List Field) (f : Field) : Decidable (f.IsBelow group) :=
  inferInstanceAs (Decidable (∀ g ∈ group, f.tag < g.tag))

theorem Field.isBelow_iff_of_min? {group : List Field} {least : Int} (h : (group.map Field.tag).min? = some least)
    (f : Field) : f.IsBelow group ↔ f.tag < least := by
  obtain ⟨hmem, hle⟩ := List.min?_eq_some_iff.1 h
  constructor
  · intro hbelow
    obtain ⟨g, hg, rfl⟩ := List.mem_map.1 hmem
    exact hbelow g hg
  · intro hlt g hg
    exact hlt.trans_le (hle _ (List.mem_map_of_mem hg))

theorem countBelow_eq (group fields : List Field) :
    countBelow group fields = fields.countP fun f => f.IsBelow group := by
  unfold countBelow
  cases hleast : (group.map Field.tag).min? with
  | none =>
    obtain rfl : group = [] := by simpa using hleast
    refine (List.countP_eq_length.2 fun f _ => decide_eq_true ?_).symm
    exact fun g hg => absurd hg List.not_mem_nil
  | some least => simp only [Field.isBelow_iff_of_min? hleast]

/-- Where the fields come by their tags, those below a group are the first ones. -/
theorem filter_isBelow_append (group : List Field) {fields : List Field}
    (hsorted : fields.Pairwise fun f g => f.tag ≤ g.tag) :
    (fields.filter fun f => f.IsBelow group) ++ (fields.filter fun f => ¬ f.IsBelow group) = fields := by
  induction fields with
  | nil => rfl
  | cons f rest ih =>
    obtain ⟨hfirst, hrest⟩ := List.pairwise_cons.1 hsorted
    by_cases hbelow : f.IsBelow group
    · rw [List.filter_cons_of_pos (by simpa using hbelow), List.filter_cons_of_neg (by simpa using hbelow),
        List.cons_append, ih hrest]
    · -- if the first field is not below the group, then none is
      have hnone : ∀ g ∈ f :: rest, ¬ g.IsBelow group := by
        intro g hg hg_below
        rcases List.mem_cons.1 hg with rfl | hg
        · exact hbelow hg_below
        · exact hbelow fun a ha => (hfirst g hg).trans_lt (hg_below a ha)
      rw [List.filter_eq_nil_iff.2 (by simpa using hnone), List.filter_eq_self.2 (by simpa using hnone),
        List.nil_append]

/-- Cutting fields by their tags at the number of those below a group parts these from the others. -/
theorem splitAtGroup_eq_filter (group : List Field) {fields : List Field}
    (hsorted : fields.Pairwise fun f g => f.tag ≤ g.tag) :
    splitAtGroup group fields =
      (fields.filter fun f => f.IsBelow group, fields.filter fun f => ¬ f.IsBelow group) := by
  have happend := filter_isBelow_append group hsorted
  have hcount : countBelow group fields = (fields.filter fun f => f.IsBelow group).length := by
    rw [countBelow_eq, List.countP_eq_length_filter]
  rw [splitAtGroup, hcount]
  generalize (fields.filter fun f => f.IsBelow group) = before at happend ⊢
  generalize (fields.filter fun f => ¬ f.IsBelow group) = after at happend ⊢
  rw [← happend, List.splitAt_eq, List.take_left, List.drop_left]

theorem takeFirst_sublist {α : Type} {test : α → Bool} {items rest : List α} {a : α}
    (h : takeFirst test items = some (a, rest)) : rest.Sublist items := by
  obtain ⟨before, after, rfl, rfl, -, -⟩ := exists_split_of_takeFirst h
  exact (List.sublist_cons_self a after).append_left before

/-- What is left of the fields is in their order. -/
theorem takeFields_sublist (names : List String) (fields : List Field) :
    (takeFields names fields).2.Sublist fields := by
  induction names generalizing fields with
  | nil => exact .refl _
  | cons name names ih =>
    rw [takeFields]
    cases htake : takeField name fields with
    | none => exact ih fields
    | some taken =>
      obtain ⟨f, rest⟩ := taken
      rw [takeField_eq_takeFirst] at htake
      exact (ih rest).trans (takeFirst_sublist htake)

/-! ## Lines that end in an option -/

/-- A line ends in the option that its field is not packed. -/
def EndsUnpacked (line : String) : Prop :=
  " [packed=false];".toList <:+ line.toList

theorem FieldLine.endsUnpacked_text_iff (indent : String) (f : FieldLine) :
    EndsUnpacked (f.text indent) ↔ f.unpacked = true := by
  unfold EndsUnpacked FieldLine.text
  constructor
  · intro hend
    by_contra hpacked
    rw [if_neg hpacked] at hend
    obtain ⟨front, hfront⟩ := hend
    -- without the option, the last character before the semicolon is one of the tag's
    have hlast : front ++ " [packed=false".toList ++ [']'] =
        (indent ++ (if f.repeated then "repeated " else "") ++ f.type ++ " " ++ f.name ++ " = ").toList
          ++ (toString f.tag).toList := by
      refine (List.append_left_inj [';']).1 ?_
      simpa using hfront
    have hne : (toString f.tag).toList ≠ [] := by
      rw [Ne, String.toList_eq_nil_iff]
      exact (isToken_toString_int f.tag).1
    have hmem : ']' ∈ (toString f.tag).toList := by
      have hgetLast := congrArg List.getLast? hlast
      rw [List.getLast?_concat, List.getLast?_append_of_ne_nil _ hne] at hgetLast
      exact List.mem_of_getLast? hgetLast.symm
    exact Text.not_mem_toList_toString_int f.tag (by decide) (by decide) hmem
  · intro hunpacked
    rw [if_pos hunpacked]
    refine ⟨(indent ++ (if f.repeated then "repeated " else "") ++ f.type ++ " " ++ f.name ++ " = "
      ++ toString f.tag).toList, ?_⟩
    simp

theorem Field.unpacked_line_iff (scope : Scope) (inGroup : Bool) (f : Field) :
    (f.line scope inGroup).unpacked = true ↔
      inGroup = true ∧ f.options.label = .repeated ∧ f.options.packed = false := by
  simp [Field.line, and_assoc]

/-! ## The message -/

namespace Message

/-- The line of a field of a message, as an alternative or otherwise. -/
def fieldText (m : Message) (scope : Scope) (indent : String) (inGroup : Bool) (f : Field) : String :=
  (f.line (scope.enter m.name) inGroup).text indent

/-- The lines of a message: its nested types, then its fields by tag, and among them one block for its
    alternatives if there are any. -/
theorem lines_outline_eq (m : Message) (scope : Scope) (references : Bool) (indent : String) :
    (m.outline scope).lines references indent =
      originLines references indent m.origin
        ++ [indent ++ "message " ++ m.name ++ " \x7b"]
        ++ Block.linesAll references (indent ++ "\t")
            (Declaration.outlines (scope.enter m.name) (Declaration.grouped m.grouping.types))
        ++ (Text.sortByNumber Field.tag (m.grouping.flat.filter fun f => f.IsBelow m.grouping.group)).map
            (m.fieldText scope (indent ++ "\t") false)
        ++ (if m.grouping.group = [] then [] else
            [indent ++ "\t" ++ "oneof message \x7b"]
              ++ (Text.sortByNumber Field.tag m.grouping.group).map (m.fieldText scope (indent ++ "\t" ++ "\t") true)
              ++ [indent ++ "\t" ++ "\x7d"])
        ++ (Text.sortByNumber Field.tag (m.grouping.flat.filter fun f => ¬ f.IsBelow m.grouping.group)).map
            (m.fieldText scope (indent ++ "\t") false)
        ++ [indent ++ "\x7d", ""] := by
  have hempty : (Text.sortByNumber Field.tag m.grouping.group).isEmpty = true ↔ m.grouping.group = [] := by
    rw [List.isEmpty_iff]
    constructor
    · intro h
      exact List.Perm.nil_eq (h ▸ Text.sortByNumber_perm Field.tag m.grouping.group) |>.symm
    · intro h
      rw [h]
      simp [Text.sortByNumber]
  have hsorted := (Text.isStableSort_sortByNumber Field.tag m.grouping.flat).ascending
  rw [outline_eq, Block.lines, splitAtGroup_eq_filter _ hsorted, groupLines, Text.filter_sortByNumber,
    Text.filter_sortByNumber]
  simp only [List.map_map, List.isEmpty_map, hempty]
  rfl

/-- After its nested types a message lists, by tag and with ties as declared, its fields below the tags of its
    alternatives, the alternatives in one block if there are any, and its other fields. Each field has one line,
    and exactly the repeated alternatives that are not packed say so. -/
theorem fields_laid_out_by_tag (m : Message) (scope : Scope) (references : Bool) (indent : String) :
    ∃ before group after : List Field,
      (m.outline scope).lines references indent =
        originLines references indent m.origin
          ++ [indent ++ "message " ++ m.name ++ " \x7b"]
          ++ Block.linesAll references (indent ++ "\t")
              (Declaration.outlines (scope.enter m.name) (Declaration.grouped m.grouping.types))
          ++ before.map (m.fieldText scope (indent ++ "\t") false)
          ++ (if m.grouping.group = [] then [] else
              [indent ++ "\t" ++ "oneof message \x7b"]
                ++ group.map (m.fieldText scope (indent ++ "\t" ++ "\t") true)
                ++ [indent ++ "\t" ++ "\x7d"])
          ++ after.map (m.fieldText scope (indent ++ "\t") false)
          ++ [indent ++ "\x7d", ""] ∧
      Text.IsStableSort Field.tag (m.grouping.flat.filter fun f => f.IsBelow m.grouping.group) before ∧
      Text.IsStableSort Field.tag m.grouping.group group ∧
      Text.IsStableSort Field.tag (m.grouping.flat.filter fun f => ¬ f.IsBelow m.grouping.group) after ∧
      (before ++ group ++ after).Perm m.fields ∧
      m.grouping.flat.Sublist m.fields ∧
      (∀ f ∈ group, EndsUnpacked (m.fieldText scope (indent ++ "\t" ++ "\t") true f) ↔
        f.options.label = .repeated ∧ f.options.packed = false) ∧
      ∀ f ∈ before ++ after, ¬ EndsUnpacked (m.fieldText scope (indent ++ "\t") false f) := by
  have hbefore := Text.isStableSort_sortByNumber Field.tag (m.grouping.flat.filter fun f => f.IsBelow m.grouping.group)
  have hgroup := Text.isStableSort_sortByNumber Field.tag m.grouping.group
  have hafter := Text.isStableSort_sortByNumber Field.tag
    (m.grouping.flat.filter fun f => ¬ f.IsBelow m.grouping.group)
  refine ⟨_, _, _, lines_outline_eq m scope references indent, hbefore, hgroup, hafter, ?_,
    takeFields_sublist _ _, ?_, ?_⟩
  · have hflat := (hbefore.perm.append hafter.perm).trans (by simpa using List.filter_append_perm _ m.grouping.flat)
    refine (List.perm_append_comm.append_right _).trans ?_
    rw [List.append_assoc]
    exact (hgroup.perm.append hflat).trans m.grouping_perm
  · intro f _
    rw [fieldText, FieldLine.endsUnpacked_text_iff, Field.unpacked_line_iff]
    simp
  · intro f _
    rw [fieldText, FieldLine.endsUnpacked_text_iff, Field.unpacked_line_iff]
    simp

end Message

end ProtoEmit
