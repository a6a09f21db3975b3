/-
  The values of an enumeration.

  The first value of an enumeration has the number zero: it is the first declared value with that number, or one
  that is added. The others follow by number, and aliases among them as they are declared. The option for aliases
  is decided on the declared values, but this is the same as to look at the lines: a value is added only where no
  other one is zero.

  What the lines say is read off them by a small reader of its own. It takes every name, also one with blanks or
  with an equals sign in it, since nothing of this kind comes after the last equals sign of a line.
-/

import ProtoEmit.Proofs.Contents
import ProtoEmit.Proofs.ReadLines

namespace ProtoEmit

/-! ## Reading values off lines -/

/-- The value on a line with some indentation: its full name, and after the last equals sign its number. -/
def valueOn? (indent line : String) : Option EnumValue :=
  (line.toList.dropPrefix? indent.toList).bind fun rest =>
    match (Text.split ' ' (String.ofList rest)).reverse with
    | last :: sign :: front =>
      if sign = "=" then (numberBefore? last).map fun n => ⟨" ".intercalate front.reverse, n⟩ else none
    | _ => none

/-- The values on the lines one step further in than some indentation. -/
def valuesOn (indent : String) (lines : List String) : List EnumValue :=
  lines.filterMap (valueOn? (indent ++ indentStep))

/-- A line after its indentation has a value exactly if its last words are an equals sign and a number. -/
theorem valueOn?_append (indent front last : String) (h : ' ' ∉ last.toList) :
    valueOn? indent (indent ++ (front ++ " = " ++ last)) = (numberBefore? last).map fun n => ⟨front, n⟩ := by
  have hdrop : (indent ++ (front ++ " = " ++ last)).toList.dropPrefix? indent.toList =
      some (front ++ " = " ++ last).toList := by
    rw [String.toList_append]
    exact List.dropPrefix?_append_of_beq _ (beq_self_eq_true _)
  have hwords : Text.split ' ' (front ++ " = " ++ last) = Text.split ' ' front ++ ["=", last] := by
    have htext : front ++ " = " ++ last =
        front ++ String.singleton ' ' ++ ("=" ++ String.singleton ' ' ++ last) := by
      apply String.toList_inj.1
      simp
    have hsign : Text.split ' ' "=" = ["="] := Text.split_of_not_mem (by decide)
    rw [htext, Text.split_append_split, Text.split_append_split, hsign, Text.split_of_not_mem h]
    rfl
  have hfront : " ".intercalate (Text.split ' ' front) = front := Text.intercalate_split ' ' front
  rw [valueOn?, hdrop, Option.bind_some, String.ofList_toList, hwords, List.reverse_append]
  simp [hfront]

theorem valueOn?_valueLine (indent : String) (e : EnumBlock) (v : EnumValue) :
    valueOn? indent (e.valueLine indent v) = some ⟨e.name ++ "_" ++ v.name, v.number⟩ := by
  have htext : e.valueLine indent v =
      indent ++ ((e.name ++ "_" ++ v.name) ++ " = " ++ (toString v.number ++ ";")) := by
    simp only [EnumBlock.valueLine, String.append_assoc]
  have hlast : ' ' ∉ (toString v.number ++ ";").toList :=
    ((isToken_toString_int v.number).append (by decide)).2.1
  rw [htext, valueOn?_append _ _ _ hlast, numberBefore?_toString]
  rfl

/-- The line of the option says no value. -/
theorem valueOn?_allowAlias (indent : String) : valueOn? indent (indent ++ "option allow_alias = true;") = none := by
  have hnumber : numberBefore? "true;" = none := by rfl
  have hread := valueOn?_append indent "option allow_alias" "true;" (by decide)
  rw [hnumber] at hread
  exact hread

/-- A line that is not one step further in says no value. -/
theorem valueOn?_of_outer (indent : String) {line : String}
    (h : line = "" ∨ ∃ c rest, c ≠ '\t' ∧ line = indent ++ String.ofList (c :: rest)) :
    valueOn? (indent ++ indentStep) line = none := by
  have hdrop : line.toList.dropPrefix? (indent ++ indentStep).toList = none := by
    rw [Option.eq_none_iff_forall_not_mem]
    intro rest hrest
    obtain ⟨front, hline, hfront⟩ := List.dropPrefix?_eq_some_iff.1 hrest
    rw [eq_of_beq hfront, String.toList_append] at hline
    rcases h with rfl | ⟨c, more, hc, rfl⟩
    · simp [indentStep] at hline
    · rw [String.toList_append, List.append_assoc, List.append_cancel_left_eq] at hline
      simp [indentStep, hc] at hline
  rw [valueOn?, hdrop]
  rfl

/-- The values on the lines of an enumeration are its values with its name in front, in their order. -/
theorem valuesOn_enumLines (references : Bool) (indent : String) (e : EnumBlock) :
    valuesOn indent (e.lines references indent) = e.values.map fun v => ⟨e.name ++ "_" ++ v.name, v.number⟩ := by
  have horigin : (originLines references indent e.origin).filterMap (valueOn? (indent ++ indentStep)) = [] := by
    have hcomment : valueOn? (indent ++ indentStep) (indent ++ "// ref: " ++ e.origin) = none := by
      refine valueOn?_of_outer indent (.inr ⟨'/', "/ ref: ".toList ++ e.origin.toList, by decide, ?_⟩)
      apply String.toList_inj.1
      simp
    unfold originLines
    split
    · simp [hcomment]
    · rfl
  have hopen : valueOn? (indent ++ indentStep) (indent ++ "enum " ++ e.name ++ " \x7b") = none := by
    refine valueOn?_of_outer indent (.inr ⟨'e', ("num " ++ e.name ++ " \x7b").toList, by decide, ?_⟩)
    apply String.toList_inj.1
    simp
  have hoption : (if e.aliased then [indent ++ indentStep ++ "option allow_alias = true;"] else []).filterMap
      (valueOn? (indent ++ indentStep)) = [] := by
    split
    · simp [valueOn?_allowAlias]
    · rfl
  have hclose : valueOn? (indent ++ indentStep) (indent ++ "\x7d") = none :=
    valueOn?_of_outer indent (.inr ⟨'\x7d', [], by decide, rfl⟩)
  have hblank : valueOn? (indent ++ indentStep) "" = none :=
    valueOn?_of_outer indent (.inl rfl)
  have hvalues : (e.values.map (e.valueLine (indent ++ indentStep))).filterMap (valueOn? (indent ++ indentStep)) =
      e.values.map fun v => ⟨e.name ++ "_" ++ v.name, v.number⟩ := by
    rw [List.filterMap_map]
    simp only [Function.comp_def, valueOn?_valueLine, List.filterMap_eq_map']
  unfold valuesOn EnumBlock.lines
  simp only [List.filterMap_append, horigin, hoption, hvalues, List.filterMap_cons, hopen, hclose, hblank,
    List.filterMap_nil, List.nil_append, List.append_nil]

/-! ## The order of the values -/

namespace Enumeration

/-- The output starts with the first zero, declared or added, and goes on with the other values by number. -/
theorem values_outline_eq (e : Enumeration) :
    e.outline.values =
      (e.values.find? fun v => v.number == 0).getD e.extraZero
        :: Text.sortByNumber (·.number) (e.values.eraseP fun v => v.number == 0) := by
  have htake := takeFirst_eq (fun v : EnumValue => v.number == 0) e.values
  rw [← takeZero_eq_takeFirst] at htake
  unfold outline splitZero
  rw [htake]
  cases hfind : e.values.find? (fun v => v.number == 0) with
  | none =>
    have hrest := List.eraseP_of_forall_not (List.find?_eq_none.1 hfind)
    rw [hrest]
    rfl
  | some zero => rfl

/-- The added zero shares its number with no declared value, so it makes no alias. -/
theorem nodup_numbers_completed_iff (e : Enumeration) :
    (e.completed.map (·.number)).Nodup ↔ (e.values.map (·.number)).Nodup := by
  unfold completed
  split
  · exact Iff.rfl
  · rename_i hnone
    have hzero : (0 : Int) ∉ e.values.map (·.number) := by
      intro hmem
      obtain ⟨v, hv, hnumber⟩ := List.mem_map.1 hmem
      exact hnone ⟨v, hv, hnumber⟩
    rw [List.map_cons, List.nodup_cons]
    exact and_iff_right hzero

/-- An enumeration is declared with aliases exactly if the output lists two values with one number. -/
theorem aliased_iff (e : Enumeration) : e.aliased = true ↔ ¬ (e.outline.values.map (·.number)).Nodup := by
  have hdeclared : (e.outline.values.map (·.number)).Nodup ↔ (e.values.map (·.number)).Nodup :=
    (e.values_outline_perm.map (·.number)).nodup_iff.trans e.nodup_numbers_completed_iff
  rw [hdeclared, ← hasRepetition_eq_false_iff, Bool.not_eq_false]
  rfl

/-- The lines of an enumeration list its values, and one more if none of them is zero. The first of them is zero,
    and the first declared zero if there is one; the others follow by number, with ties as declared. The option for
    aliases stands before them exactly if two of these lines show one number. -/
theorem values_listed_from_zero (e : Enumeration) (references : Bool) (indent : String) :
    ∃ (zero : EnumValue) (rest : List EnumValue) (option : List String),
      e.outline.lines references indent =
        originLines references indent e.origin
          ++ [indent ++ "enum " ++ e.name ++ " \x7b"]
          ++ option
          ++ (zero :: rest).map (fun v => indent ++ "\t" ++ e.name ++ "_" ++ v.name ++ " = " ++ toString v.number ++ ";")
          ++ [indent ++ "\x7d", ""] ∧
      (zero :: rest).Perm e.completed ∧
      zero.number = 0 ∧
      (∀ v, (e.values.find? fun v => v.number == 0) = some v → zero = v) ∧
      Text.IsStableSort (·.number) (e.values.eraseP fun v => v.number == 0) rest ∧
      option =
        if ((valuesOn indent (e.outline.lines references indent)).map (·.number)).Nodup then []
        else [indent ++ "\t" ++ "option allow_alias = true;"] := by
  refine ⟨(e.values.find? fun v => v.number == 0).getD e.extraZero,
    Text.sortByNumber (·.number) (e.values.eraseP fun v => v.number == 0),
    if e.aliased then [indent ++ "\t" ++ "option allow_alias = true;"] else [], ?_, ?_, ?_, ?_,
    Text.isStableSort_sortByNumber _ _, ?_⟩
  · rw [← values_outline_eq]
    rfl
  · rw [← values_outline_eq]
    exact e.values_outline_perm
  · cases hfind : e.values.find? (fun v => v.number == 0) with
    | none => rfl
    | some zero => simpa using List.find?_some hfind
  · intro v hv
    rw [hv]
    rfl
  · have hshown : (valuesOn indent (e.outline.lines references indent)).map (·.number) =
        e.outline.values.map (·.number) := by
      rw [valuesOn_enumLines, List.map_map]
      rfl
    rw [hshown]
    by_cases halias : e.aliased = true
    · rw [if_pos halias, if_neg (e.aliased_iff.1 halias)]
    · rw [if_neg halias, if_pos (not_not.1 (mt e.aliased_iff.2 halias))]

end Enumeration

end ProtoEmit
