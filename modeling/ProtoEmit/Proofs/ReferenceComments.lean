/-
  Comments on origins.

  Asked for them, the emitter writes a comment with the origin of a type right before the line that opens it, and
  changes nothing else. Opening lines can be told from all others by their text, whatever the names hold, so the lines
  with comments are determined by those without and by the emitted types in the order of their opening lines.
-/

import Mathlib.Data.List.Basic
import ProtoEmit.Proofs.Indentation

namespace ProtoEmit

/-! ## Emitted types -/

/-- A type in the output, with the number of messages around it. -/
structure Emitted where
  depth : Nat
  declaration : Declaration

namespace Emitted

/-- The indentation of a type among lines that stand `around` in. -/
def indent (around : String) (e : Emitted) : String :=
  around ++ tabs e.depth

/-- The word that a type opens with. -/
def keyword (e : Emitted) : String :=
  if e.declaration.isEnumeration then "enum " else "message "

/-- The line that opens a type. -/
def header (around : String) (e : Emitted) : String :=
  e.indent around ++ e.keyword ++ e.declaration.name ++ " \x7b"

/-- The comment on the origin of a type; there is none without an origin. -/
def comment (around : String) (e : Emitted) : List String :=
  if e.declaration.origin = "" then [] else [e.indent around ++ "// ref: " ++ e.declaration.origin]

end Emitted

/-- The types that a message opens inside its own lines: those that are no marks, in the order of the output. -/
def Message.emittedTypes (m : Message) : List Declaration :=
  Declaration.grouped (m.nested.filter fun d => !d.isMark)

theorem sizeOf_filter_le {α : Type} [SizeOf α] (p : α → Bool) (items : List α) :
    sizeOf (items.filter p) ≤ sizeOf items := by
  induction items with
  | nil => exact Nat.le_refl _
  | cons a items ih =>
    rw [List.filter_cons]
    split
    · simpa using ih
    · rw [List.cons.sizeOf_spec]
      omega

theorem Message.sizeOf_emittedTypes_lt (m : Message) : sizeOf m.emittedTypes < sizeOf m := by
  have hperm : m.emittedTypes.Perm (m.nested.filter fun d => !d.isMark) :=
    ((Text.sortByName_perm _ _).append (Text.sortByName_perm _ _)).trans (List.filter_append_perm _ _)
  have hle := sizeOf_filter_le (fun d => !d.isMark) m.nested
  have hnested : sizeOf m.nested < sizeOf m := by
    obtain ⟨name, origin, fields, nested, isPrivate⟩ := m
    show sizeOf nested < sizeOf (Message.mk name origin fields nested isPrivate)
    rw [Message.mk.sizeOf_spec]
    omega
  rw [hperm.sizeOf_eq_sizeOf]
  omega

/-- All types of some declarations that are emitted, in the order of their opening lines: each before those inside it,
    and these before its neighbours. -/
def Declaration.emitted (depth : Nat) : List Declaration → List Emitted
  | [] => []
  | .enumeration e :: rest => ⟨depth, .enumeration e⟩ :: emitted depth rest
  | .message m :: rest => ⟨depth, .message m⟩ :: (emitted (depth + 1) m.emittedTypes ++ emitted depth rest)
termination_by ds => sizeOf ds
decreasing_by
  · rw [List.cons.sizeOf_spec, Declaration.enumeration.sizeOf_spec]
    omega
  · have hlt := m.sizeOf_emittedTypes_lt
    rw [List.cons.sizeOf_spec, Declaration.message.sizeOf_spec]
    omega
  · rw [List.cons.sizeOf_spec, Declaration.message.sizeOf_spec]
    omega

/-! ## Lines with comments -/

/-- `Commented around es plain full`: of the lines `plain`, those that open a type open the types `es` in order, and
    `full` has the same lines and before each that opens a type the comment on it. -/
inductive Commented (around : String) : List Emitted → List String → List String → Prop
  | nil : Commented around [] [] []
  | header (e : Emitted) {es : List Emitted} {plain full : List String} (h : Commented around es plain full) :
      Commented around (e :: es) (e.header around :: plain) (e.comment around ++ e.header around :: full)
  | line {line : String} {es : List Emitted} {plain full : List String} (hline : ∀ e : Emitted, line ≠ e.header around)
      (h : Commented around es plain full) : Commented around es (line :: plain) (line :: full)

namespace Commented

variable {around : String} {es es' : List Emitted} {plain plain' full full' : List String}

theorem append (h : Commented around es plain full) (h' : Commented around es' plain' full') :
    Commented around (es ++ es') (plain ++ plain') (full ++ full') := by
  induction h with
  | nil => exact h'
  | header e _ ih =>
    rw [List.append_assoc, List.cons_append]
    exact .header e ih
  | line hline _ ih => exact .line hline ih

/-- Lines that open no type have no comments. -/
theorem of_lines {lines : List String} (h : ∀ line ∈ lines, ∀ e : Emitted, line ≠ e.header around) :
    Commented around [] lines lines := by
  induction lines with
  | nil => exact .nil
  | cons line lines ih =>
    obtain ⟨hline, hlines⟩ := List.forall_mem_cons.1 h
    exact .line hline (ih hlines)

end Commented

/-! ## Lines that open no type -/

namespace Emitted

variable {around : String}

theorem endsIn_header (e : Emitted) : EndsIn (e.header around) '\x7b' :=
  EndsIn.append (by decide) (e.indent around ++ e.keyword ++ e.declaration.name)

theorem ne_header_of_endsIn {line : String} {c : Char} (h : EndsIn line c) (hc : c ≠ '\x7b') (e : Emitted) :
    line ≠ e.header around := by
  rintro rfl
  exact hc (h.unique e.endsIn_header)

theorem blank_ne_header (e : Emitted) : "" ≠ e.header around := by
  intro h
  have hend : EndsIn (e.header around) '\x7b' := e.endsIn_header
  rw [← h] at hend
  exact not_endsIn_empty _ hend

theorem brace_ne_header (depth : Nat) (e : Emitted) : around ++ tabs depth ++ "\x7d" ≠ e.header around :=
  ne_header_of_endsIn (EndsIn.append (by decide) _) (by decide : '\x7d' ≠ '\x7b') e

/-- The indentation apart, an opening line starts with its keyword. -/
theorem exists_toList_header (around : String) (e : Emitted) :
    ∃ c rest, (c = 'e' ∨ c = 'm') ∧ (e.header around).toList = (e.indent around).toList ++ c :: rest := by
  cases henum : e.declaration.isEnumeration with
  | true =>
    refine ⟨'e', "num ".toList ++ e.declaration.name.toList ++ " \x7b".toList, .inl rfl, ?_⟩
    simp [header, keyword, henum]
  | false =>
    refine ⟨'m', "essage ".toList ++ e.declaration.name.toList ++ " \x7b".toList, .inr rfl, ?_⟩
    simp [header, keyword, henum]

theorem dropWhile_tabs (depth : Nat) {c : Char} (hc : c ≠ '\t') (rest : List Char) :
    ((tabs depth).toList ++ c :: rest).dropWhile (· == '\t') = c :: rest := by
  rw [List.dropWhile_append_of_pos (by simp [tabs]), List.dropWhile_cons_of_neg (by simpa using hc)]

/-- The line that opens a group of alternatives opens no type, however deep either stands. -/
theorem oneof_ne_header (around : String) (depth : Nat) (e : Emitted) :
    around ++ tabs depth ++ "oneof message \x7b" ≠ e.header around := by
  intro h
  obtain ⟨c, rest, hc, hheader⟩ := e.exists_toList_header around
  have htab : c ≠ '\t' := by rcases hc with rfl | rfl <;> decide
  have htext : around.toList ++ ((tabs depth).toList ++ 'o' :: "neof message \x7b".toList) =
      around.toList ++ ((tabs e.depth).toList ++ c :: rest) := by
    rw [← h] at hheader
    simpa [indent] using hheader
  -- both lines go on with tabs, and the first characters that are none would have to agree
  have hfirst := congrArg (List.dropWhile (· == '\t')) (List.append_cancel_left htext)
  rw [dropWhile_tabs depth (by decide), dropWhile_tabs e.depth htab] at hfirst
  rw [← (List.cons.inj hfirst).1] at hc
  exact absurd hc (by decide)

end Emitted

theorem FieldLine.endsIn_text (f : FieldLine) (indent : String) : EndsIn (f.text indent) ';' :=
  EndsIn.append (by decide) _

theorem EnumBlock.endsIn_valueLine (e : EnumBlock) (indent : String) (v : EnumValue) :
    EndsIn (e.valueLine indent v) ';' :=
  EndsIn.append (by decide) _

/-! ## Lines of declarations -/

section Lines

variable (around : String) (depth : Nat)

theorem commented_texts (fields : List FieldLine) (indent : String) :
    Commented around [] (fields.map (FieldLine.text indent)) (fields.map (FieldLine.text indent)) := by
  refine .of_lines fun line hline => ?_
  obtain ⟨f, -, rfl⟩ := List.mem_map.1 hline
  exact Emitted.ne_header_of_endsIn (f.endsIn_text indent) (by decide)

theorem commented_groupLines (group : List FieldLine) :
    Commented around [] (groupLines (around ++ tabs depth) group) (groupLines (around ++ tabs depth) group) := by
  unfold groupLines
  split
  · exact .nil
  · have hopen := Commented.line (Emitted.oneof_ne_header around depth) .nil
    have hclose := Commented.line (Emitted.brace_ne_header depth) (.nil : Commented around [] [] [])
    exact (hopen.append (commented_texts around group _)).append hclose

/-- The brace that closes a type, and the blank line after it. -/
theorem commented_end :
    Commented around [] [around ++ tabs depth ++ "\x7d", ""] [around ++ tabs depth ++ "\x7d", ""] :=
  .line (Emitted.brace_ne_header depth) (.line Emitted.blank_ne_header .nil)

/-- The comment that is written is the one that the type calls for. -/
theorem originLines_true (d : Declaration) :
    originLines true (around ++ tabs depth) d.origin = Emitted.comment around ⟨depth, d⟩ := by
  unfold originLines Emitted.comment Emitted.indent
  by_cases h : d.origin = ""
  · rw [if_pos h, h]
    rfl
  · rw [if_neg h]
    simp [h]

theorem commented_enumLines (e : Enumeration) :
    Commented around [⟨depth, .enumeration e⟩] (e.outline.lines false (around ++ tabs depth))
      (e.outline.lines true (around ++ tabs depth)) := by
  have halias : ∀ indent : String, Commented around []
      (if e.outline.aliased then [indent ++ "option allow_alias = true;"] else [])
      (if e.outline.aliased then [indent ++ "option allow_alias = true;"] else []) := by
    intro indent
    split
    · have hend : EndsIn (indent ++ "option allow_alias = true;") ';' := EndsIn.append (by decide) _
      exact .line (Emitted.ne_header_of_endsIn hend (by decide)) .nil
    · exact .nil
  have hvalues : ∀ indent : String, Commented around [] (e.outline.values.map (e.outline.valueLine indent))
      (e.outline.values.map (e.outline.valueLine indent)) := by
    refine fun indent => .of_lines fun line hline => ?_
    obtain ⟨v, -, rfl⟩ := List.mem_map.1 hline
    exact Emitted.ne_header_of_endsIn (e.outline.endsIn_valueLine indent v) (by decide)
  have hinside := (halias (around ++ tabs depth ++ indentStep)).append (hvalues (around ++ tabs depth ++ indentStep))
  have hbody := hinside.append (commented_end around depth)
  have hlines := Commented.header ⟨depth, .enumeration e⟩ hbody
  have horigin := originLines_true around depth (.enumeration e)
  simpa [EnumBlock.lines, originLines, ← horigin, Emitted.header, Emitted.indent, Emitted.keyword,
    Declaration.isEnumeration, Declaration.name, Declaration.origin, Enumeration.outline] using hlines

theorem commented_messageLines (m : Message) (scope : Scope)
    (hnested : ∀ inside : Scope, Commented around (Declaration.emitted (depth + 1) m.emittedTypes)
      (Block.linesAll false (around ++ tabs (depth + 1)) (Declaration.outlines inside m.emittedTypes))
      (Block.linesAll true (around ++ tabs (depth + 1)) (Declaration.outlines inside m.emittedTypes))) :
    Commented around (⟨depth, .message m⟩ :: Declaration.emitted (depth + 1) m.emittedTypes)
      ((m.outline scope).lines false (around ++ tabs depth)) ((m.outline scope).lines true (around ++ tabs depth)) := by
  have hinside : around ++ tabs (depth + 1) = around ++ tabs depth ++ indentStep := by
    rw [tabs_succ, String.append_assoc]
  have hgroup := commented_groupLines around (depth + 1)
  rw [hinside] at hnested hgroup
  have hfields := fun fields => commented_texts around fields (around ++ tabs depth ++ indentStep)
  have horigin := originLines_true around depth (.message m)
  obtain ⟨before, group, after, houtline⟩ : ∃ before group after, m.outline scope =
      .message m.origin m.name (Declaration.outlines (scope.enter m.name) m.emittedTypes) before group after :=
    ⟨_, _, _, m.outline_eq scope⟩
  have hbody := ((((hnested (scope.enter m.name)).append (hfields before)).append (hgroup group)).append
    (hfields after)).append (commented_end around depth)
  have hlines := Commented.header ⟨depth, .message m⟩ hbody
  rw [houtline]
  simpa [Block.lines, originLines, ← horigin, Emitted.header, Emitted.indent, Emitted.keyword,
    Declaration.isEnumeration, Declaration.name, Declaration.origin] using hlines

/-- At every depth, the lines of declarations with comments are those without and the comments. -/
theorem commented_linesAll (ds : List Declaration) (scope : Scope) :
    Commented around (Declaration.emitted depth ds)
      (Block.linesAll false (around ++ tabs depth) (Declaration.outlines scope ds))
      (Block.linesAll true (around ++ tabs depth) (Declaration.outlines scope ds)) := by
  induction depth, ds using Declaration.emitted.induct generalizing scope with
  | case1 depth =>
    rw [Declaration.emitted]
    exact .nil
  | case2 depth e rest ih =>
    rw [Declaration.emitted, Declaration.outlines, Block.linesAll, Block.linesAll]
    exact (commented_enumLines around depth e).append (ih scope)
  | case3 depth m rest hnested ih =>
    rw [Declaration.emitted, Declaration.outlines, Block.linesAll, Block.linesAll]
    exact (commented_messageLines around depth m scope hnested).append (ih scope)

end Lines

/-- Comments on origins only add lines: whatever is declared, at any depth, the lines with comments are those without,
    and right before each line that opens an emitted type with an origin the one line that names this origin, as far
    in as that line. -/
theorem references_only_add_comments (ds : List Declaration) (scope : Scope) (indent : String) :
    Commented indent (Declaration.emitted 0 ds) (Block.linesAll false indent (Declaration.outlines scope ds))
      (Block.linesAll true indent (Declaration.outlines scope ds)) := by
  have hindent : indent ++ tabs 0 = indent := by simp [tabs]
  have hlines := commented_linesAll indent 0 ds scope
  rwa [hindent] at hlines

/-- Enumerations come before messages, and the mark of a group is not among the types. -/
example : (Declaration.emitted 0 [.message { name := "Order", nested := [.message { name := "Line" },
    .enumeration { name := "MessageOneofCase" }, .enumeration { name := "Kind" }] }]).map
      (fun e => (e.depth, e.declaration.name)) = [(0, "Order"), (1, "Kind"), (1, "Line")] := by
  cbv

end ProtoEmit
