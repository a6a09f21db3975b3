/-
  Nesting and indentation of the lines of a message.

  The depth of a line can be told from the ends of the lines before it: an opening brace at the end of a line raises
  it, a closing brace on a line of its own lowers it, and all other lines end with a semicolon or are blank. Whatever
  the names hold, every line of a message stands as far in as its depth says, and the brace that brings the depth
  back to zero is the last line but one.
-/

import Mathlib.Data.List.Basic
import ProtoEmit.Proofs.Contents

namespace ProtoEmit

/-! ## Scanning lines -/

/-- A tab for each level. -/
def tabs (depth : Nat) : String :=
  String.ofList (List.replicate depth '\t')

theorem tabs_succ (depth : Nat) : tabs (depth + 1) = tabs depth ++ indentStep := by
  apply String.toList_inj.1
  simp [tabs, indentStep, List.replicate_succ']

/-- The last character of a line. -/
def EndsIn (line : String) (c : Char) : Prop :=
  line.toList.getLast? = some c

instance (line : String) (c : Char) : Decidable (EndsIn line c) :=
  inferInstanceAs (Decidable (line.toList.getLast? = some c))

/-- A line starts with `indent` and a tab for each level. -/
def StandsAt (indent : String) (depth : Nat) (line : String) : Prop :=
  (indent ++ tabs depth).toList <+: line.toList

instance (indent : String) (depth : Nat) (line : String) : Decidable (StandsAt indent depth line) :=
  inferInstanceAs (Decidable ((indent ++ tabs depth).toList <+: line.toList))

theorem EndsIn.append {text : String} {c : Char} (h : EndsIn text c) (before : String) : EndsIn (before ++ text) c := by
  unfold EndsIn at h ⊢
  rw [String.toList_append, List.getLast?_append, h]
  rfl

theorem EndsIn.unique {line : String} {c c' : Char} (h : EndsIn line c) (h' : EndsIn line c') : c = c' :=
  Option.some.inj (h.symm.trans h')

theorem not_endsIn_empty (c : Char) : ¬ EndsIn "" c := by
  intro h
  cases h

theorem standsAt_append (indent : String) (depth : Nat) (text : String) :
    StandsAt indent depth (indent ++ tabs depth ++ text) := by
  unfold StandsAt
  rw [String.toList_append (s := indent ++ tabs depth)]
  exact List.prefix_append _ _

/-- The depth after a line, `none` if the line does not stand at the depth before it; a closing brace stands one
    level further out. -/
def depthAfter? (indent : String) (depth : Nat) (line : String) : Option Nat :=
  if line = "" then some depth
  else if EndsIn line '\x7d' then
    if 0 < depth ∧ line = indent ++ tabs (depth - 1) ++ "\x7d" then some (depth - 1) else none
  else if ¬ StandsAt indent depth line then none
  else if EndsIn line '\x7b' then some (depth + 1)
  else if EndsIn line ';' then some depth
  else none

/-- The depth after each of some lines, `none` if one of them does not stand at its depth. -/
def depths? (indent : String) (depth : Nat) : List String → Option (List Nat)
  | [] => some []
  | line :: rest => (depthAfter? indent depth line).bind fun after => (depths? indent after rest).map (after :: ·)

/-- The lines that can stand at a depth, and what they make of it. -/
theorem depthAfter?_eq_some_iff {indent : String} {depth : Nat} {line : String} {after : Nat} :
    depthAfter? indent depth line = some after ↔
      (line = "" ∧ after = depth) ∨
      (EndsIn line '\x7b' ∧ StandsAt indent depth line ∧ after = depth + 1) ∨
      (line = indent ++ tabs after ++ "\x7d" ∧ depth = after + 1) ∨
      (EndsIn line ';' ∧ StandsAt indent depth line ∧ after = depth) := by
  have hbrace : ∀ outer, EndsIn (indent ++ tabs outer ++ "\x7d") '\x7d' := fun outer => EndsIn.append (by decide) _
  unfold depthAfter?
  -- a line has one last character, so it does not matter in which order the tests are made
  constructor
  · intro h
    split at h
    · rename_i hblank
      exact .inl ⟨hblank, (Option.some.inj h).symm⟩
    · split at h
      · split at h
        · rename_i hline
          obtain rfl : depth - 1 = after := Option.some.inj h
          exact .inr (.inr (.inl ⟨hline.2, by omega⟩))
        · cases h
      · split at h
        · cases h
        · rename_i hstands
          rw [not_not] at hstands
          split at h
          · rename_i hopen
            exact .inr (.inl ⟨hopen, hstands, (Option.some.inj h).symm⟩)
          · split at h
            · rename_i hend
              exact .inr (.inr (.inr ⟨hend, hstands, (Option.some.inj h).symm⟩))
            · cases h
  · rintro (⟨rfl, rfl⟩ | ⟨hopen, hstands, rfl⟩ | ⟨rfl, rfl⟩ | ⟨hend, hstands, rfl⟩)
    · exact if_pos rfl
    · have hblank : line ≠ "" := by
        rintro rfl
        exact not_endsIn_empty _ hopen
      have hclose : ¬ EndsIn line '\x7d' := fun h => absurd (hopen.unique h) (by decide)
      rw [if_neg hblank, if_neg hclose, if_neg (not_not.2 hstands), if_pos hopen]
    · have hblank : indent ++ tabs after ++ "\x7d" ≠ "" := by
        intro h
        exact not_endsIn_empty _ (h ▸ hbrace after)
      rw [if_neg hblank, if_pos (hbrace after)]
      exact if_pos ⟨Nat.succ_pos after, rfl⟩
    · have hblank : line ≠ "" := by
        rintro rfl
        exact not_endsIn_empty _ hend
      have hclose : ¬ EndsIn line '\x7d' := fun h => absurd (hend.unique h) (by decide)
      have hopen : ¬ EndsIn line '\x7b' := fun h => absurd (hend.unique h) (by decide)
      rw [if_neg hblank, if_neg hclose, if_neg (not_not.2 hstands), if_neg hopen, if_pos hend]

theorem depthAfter?_blank (indent : String) (depth : Nat) : depthAfter? indent depth "" = some depth :=
  depthAfter?_eq_some_iff.2 (.inl ⟨rfl, rfl⟩)

/-- A line at a depth that ends with an opening brace starts a deeper level. -/
theorem depthAfter?_opening {text : String} (h : EndsIn text '\x7b') (indent : String) (depth : Nat) :
    depthAfter? indent depth (indent ++ tabs depth ++ text) = some (depth + 1) :=
  depthAfter?_eq_some_iff.2 (.inr (.inl ⟨h.append _, standsAt_append indent depth text, rfl⟩))

theorem depthAfter?_closing (indent : String) (depth : Nat) :
    depthAfter? indent (depth + 1) (indent ++ tabs depth ++ "\x7d") = some depth :=
  depthAfter?_eq_some_iff.2 (.inr (.inr (.inl ⟨rfl, rfl⟩)))

/-- A line at a depth that ends with a semicolon leaves the depth as it is. -/
theorem depthAfter?_statement {text : String} (h : EndsIn text ';') (indent : String) (depth : Nat) :
    depthAfter? indent depth (indent ++ tabs depth ++ text) = some depth :=
  depthAfter?_eq_some_iff.2 (.inr (.inr (.inr ⟨h.append _, standsAt_append indent depth text, rfl⟩)))

/-- A scan goes on at the depth that the lines before have led to. -/
theorem depths?_append {indent : String} {depth : Nat} {lines more : List String} {ds es : List Nat}
    (h : depths? indent depth lines = some ds) (hmore : depths? indent (ds.getLastD depth) more = some es) :
    depths? indent depth (lines ++ more) = some (ds ++ es) := by
  induction lines generalizing depth ds with
  | nil =>
    obtain rfl : [] = ds := Option.some.inj h
    exact hmore
  | cons line lines ih =>
    obtain ⟨after, hafter, hrest⟩ := Option.bind_eq_some_iff.1 h
    obtain ⟨later, hlater, rfl⟩ := Option.map_eq_some_iff.1 hrest
    -- the rest goes on from the depth after the first line
    have hlast : (after :: later).getLastD depth = later.getLastD after := by
      cases later <;> rfl
    rw [hlast] at hmore
    rw [List.cons_append, depths?, hafter, Option.bind_some, ih hlater hmore]
    rfl

/-! ## Lines that lead back to their depth -/

/-- Lines that stand at a depth or deeper and lead back to it. -/
def StaysAt (indent : String) (depth : Nat) (lines : List String) : Prop :=
  ∃ ds, depths? indent depth lines = some ds ∧ (∀ d ∈ ds, depth ≤ d) ∧ ds.getLastD depth = depth

namespace StaysAt

variable {indent : String} {depth : Nat} {lines more : List String}

theorem nil : StaysAt indent depth [] :=
  ⟨[], rfl, by simp, rfl⟩

theorem append (h : StaysAt indent depth lines) (hmore : StaysAt indent depth more) :
    StaysAt indent depth (lines ++ more) := by
  obtain ⟨ds, hscan, hdeep, hlast⟩ := h
  obtain ⟨es, hscan', hdeep', hlast'⟩ := hmore
  refine ⟨ds ++ es, depths?_append hscan (by rwa [hlast]), ?_, ?_⟩
  · intro d hd
    rcases List.mem_append.1 hd with hd | hd
    · exact hdeep d hd
    · exact hdeep' d hd
  · rw [List.getLastD_eq_getLast?, List.getLast?_append]
    cases hes : es.getLast? with
    | none => simpa [List.getLastD_eq_getLast?] using hlast
    | some last => simpa [List.getLastD_eq_getLast?, hes] using hlast'

/-- One line that leaves the depth as it is. -/
theorem singleton {line : String} (h : depthAfter? indent depth line = some depth) : StaysAt indent depth [line] :=
  ⟨[depth], by simp [depths?, h], by simp, rfl⟩

theorem map {α : Type} {text : α → String} (h : ∀ a, depthAfter? indent depth (text a) = some depth) (items : List α) :
    StaysAt indent depth (items.map text) := by
  induction items with
  | nil => exact nil
  | cons a items ih => exact (singleton (h a)).append ih

/-- A line that opens the next level, and lines that stay there. -/
theorem exists_depths_opened {opening : String} (hopen : depthAfter? indent depth opening = some (depth + 1))
    (h : StaysAt indent (depth + 1) lines) :
    ∃ ds, depths? indent depth (opening :: lines) = some ds ∧ (∀ d ∈ ds, depth + 1 ≤ d) ∧
      ds.getLastD depth = depth + 1 := by
  obtain ⟨ds, hscan, hdeep, hlast⟩ := h
  refine ⟨(depth + 1) :: ds, ?_, List.forall_mem_cons.2 ⟨Nat.le_refl _, hdeep⟩, ?_⟩
  · rw [depths?, hopen, Option.bind_some, hscan]
    rfl
  · rwa [List.getLastD_cons]

/-- Lines of the next level, between a line that opens it and the brace that closes it. -/
theorem block {opening : String} (hopen : depthAfter? indent depth opening = some (depth + 1))
    (h : StaysAt indent (depth + 1) lines) :
    StaysAt indent depth (opening :: lines ++ [indent ++ tabs depth ++ "\x7d"]) := by
  obtain ⟨ds, hscan, hdeep, hlast⟩ := h.exists_depths_opened hopen
  refine ⟨ds ++ [depth], depths?_append hscan ?_, ?_, List.getLastD_concat⟩
  · rw [hlast]
    simp [depths?, depthAfter?_closing]
  · intro d hd
    rcases List.mem_append.1 hd with hd | hd
    · exact Nat.le_of_succ_le (hdeep d hd)
    · exact (List.mem_singleton.1 hd).ge

end StaysAt

/-! ## Lines of blocks -/

theorem depthAfter?_fieldText (indent : String) (depth : Nat) (f : FieldLine) :
    depthAfter? indent depth (f.text (indent ++ tabs depth)) = some depth := by
  have htext : f.text (indent ++ tabs depth) = indent ++ tabs depth ++
      ((if f.repeated then "repeated " else "") ++ f.type ++ " " ++ f.name ++ " = " ++ toString f.tag
        ++ (if f.unpacked then " [packed=false]" else "") ++ ";") := by
    simp only [FieldLine.text, String.append_assoc]
  rw [htext]
  exact depthAfter?_statement (EndsIn.append (by decide) _) indent depth

theorem depthAfter?_valueLine (indent : String) (depth : Nat) (e : EnumBlock) (v : EnumValue) :
    depthAfter? indent depth (e.valueLine (indent ++ tabs depth) v) = some depth := by
  have htext : e.valueLine (indent ++ tabs depth) v =
      indent ++ tabs depth ++ (e.name ++ "_" ++ v.name ++ " = " ++ toString v.number ++ ";") := by
    simp only [EnumBlock.valueLine, String.append_assoc]
  rw [htext]
  exact depthAfter?_statement (EndsIn.append (by decide) _) indent depth

/-- The first line of a type, whatever its name. -/
theorem depthAfter?_header (indent : String) (depth : Nat) (keyword name : String) :
    depthAfter? indent depth (indent ++ tabs depth ++ keyword ++ name ++ " \x7b") = some (depth + 1) := by
  rw [String.append_assoc, String.append_assoc]
  exact depthAfter?_opening ((EndsIn.append (by decide) name).append keyword) indent depth

theorem staysAt_enumLines (indent : String) (depth : Nat) (e : EnumBlock) :
    StaysAt indent depth (e.lines false (indent ++ tabs depth)) := by
  have halias : StaysAt indent (depth + 1)
      (if e.aliased then [indent ++ tabs (depth + 1) ++ "option allow_alias = true;"] else []) := by
    split
    · exact .singleton (depthAfter?_statement (by decide) indent (depth + 1))
    · exact .nil
  have hvalues := StaysAt.map (depthAfter?_valueLine indent (depth + 1) e) e.values
  have hblock := StaysAt.block (depthAfter?_header indent depth "enum " e.name) (halias.append hvalues)
  have hlines := hblock.append (.singleton (depthAfter?_blank indent depth))
  rw [tabs_succ, ← String.append_assoc] at hlines
  simpa [EnumBlock.lines, originLines] using hlines

theorem staysAt_groupLines (indent : String) (depth : Nat) (group : List FieldLine) :
    StaysAt indent depth (groupLines (indent ++ tabs depth) group) := by
  unfold groupLines
  split
  · exact .nil
  · have hopen : depthAfter? indent depth (indent ++ tabs depth ++ "oneof message \x7b") = some (depth + 1) :=
      depthAfter?_opening (by decide) indent depth
    have hblock := StaysAt.block hopen (StaysAt.map (depthAfter?_fieldText indent (depth + 1)) group)
    rw [tabs_succ, ← String.append_assoc] at hblock
    exact hblock

/-- A message is a level of its own: between its first line and its brace stand its nested types, then its fields with
    their group among them, all one step further in. -/
theorem Block.exists_body {indent : String} {depth : Nat} {nested : List Block}
    (hnested : StaysAt indent (depth + 1) (linesAll false (indent ++ tabs (depth + 1)) nested))
    (origin name : String) (before group after : List FieldLine) :
    ∃ body, StaysAt indent (depth + 1) body ∧
      (Block.message origin name nested before group after).lines false (indent ++ tabs depth) =
        (indent ++ tabs depth ++ "message " ++ name ++ " \x7b") :: body ++ [indent ++ tabs depth ++ "\x7d", ""] := by
  have hfields := StaysAt.map (depthAfter?_fieldText indent (depth + 1))
  have hgroup := staysAt_groupLines indent (depth + 1) group
  refine ⟨_, ((hnested.append (hfields before)).append hgroup).append (hfields after), ?_⟩
  rw [tabs_succ, ← String.append_assoc]
  simp [lines, originLines]

mutual

/-- Without comments, the lines of a block stand at its depth or deeper and lead back to it. -/
theorem Block.staysAt_lines (indent : String) (depth : Nat) (b : Block) :
    StaysAt indent depth (b.lines false (indent ++ tabs depth)) := by
  match b with
  | .enumeration e => exact staysAt_enumLines indent depth e
  | .message origin name nested before group after =>
    obtain ⟨body, hbody, hlines⟩ :=
      Block.exists_body (Block.staysAt_linesAll indent (depth + 1) nested) origin name before group after
    have hblock := StaysAt.block (depthAfter?_header indent depth "message " name) hbody
    rw [hlines]
    simpa using hblock.append (.singleton (depthAfter?_blank indent depth))
termination_by structural b

theorem Block.staysAt_linesAll (indent : String) (depth : Nat) (bs : List Block) :
    StaysAt indent depth (Block.linesAll false (indent ++ tabs depth) bs) := by
  match bs with
  | [] => exact .nil
  | b :: rest => exact (Block.staysAt_lines indent depth b).append (Block.staysAt_linesAll indent depth rest)
termination_by structural bs

end

/-! ## Messages -/

namespace Message

/-- The lines of a message, whatever the names in it: every line stands at the depth that the lines before it give, the
    depth is one or more from the first line on, and the closing brace at the message's own indentation brings it to
    zero. A blank line ends the list. -/
theorem lines_nested_and_indented (m : Message) (scope : Scope) (indent : String) :
    ∃ (lines : List String) (ds : List Nat),
      (m.outline scope).lines false indent = lines ++ [indent ++ "\x7d", ""] ∧ lines ≠ [] ∧
      depths? indent 0 lines = some ds ∧ (∀ d ∈ ds, 1 ≤ d) ∧
      depths? indent 0 ((m.outline scope).lines false indent) = some (ds ++ [0, 0]) := by
  have hindent : indent ++ tabs 0 = indent := by simp [tabs]
  obtain ⟨nested, before, group, after, houtline⟩ : ∃ nested before group after,
      m.outline scope = .message m.origin m.name nested before group after := ⟨_, _, _, _, outline_eq scope m⟩
  obtain ⟨body, hbody, hlines⟩ :=
    Block.exists_body (Block.staysAt_linesAll indent 1 nested) m.origin m.name before group after
  -- up to the closing brace the scan has left depth zero behind
  obtain ⟨ds, hscan, hdeep, hlast⟩ := hbody.exists_depths_opened (depthAfter?_header indent 0 "message " m.name)
  have hend : depths? indent (ds.getLastD 0) [indent ++ tabs 0 ++ "\x7d", ""] = some [0, 0] := by
    rw [hlast]
    simp [depths?, depthAfter?_closing, depthAfter?_blank]
  have hwhole := depths?_append hscan hend
  rw [← hlines] at hwhole
  rw [hindent] at hlines hscan hwhole
  rw [houtline]
  exact ⟨_, ds, hlines, List.cons_ne_nil _ _, hscan, hdeep, hwhole⟩

/-- A brace or a semicolon inside a name does not mislead the scan. -/
example : depths? "  " 0 ["  message a\x7d \x7b", "  \tstring \x7b; = 1;", "  \x7d", ""] = some [1, 1, 0, 0] := by
  decide

end Message

end ProtoEmit
