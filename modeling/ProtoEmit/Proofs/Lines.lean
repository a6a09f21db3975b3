/-
  The lines of blocks.

  Every line of a block is blank or starts with the block's indentation, and among the lines of blocks are those
  of every field of every block inside them.
-/

import ProtoEmit.Proofs.Nesting

namespace ProtoEmit

namespace Block

theorem linesAll_eq_flatMap (references : Bool) (indent : String) (bs : List Block) :
    linesAll references indent bs = bs.flatMap (lines references indent) := by
  induction bs with
  | nil => rfl
  | cons b bs ih => rw [linesAll, ih, List.flatMap_cons]

/-! ## Indentation -/

/-- A line that is blank or starts with some indentation. -/
def Indented (indent line : String) : Prop :=
  line = "" ∨ ∃ rest, line = indent ++ rest

theorem Indented.of_deeper {indent step line : String} (h : Indented (indent ++ step) line) :
    Indented indent line := by
  rcases h with h | ⟨rest, rfl⟩
  · exact .inl h
  · exact .inr ⟨step ++ rest, String.append_assoc⟩

theorem indented_text (indent : String) (f : FieldLine) : Indented indent (f.text indent) :=
  .inr ⟨_, by simp only [FieldLine.text, String.append_assoc]; rfl⟩

theorem indented_originLines {references : Bool} {indent origin line : String}
    (h : line ∈ originLines references indent origin) : Indented indent line := by
  unfold originLines at h
  split at h
  · rw [List.mem_singleton.1 h]
    exact .inr ⟨"// ref: " ++ origin, String.append_assoc⟩
  · cases h

/-- What stands between the opening line of an enumeration and its end is one step further in. -/
theorem indented_of_mem_enumLines {references : Bool} {indent line : String} {e : EnumBlock}
    (h : line ∈ e.lines references indent) :
    line ∈ originLines references indent e.origin ∨ line = indent ++ "enum " ++ e.name ++ " \x7b" ∨
      Indented (indent ++ indentStep) line ∨ line = indent ++ "\x7d" := by
  simp only [EnumBlock.lines, List.mem_append, List.mem_cons, List.not_mem_nil, or_false] at h
  rcases h with (((h | h) | h) | h) | h | h
  · exact .inl h
  · exact .inr (.inl h)
  · split at h
    · rw [List.mem_singleton.1 h]
      exact .inr (.inr (.inl (.inr ⟨_, rfl⟩)))
    · cases h
  · obtain ⟨v, -, rfl⟩ := List.mem_map.1 h
    refine .inr (.inr (.inl (.inr ⟨e.name ++ "_" ++ v.name ++ " = " ++ toString v.number ++ ";", ?_⟩)))
    simp only [EnumBlock.valueLine, String.append_assoc]
  · exact .inr (.inr (.inr h))
  · exact .inr (.inr (.inl (.inl h)))

theorem indented_of_mem_groupLines {indent line : String} {group : List FieldLine}
    (h : line ∈ groupLines indent group) :
    Indented indent line := by
  unfold groupLines at h
  split at h
  · cases h
  · simp only [List.mem_append, List.mem_cons, List.not_mem_nil, or_false, List.mem_map] at h
    rcases h with (h | ⟨f, -, rfl⟩) | h
    · exact .inr ⟨_, h⟩
    · exact (indented_text _ f).of_deeper
    · exact .inr ⟨_, h⟩

mutual

/-- Every line of a block is blank or starts with its indentation. -/
theorem indented_of_mem_lines {references : Bool} {indent line : String} (b : Block)
    (h : line ∈ b.lines references indent) : Indented indent line := by
  match b with
  | .enumeration e =>
    rcases indented_of_mem_enumLines h with h | h | h | h
    · exact indented_originLines h
    · exact .inr ⟨"enum " ++ e.name ++ " \x7b", by rw [h]; simp only [String.append_assoc]⟩
    · exact h.of_deeper
    · exact .inr ⟨_, h⟩
  | .message origin name nested before group after =>
    simp only [lines, List.mem_append, List.mem_cons, List.not_mem_nil, or_false, List.mem_map] at h
    rcases h with (((((h | h) | h) | ⟨f, -, rfl⟩) | h) | ⟨f, -, rfl⟩) | h | h
    · exact indented_originLines h
    · exact .inr ⟨"message " ++ name ++ " \x7b", by rw [h]; simp only [String.append_assoc]⟩
    · exact (indented_of_mem_linesAll nested h).of_deeper
    · exact (indented_text _ f).of_deeper
    · exact (indented_of_mem_groupLines h).of_deeper
    · exact (indented_text _ f).of_deeper
    · exact .inr ⟨_, h⟩
    · exact .inl h
termination_by structural b

theorem indented_of_mem_linesAll {references : Bool} {indent line : String} (bs : List Block)
    (h : line ∈ linesAll references indent bs) : Indented indent line := by
  match bs with
  | [] => cases h
  | b :: rest =>
    rcases List.mem_append.1 h with h | h
    · exact indented_of_mem_lines b h
    · exact indented_of_mem_linesAll rest h
termination_by structural bs

end

/-- A line of a block without indentation is blank, a comment, the opening or the end of the block, or starts with
    a step of indentation. -/
theorem mem_lines_cases {references : Bool} {b : Block} {line : String} (h : line ∈ b.lines references "") :
    (∃ rest, line = "// ref: " ++ rest) ∨ (∃ rest, line = "enum " ++ rest) ∨ (∃ rest, line = "message " ++ rest) ∨
      Indented indentStep line ∨ line = "\x7d" := by
  have horigin : ∀ origin, line ∈ originLines references "" origin → ∃ rest, line = "// ref: " ++ rest := by
    intro origin h
    unfold originLines at h
    split at h
    · exact ⟨origin, by rw [List.mem_singleton.1 h]; simp⟩
    · cases h
  cases b with
  | enumeration e =>
    rcases indented_of_mem_enumLines h with h | h | h | h
    · exact .inl (horigin _ h)
    · exact .inr (.inl ⟨e.name ++ " \x7b", by rw [h]; simp [String.append_assoc]⟩)
    · exact .inr (.inr (.inr (.inl (by simpa using h))))
    · exact .inr (.inr (.inr (.inr (by simpa using h))))
  | message origin name nested before group after =>
    simp only [lines, List.mem_append, List.mem_cons, List.not_mem_nil, or_false, List.mem_map,
      String.empty_append] at h
    rcases h with (((((h | h) | h) | ⟨f, -, rfl⟩) | h) | ⟨f, -, rfl⟩) | h | h
    · exact .inl (horigin _ h)
    · exact .inr (.inr (.inl ⟨name ++ " \x7b", by rw [h]; simp [String.append_assoc]⟩))
    · exact .inr (.inr (.inr (.inl (indented_of_mem_linesAll nested h))))
    · exact .inr (.inr (.inr (.inl (indented_text _ f))))
    · exact .inr (.inr (.inr (.inl (indented_of_mem_groupLines h))))
    · exact .inr (.inr (.inr (.inl (indented_text _ f))))
    · exact .inr (.inr (.inr (.inr h)))
    · exact .inr (.inr (.inr (.inl (.inl h))))

/-! ## Field lines -/

/-- The lines of a block's own fields are among its lines. -/
theorem exists_text_mem_lines {b : Block} {l : FieldLine} (h : l ∈ b.fieldLines) (references : Bool) (indent : String) :
    ∃ inner, l.text inner ∈ b.lines references indent := by
  cases b with
  | enumeration e => cases h
  | message origin name nested before group after =>
    simp only [fieldLines, List.mem_append] at h
    rcases h with (h | h) | h
    · exact ⟨indent ++ indentStep, by simp [lines, List.mem_map_of_mem h]⟩
    · have hne : group.isEmpty = false := by
        cases group with
        | nil => cases h
        | cons => rfl
      have hgroup : l.text (indent ++ indentStep ++ indentStep) ∈ groupLines (indent ++ indentStep) group := by
        simp [groupLines, hne, List.mem_map_of_mem h]
      exact ⟨indent ++ indentStep ++ indentStep, by simp [lines, hgroup]⟩
    · exact ⟨indent ++ indentStep, by simp [lines, List.mem_map_of_mem h]⟩

/-- The lines of a block inside a block are among the outer block's lines. -/
theorem mem_lines_of_mem_children {b : Block} {references : Bool} {indent line : String}
    (h : line ∈ linesAll references (indent ++ indentStep) b.children) : line ∈ b.lines references indent := by
  cases b with
  | enumeration e => cases h
  | message origin name nested before group after =>
    rw [children] at h
    simp [lines, h]

/-- The lines of the fields of every block, however deep it stands, are among the lines of all blocks. -/
theorem At.exists_text_mem_linesAll {bs : List Block} {path : List String} {b : Block} (hat : At bs path b)
    {l : FieldLine} (h : l ∈ b.fieldLines) (references : Bool) (indent : String) :
    ∃ inner, l.text inner ∈ linesAll references indent bs := by
  induction hat generalizing indent with
  | @here bs b hb =>
    obtain ⟨inner, hinner⟩ := exists_text_mem_lines h references indent
    rw [linesAll_eq_flatMap]
    exact ⟨inner, List.mem_flatMap.2 ⟨b, hb, hinner⟩⟩
  | @inside bs b c path hb _ ih =>
    obtain ⟨inner, hinner⟩ := ih h (indent ++ indentStep)
    rw [linesAll_eq_flatMap]
    exact ⟨inner, List.mem_flatMap.2 ⟨b, hb, mem_lines_of_mem_children hinner⟩⟩

end Block

end ProtoEmit
