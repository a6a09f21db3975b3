/-
  Cutting and joining are inverse to each other.

  Pieces hold no separator, so joining them with one separator between neighbours and cutting again gives them
  back; and whatever the text, its pieces join to it. Numbers hold digits and a sign, so no separator cuts them.
-/

import Mathlib.Data.List.Basic
import ProtoEmit.Text.Split

namespace ProtoEmit.Text

/-! ## Pieces of a list of characters -/

/-- A text without the separator is its own only piece. -/
theorem pieces_of_not_mem {sep : Char} {cs : List Char} (h : sep ∉ cs) : pieces sep cs = [cs] := by
  induction cs with
  | nil => rfl
  | cons c cs ih =>
    obtain ⟨hc, hcs⟩ := not_or.1 (mt List.mem_cons.2 h)
    rw [pieces, if_neg (Ne.symm hc), ih hcs]

/-- A separator cuts the pieces before it from those after it. -/
theorem pieces_append_sep (sep : Char) (cs rest : List Char) :
    pieces sep (cs ++ sep :: rest) = pieces sep cs ++ pieces sep rest := by
  induction cs with
  | nil => simp [pieces]
  | cons c cs ih =>
    obtain ⟨p, ps, hps⟩ := List.exists_cons_of_ne_nil (pieces_ne_nil sep cs)
    by_cases hc : c = sep <;> simp [pieces, hc, ih, hps]

/-- The first piece ends at the first separator. -/
theorem pieces_append {sep : Char} {first : List Char} (h : sep ∉ first) (rest : List Char) :
    pieces sep (first ++ sep :: rest) = first :: pieces sep rest := by
  rw [pieces_append_sep, pieces_of_not_mem h, List.singleton_append]

/-- No piece holds the separator. -/
theorem not_mem_of_mem_pieces {sep : Char} {cs piece : List Char} (h : piece ∈ pieces sep cs) : sep ∉ piece := by
  induction cs generalizing piece with
  | nil => simp_all [pieces]
  | cons c cs ih =>
    rw [pieces] at h
    split at h
    · rcases List.mem_cons.1 h with rfl | h
      · simp
      · exact ih h
    · rename_i hc
      split at h
      · rename_i hnil
        exact absurd hnil (pieces_ne_nil sep cs)
      · rename_i p ps hps
        have hp : sep ∉ p := ih (by simp [hps])
        rcases List.mem_cons.1 h with rfl | h
        · simp [hp, Ne.symm hc]
        · exact ih (by simp [hps, h])

/-- Pieces without the separator come back when they are joined and cut. -/
theorem pieces_intercalate {sep : Char} (first : List Char) (rest : List (List Char))
    (h : ∀ p ∈ first :: rest, sep ∉ p) : pieces sep ([sep].intercalate (first :: rest)) = first :: rest := by
  induction rest generalizing first with
  | nil =>
    have hfirst : sep ∉ first := h first (by simp)
    simpa using pieces_of_not_mem hfirst
  | cons second rest ih =>
    have hfirst : sep ∉ first := h first (by simp)
    have hrest : pieces sep ([sep].intercalate (second :: rest)) = second :: rest := by
      apply ih
      intro p hp
      exact h p (List.mem_cons_of_mem _ hp)
    have htext : [sep].intercalate (first :: second :: rest) = first ++ sep :: [sep].intercalate (second :: rest) := by
      simp [List.intercalate_cons_cons]
    rw [htext, pieces_append hfirst, hrest]

theorem intercalate_pieces (sep : Char) (cs : List Char) : [sep].intercalate (pieces sep cs) = cs := by
  induction cs with
  | nil => rfl
  | cons c cs ih =>
    rw [pieces]
    -- the pieces of the rest, of which there is at least one, take the character in front
    obtain ⟨p, ps, hps⟩ := List.exists_cons_of_ne_nil (pieces_ne_nil sep cs)
    rw [hps] at ih ⊢
    split
    · rename_i hc
      rw [List.intercalate_cons_cons, ih, hc]
      rfl
    · cases ps with
      | nil => simpa using ih
      | cons q qs => simpa [List.intercalate_cons_cons] using ih

/-- The pieces hold everything but the separators. -/
theorem flatten_pieces (sep : Char) (cs : List Char) : (pieces sep cs).flatten = cs.filter (· != sep) := by
  induction cs with
  | nil => rfl
  | cons c cs ih =>
    rw [pieces]
    obtain ⟨p, ps, hps⟩ := List.exists_cons_of_ne_nil (pieces_ne_nil sep cs)
    rw [hps] at ih ⊢
    by_cases hc : c = sep
    · simp [hc, ← ih]
    · simp [hc, ← ih]

/-! ## Pieces without a gap -/

theorem head?_ne_of_nil_not_mem {sep : Char} {cs : List Char} (h : [] ∉ pieces sep cs) : cs.head? ≠ some sep := by
  intro hhead
  obtain ⟨rest, rfl⟩ := List.head?_eq_some_iff.1 hhead
  simp [pieces] at h

theorem getLast?_ne_of_nil_not_mem {sep : Char} {cs : List Char} (h : [] ∉ pieces sep cs) :
    cs.getLast? ≠ some sep := by
  intro hlast
  obtain ⟨front, rfl⟩ := List.getLast?_eq_some_iff.1 hlast
  rw [pieces_append_sep] at h
  simp [pieces] at h

/-- Where two separators stand in a row, a piece after the first one is empty. -/
theorem nil_mem_tail_pieces (sep : Char) (before after : List Char) :
    [] ∈ (pieces sep (before ++ sep :: sep :: after)).tail := by
  rw [pieces_append_sep, List.tail_append_of_ne_nil (pieces_ne_nil sep before)]
  simp [pieces]

theorem not_isInfix_of_nil_not_mem {sep : Char} {cs : List Char} (h : [] ∉ pieces sep cs) : ¬ [sep, sep] <:+: cs := by
  rintro ⟨before, after, rfl⟩
  rw [List.append_assoc] at h
  exact h (List.mem_of_mem_tail (nil_mem_tail_pieces sep before after))

/-! ## Pieces of a text -/

theorem split_ne_nil (sep : Char) (s : String) : split sep s ≠ [] := by
  simpa [split] using pieces_ne_nil sep s.toList

theorem not_mem_of_mem_split {sep : Char} {s piece : String} (h : piece ∈ split sep s) : sep ∉ piece.toList := by
  obtain ⟨p, hp, rfl⟩ := List.mem_map.1 h
  simpa using not_mem_of_mem_pieces hp

/-- A text without the separator is its own only piece. -/
theorem split_of_not_mem {sep : Char} {s : String} (h : sep ∉ s.toList) : split sep s = [s] := by
  rw [split, pieces_of_not_mem h]
  simp

/-- A separator cuts the pieces before it from those after it. -/
theorem split_append_split (sep : Char) (s t : String) :
    split sep (s ++ String.singleton sep ++ t) = split sep s ++ split sep t := by
  have htext : (s ++ String.singleton sep ++ t).toList = s.toList ++ sep :: t.toList := by simp
  rw [split, htext, pieces_append_sep, List.map_append]
  rfl

/-- The first piece of a text ends at the first separator. -/
theorem split_append {sep : Char} {first : String} (h : sep ∉ first.toList) (rest : String) :
    split sep (first ++ String.singleton sep ++ rest) = first :: split sep rest := by
  rw [split_append_split, split_of_not_mem h, List.singleton_append]

theorem empty_mem_split_iff {sep : Char} {s : String} : "" ∈ split sep s ↔ [] ∈ pieces sep s.toList := by
  rw [split, List.mem_map]
  constructor
  · rintro ⟨p, hp, hempty⟩
    rwa [String.ofList_eq_empty_iff.1 hempty] at hp
  · intro h
    exact ⟨[], h, rfl⟩

/-- Pieces without the separator come back from their joined text. -/
theorem split_intercalate {sep : Char} {ps : List String} (hne : ps ≠ []) (h : ∀ p ∈ ps, sep ∉ p.toList) :
    split sep ((String.singleton sep).intercalate ps) = ps := by
  obtain ⟨first, rest, rfl⟩ := List.exists_cons_of_ne_nil hne
  have hpieces : pieces sep ([sep].intercalate ((first :: rest).map String.toList)) =
      (first :: rest).map String.toList := by
    apply pieces_intercalate
    intro cs hcs
    rw [← List.map_cons] at hcs
    obtain ⟨p, hp, rfl⟩ := List.mem_map.1 hcs
    exact h p hp
  rw [split, String.toList_intercalate, String.toList_singleton, hpieces]
  simp

/-- A joined text starts with its first piece. -/
theorem exists_toList_intercalate_cons (sep first : String) (rest : List String) :
    ∃ more, (sep.intercalate (first :: rest)).toList = first.toList ++ more := by
  rw [String.toList_intercalate, List.map_cons]
  cases rest with
  | nil => exact ⟨[], by simp⟩
  | cons second rest =>
    rw [List.map_cons, List.intercalate_cons_cons, List.append_assoc]
    exact ⟨_, rfl⟩

/-- The pieces of a text join to it. -/
theorem intercalate_split (sep : Char) (s : String) : (String.singleton sep).intercalate (split sep s) = s := by
  apply String.toList_inj.1
  rw [String.toList_intercalate, String.toList_singleton, split, List.map_map]
  have hid : String.toList ∘ String.ofList = id := by
    funext cs
    simp
  rw [hid, List.map_id, intercalate_pieces]

/-! ## Dots -/

theorem split_joinDots {ps : List String} (hne : ps ≠ []) (h : ∀ p ∈ ps, '.' ∉ p.toList) :
    split '.' (joinDots ps) = ps :=
  split_intercalate hne h

theorem joinDots_split (s : String) : joinDots (split '.' s) = s :=
  intercalate_split '.' s

/-- Names that are joined already can be joined to those before them. -/
theorem joinDots_append_joinDots (names : List String) {more : List String} (hne : more ≠ []) :
    joinDots (names ++ [joinDots more]) = joinDots (names ++ more) := by
  by_cases hnames : names = []
  · simp [hnames, joinDots]
  · unfold joinDots
    rw [String.intercalate_append_of_ne_nil hnames (List.cons_ne_nil _ _),
      String.intercalate_append_of_ne_nil hnames hne, String.intercalate_singleton]

/-! ## Numbers -/

/-- A number is its sign and its digits. -/
theorem toList_toString_int (n : Int) :
    (toString n).toList = (if n < 0 then ['-'] else []) ++ Nat.toDigits 10 n.natAbs := by
  cases n with
  | ofNat k =>
    have hsign : ¬ Int.ofNat k < 0 := by simp
    rw [if_neg hsign]
    exact Nat.toList_repr
  | negSucc k =>
    have htext : toString (Int.negSucc k) = "-" ++ (k + 1).repr := rfl
    rw [if_pos (Int.negSucc_lt_zero k), htext, String.toList_append, Nat.toList_repr]
    rfl

theorem isDigit_of_mem_toDigits {n : Nat} {c : Char} (h : c ∈ Nat.toDigits 10 n) : c.isDigit = true :=
  Nat.isDigit_of_mem_toDigits (by decide) (by decide) h

theorem mem_toList_toString_int {n : Int} {c : Char} (h : c ∈ (toString n).toList) : c.isDigit = true ∨ c = '-' := by
  rw [toList_toString_int, List.mem_append] at h
  rcases h with hsign | hdigit
  · split at hsign
    · exact .inr (List.mem_singleton.1 hsign)
    · cases hsign
  · exact .inl (isDigit_of_mem_toDigits hdigit)

theorem not_mem_toList_toString_int (n : Int) {c : Char} (hdigit : c.isDigit = false) (hsign : c ≠ '-') :
    c ∉ (toString n).toList := by
  intro h
  rcases mem_toList_toString_int h with h | h
  · rw [hdigit] at h
    cases h
  · exact hsign h

end ProtoEmit.Text
