/-
  Dots and slashes in package names.

  Lower-casing neither makes nor removes a dot or a slash. So the parts of a package are without dots and not empty,
  its name has no two dots in a row, and a part starts with a slash exactly if it did so in the namespace's name.
-/

import ProtoEmit.Package
import ProtoEmit.Proofs.Split

namespace ProtoEmit

/-! ## Lower case -/

namespace Text

/-- A character that stands before the digits. Such a character has no case. -/
def BeforeDigits (c : Char) : Prop :=
  0 < c.toNat ∧ c.toNat < 48

instance : DecidablePred BeforeDigits :=
  fun _ => inferInstanceAs (Decidable (_ ∧ _))

theorem lowerRuns_bounds : ∀ r ∈ lowerRuns, 48 ≤ r.first ∧ 48 ≤ r.target := by
  decide +kernel

theorem toNat_image (r : CaseRun) (c : Char) :
    (r.image c).toNat = 0 ∨ (r.image c).toNat = r.target + (c.toNat - r.first) := by
  by_cases hvalid : (r.target + (c.toNat - r.first)).isValidChar
  · right
    rw [CaseRun.image, Char.ofNat, dif_pos hvalid]
    rfl
  · left
    rw [CaseRun.image, Char.ofNat, dif_neg hvalid]
    rfl

/-- A character before the digits is no lower-case form of another character. -/
theorem BeforeDigits.eq_of_mem_lowerChar {x c : Char} (hx : BeforeDigits x) (h : x ∈ lowerChar c) : c = x := by
  obtain ⟨hpos, hlt⟩ := hx
  unfold lowerChar at h
  split at h
  · have hlarge : 48 ≤ x.toNat := by
      rcases List.mem_cons.1 h with rfl | h
      · decide
      · rw [List.mem_singleton.1 h]
        decide
    exact absurd hlt (Nat.not_lt.2 hlarge)
  · split at h
    · rename_i r hfind
      have htarget := (lowerRuns_bounds r (List.mem_of_find?_eq_some hfind)).2
      rw [List.mem_singleton.1 h] at hpos hlt
      have himage := toNat_image r c
      omega
    · exact (List.mem_singleton.1 h).symm

theorem BeforeDigits.lowerChar {x : Char} (hx : BeforeDigits x) : lowerChar x = [x] := by
  have hdotted : x ≠ capitalDottedI := by
    rintro rfl
    exact absurd hx (by decide)
  -- every run of capitals starts later
  have hruns : lowerRuns.find? (·.covers x) = none := by
    rw [List.find?_eq_none]
    intro r hr hcovers
    have hfirst := (lowerRuns_bounds r hr).1
    have hlt := hx.2
    simp only [CaseRun.covers, Bool.and_eq_true, decide_eq_true_eq] at hcovers
    omega
  rw [Text.lowerChar, if_neg hdotted, hruns]

/-- Between any neighbours, a character before the digits stays as it is. -/
theorem BeforeDigits.lowerBetween {x : Char} (hx : BeforeDigits x) (before after : List Char) :
    lowerBetween before x after = [x] := by
  have hsigma : x ≠ capitalSigma := by
    rintro rfl
    exact absurd hx (by decide)
  unfold Text.lowerBetween
  rw [if_neg (by simp [hsigma]), hx.lowerChar]

theorem BeforeDigits.eq_of_mem_lowerBetween {x : Char} (hx : BeforeDigits x) {before : List Char} {c : Char}
    {after : List Char} (h : x ∈ Text.lowerBetween before c after) : c = x := by
  unfold Text.lowerBetween at h
  split at h
  · rw [List.mem_singleton.1 h] at hx
    exact absurd hx (by decide)
  · exact hx.eq_of_mem_lowerChar h

theorem lowerChar_ne_nil (c : Char) : lowerChar c ≠ [] := by
  unfold lowerChar
  split
  · simp
  · split <;> simp

theorem lowerBetween_ne_nil (before : List Char) (c : Char) (after : List Char) : lowerBetween before c after ≠ [] := by
  unfold lowerBetween
  split
  · simp
  · exact lowerChar_ne_nil c

theorem BeforeDigits.mem_lowerFrom_iff {x : Char} (hx : BeforeDigits x) (before cs : List Char) :
    x ∈ lowerFrom before cs ↔ x ∈ cs := by
  induction cs generalizing before with
  | nil => rfl
  | cons c cs ih =>
    rw [lowerFrom, List.mem_append, List.mem_cons, ih]
    refine or_congr_left ⟨fun h => (hx.eq_of_mem_lowerBetween h).symm, ?_⟩
    rintro rfl
    rw [hx.lowerBetween]
    exact List.mem_singleton_self x

/-- Before the digits, a text has the characters of its lower-case form. -/
theorem BeforeDigits.mem_lower_iff {x : Char} (hx : BeforeDigits x) (s : String) : x ∈ (lower s).toList ↔ x ∈ s.toList := by
  rw [lower, String.toList_ofList, hx.mem_lowerFrom_iff]

/-- A text starts with a character before the digits exactly if its lower-case form does. -/
theorem BeforeDigits.head?_lower_eq_iff {x : Char} (hx : BeforeDigits x) (s : String) :
    (lower s).toList.head? = some x ↔ s.toList.head? = some x := by
  rw [lower, String.toList_ofList]
  cases s.toList with
  | nil => rfl
  | cons c cs =>
    rw [lowerFrom, List.head?_cons, Option.some.injEq, List.head?_append_of_ne_nil _ (lowerBetween_ne_nil [] c cs)]
    constructor
    · intro h
      exact hx.eq_of_mem_lowerBetween (List.mem_of_head? h)
    · rintro rfl
      rw [hx.lowerBetween]
      rfl

theorem lower_eq_empty_iff (s : String) : lower s = "" ↔ s = "" := by
  rw [← String.toList_eq_nil_iff, ← String.toList_eq_nil_iff, lower, String.toList_ofList]
  cases s.toList with
  | nil => simp [lowerFrom]
  | cons c cs => simp [lowerFrom, lowerBetween_ne_nil]

/-! ## Pieces of a text -/

/-- Each of the joined lists is a stretch of the whole. -/
theorem infix_intercalate {α : Type} (sep : List α) {parts : List (List α)} {part : List α} (h : part ∈ parts) :
    part <:+: sep.intercalate parts := by
  induction parts with
  | nil => cases h
  | cons first rest ih =>
    cases rest with
    | nil => simp [List.mem_singleton.1 h]
    | cons second rest =>
      rw [List.intercalate_cons_cons]
      rcases List.mem_cons.1 h with rfl | h
      · exact List.infix_append_of_infix_left ((List.prefix_append _ _).isInfix)
      · exact (ih h).trans (List.suffix_append _ _).isInfix

theorem infix_of_mem_split {sep : Char} {s piece : String} (h : piece ∈ split sep s) : piece.toList <:+: s.toList := by
  obtain ⟨p, hp, rfl⟩ := List.mem_map.1 h
  have hinfix := infix_intercalate [sep] hp
  rw [intercalate_pieces] at hinfix
  simpa using hinfix

/-- Every character but the separator stands in some piece. -/
theorem exists_mem_split {sep c : Char} {s : String} (h : c ∈ s.toList) (hne : c ≠ sep) :
    ∃ piece ∈ split sep s, c ∈ piece.toList := by
  have hpieces : ∀ cs : List Char, c ∈ cs → ∃ p ∈ pieces sep cs, c ∈ p := by
    intro cs hc
    induction cs with
    | nil => cases hc
    | cons d cs ih =>
      rw [pieces]
      obtain ⟨p, ps, hps⟩ := List.exists_cons_of_ne_nil (pieces_ne_nil sep cs)
      rw [hps] at ih ⊢
      rcases List.mem_cons.1 hc with rfl | hc
      · rw [if_neg hne]
        exact ⟨c :: p, List.mem_cons_self, List.mem_cons_self⟩
      · obtain ⟨q, hq, hcq⟩ := ih hc
        split
        · exact ⟨q, List.mem_cons_of_mem _ hq, hcq⟩
        · rcases List.mem_cons.1 hq with rfl | hq
          · exact ⟨d :: q, List.mem_cons_self, List.mem_cons_of_mem _ hcq⟩
          · exact ⟨q, List.mem_cons_of_mem _ hq, hcq⟩
  obtain ⟨p, hp, hc⟩ := hpieces s.toList h
  exact ⟨String.ofList p, List.mem_map_of_mem hp, by simpa using hc⟩

/-- A text without two dots in a row has no component that leads back. -/
theorem up_not_mem_split {s : String} (h : "" ∉ (split '.' s).tail) : ".." ∉ split '/' s := by
  intro hup
  obtain ⟨before, after, htext⟩ := infix_of_mem_split hup
  have htext' : s.toList = before ++ '.' :: '.' :: after := by
    rw [← htext, List.append_assoc]
    rfl
  refine h ?_
  rw [split, htext', ← List.map_tail]
  exact List.mem_map.2 ⟨[], nil_mem_tail_pieces '.' before after, rfl⟩

end Text

/-! ## Parts of a package -/

namespace Package

theorem mem_parts {namespaceName part : String} (h : part ∈ parts namespaceName) : part ≠ "" ∧ '.' ∉ part.toList := by
  obtain ⟨p, hp, rfl⟩ := List.mem_map.1 h
  obtain ⟨hsplit, hne⟩ := List.mem_filter.1 hp
  have hdot : Text.BeforeDigits '.' := by decide
  constructor
  · rw [Ne, Text.lower_eq_empty_iff]
    simpa using hne
  · rw [hdot.mem_lower_iff]
    exact Text.not_mem_of_mem_split hsplit

/-- The name of a package is cut into its parts. -/
theorem split_name {namespaceName : String} (h : parts namespaceName ≠ []) :
    Text.split '.' (name namespaceName) = parts namespaceName :=
  Text.split_joinDots h fun _ hp => (mem_parts hp).2

theorem split_name_of_parts_eq_nil {namespaceName : String} (h : parts namespaceName = []) :
    Text.split '.' (name namespaceName) = [""] := by
  rw [name, h]
  rfl

/-- A part of a package starts with a slash exactly if a part of the namespace's name does. -/
theorem exists_slash_split_name_iff (namespaceName : String) :
    (∃ part ∈ Text.split '.' (name namespaceName), part.toList.head? = some '/') ↔
      ∃ part ∈ Text.split '.' namespaceName, part.toList.head? = some '/' := by
  have hslash : Text.BeforeDigits '/' := by decide
  -- a part that starts with a slash is not empty, so it is kept
  have hparts : (∃ part ∈ parts namespaceName, part.toList.head? = some '/') ↔
      ∃ part ∈ Text.split '.' namespaceName, part.toList.head? = some '/' := by
    simp only [parts, List.mem_map, List.mem_filter, bne_iff_ne]
    constructor
    · rintro ⟨_, ⟨part, ⟨hpart, -⟩, rfl⟩, hhead⟩
      exact ⟨part, hpart, (hslash.head?_lower_eq_iff part).1 hhead⟩
    · rintro ⟨part, hpart, hhead⟩
      refine ⟨_, ⟨part, ⟨hpart, ?_⟩, rfl⟩, (hslash.head?_lower_eq_iff part).2 hhead⟩
      rintro rfl
      cases hhead
  rw [← hparts]
  by_cases h : parts namespaceName = []
  · rw [split_name_of_parts_eq_nil h, h]
    decide
  · rw [split_name h]

/-- Leading dots apart, a name starts as its first part does that is not empty. -/
theorem head?_filter_split (namespaceName : String) :
    ((Text.split '.' namespaceName).filter (· != "")).head?.bind (fun part => part.toList.head?) =
      (namespaceName.toList.dropWhile (· == '.')).head? := by
  have hpieces : ∀ cs : List Char,
      (((Text.pieces '.' cs).map String.ofList).filter (· != "")).head?.bind (fun part => part.toList.head?) =
        (cs.dropWhile (· == '.')).head? := by
    intro cs
    induction cs with
    | nil => rfl
    | cons c cs ih =>
      rw [Text.pieces]
      by_cases hc : c = '.'
      · rw [if_pos hc, hc]
        exact ih
      · obtain ⟨p, ps, hps⟩ := List.exists_cons_of_ne_nil (Text.pieces_ne_nil '.' cs)
        rw [if_neg hc, hps]
        simp [hc]
  exact hpieces namespaceName.toList

/-- The name of a package starts with a slash exactly if the namespace's name does, leading dots apart. -/
theorem head?_name_iff (namespaceName : String) :
    (name namespaceName).toList.head? = some '/' ↔ (namespaceName.toList.dropWhile (· == '.')).head? = some '/' := by
  have hslash : Text.BeforeDigits '/' := by decide
  rw [← head?_filter_split, name, parts]
  cases hfilter : (Text.split '.' namespaceName).filter (· != "") with
  | nil => decide
  | cons first rest =>
    have hfirst : first ≠ "" := by
      have hmem : first ∈ (Text.split '.' namespaceName).filter (· != "") := hfilter ▸ List.mem_cons_self
      simpa using (List.mem_filter.1 hmem).2
    have hlower : (Text.lower first).toList ≠ [] := by
      rwa [Ne, String.toList_eq_nil_iff, Text.lower_eq_empty_iff]
    obtain ⟨more, htext⟩ := Text.exists_toList_intercalate_cons "." (Text.lower first) (rest.map Text.lower)
    rw [List.map_cons, Text.joinDots, htext, List.head?_append_of_ne_nil _ hlower, hslash.head?_lower_eq_iff]
    rfl

/-- No two dots stand in a row in the name of a package. -/
theorem empty_not_mem_tail_split_name (namespaceName : String) :
    "" ∉ (Text.split '.' (name namespaceName)).tail := by
  by_cases h : parts namespaceName = []
  · rw [split_name_of_parts_eq_nil h]
    decide
  · rw [split_name h]
    intro hempty
    exact (mem_parts (List.mem_of_mem_tail hempty)).1 rfl

end Package

end ProtoEmit
