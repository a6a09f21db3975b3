/-
  Package names are in normal form.

  A lower-case form consists of characters that stay as they are when they are lower-cased again: no run of the case
  table leads to a character that another run starts from, and no capital sigma is left whose neighbours could matter.
  So lower-casing twice is lower-casing once, and taking the package of a package changes nothing. Its parts are never
  empty and hold no dot, which is why it has no dot too many and can be cut into folders and a stem and joined again.
-/

import ProtoEmit.Proofs.Collisions

namespace ProtoEmit

/-! ## Characters in lower case -/

namespace Text

/-- What the run `r` leads to is out of reach of the run `q`: it lies before `q` or behind it, or `q` takes every second
    character and `r` leads to those in between. -/
def CaseRun.leadsClearOf (r q : CaseRun) : Bool :=
  Nat.blt (r.target + (r.last - r.first)) q.first || Nat.blt q.last r.target ||
    ((Nat.beq r.first r.last || Nat.beq r.stride 2) && Nat.beq q.stride 2 && Nat.beq ((r.target + q.first) % 2) 1)

theorem CaseRun.leadsClearOf_iff {r q : CaseRun} :
    r.leadsClearOf q = true ↔
      r.target + (r.last - r.first) < q.first ∨ q.last < r.target ∨
        (r.first = r.last ∨ r.stride = 2) ∧ q.stride = 2 ∧ (r.target + q.first) % 2 = 1 := by
  simp only [leadsClearOf, Bool.or_eq_true, Bool.and_eq_true, Nat.blt_eq, Nat.beq_eq, or_assoc, and_assoc]

-- The table is compared with itself, so the test is one that is quick to evaluate.
theorem lowerRuns_leadClear : (lowerRuns.all fun r => lowerRuns.all r.leadsClearOf) = true := by
  decide +kernel

theorem lowerRuns_not_to_capitalDottedI : ∀ r ∈ lowerRuns,
    r.target + (r.last - r.first) < capitalDottedI.toNat ∨ capitalDottedI.toNat < r.target := by
  decide +kernel

theorem CaseRun.covers_iff {r : CaseRun} {c : Char} :
    r.covers c = true ↔ r.first ≤ c.toNat ∧ c.toNat ≤ r.last ∧ (c.toNat - r.first) % r.stride = 0 := by
  simp only [CaseRun.covers, Bool.and_eq_true, decide_eq_true_eq, beq_iff_eq, and_assoc]

/-- No run goes on from where a run leads. -/
theorem covers_image_eq_false {r q : CaseRun} (hr : r ∈ lowerRuns) (hq : q ∈ lowerRuns) {c : Char}
    (hc : r.covers c = true) : q.covers (r.image c) = false := by
  obtain ⟨hfirst, hlast, hstride⟩ := CaseRun.covers_iff.1 hc
  have hbounds := (lowerRuns_bounds q hq).1
  rw [Bool.eq_false_iff]
  intro hcovers
  obtain ⟨hfirst', hlast', hstride'⟩ := CaseRun.covers_iff.1 hcovers
  rcases toNat_image r c with hzero | himage
  · omega
  · rw [himage] at hfirst' hlast' hstride'
    have hclear := List.all_eq_true.1 (List.all_eq_true.1 lowerRuns_leadClear r hr) q hq
    rcases CaseRun.leadsClearOf_iff.1 hclear with hbefore | hbehind | ⟨hstep, htwo, hodd⟩
    · omega
    · omega
    · -- the image is an even distance from the target, which is an odd one from the start of the other run
      have heven : (c.toNat - r.first) % 2 = 0 := by
        rcases hstep with hsingle | hstep
        · omega
        · rwa [hstep] at hstride
      rw [htwo] at hstride'
      omega

/-- The image of a run stays as it is. -/
theorem lowerChar_image {r : CaseRun} (hr : r ∈ lowerRuns) {c : Char} (hc : r.covers c = true) :
    lowerChar (r.image c) = [r.image c] := by
  have hne : r.image c ≠ capitalDottedI := by
    intro heq
    obtain ⟨hfirst, hlast, -⟩ := CaseRun.covers_iff.1 hc
    have hdotted := lowerRuns_not_to_capitalDottedI r hr
    have hpos : 0 < capitalDottedI.toNat := by decide
    have himage := toNat_image r c
    rw [heq] at himage
    omega
  have hnone : lowerRuns.find? (·.covers (r.image c)) = none := by
    rw [List.find?_eq_none]
    intro q hq
    rw [covers_image_eq_false hr hq hc]
    exact Bool.false_ne_true
  unfold lowerChar
  rw [if_neg hne, hnone]

/-- The characters of a lower-case form stay as they are. -/
theorem lowerChar_of_mem_lowerChar {c d : Char} (h : d ∈ lowerChar c) : lowerChar d = [d] := by
  unfold lowerChar at h
  split at h
  · rcases List.mem_cons.1 h with rfl | h
    · decide +kernel
    · rw [List.mem_singleton.1 h]
      decide +kernel
  · rename_i hne
    split at h
    · rename_i r hfind
      have hcovers : r.covers c = true := by simpa using List.find?_some hfind
      rw [List.mem_singleton.1 h]
      exact lowerChar_image (List.mem_of_find?_eq_some hfind) hcovers
    · rename_i hnone
      rw [List.mem_singleton.1 h, lowerChar, if_neg hne, hnone]

theorem lowerChar_of_mem_lowerBetween {before : List Char} {c : Char} {after : List Char} {d : Char}
    (h : d ∈ lowerBetween before c after) : lowerChar d = [d] := by
  unfold lowerBetween at h
  split at h
  · rw [List.mem_singleton.1 h]
    decide +kernel
  · exact lowerChar_of_mem_lowerChar h

/-! ## Texts in lower case -/

theorem lowerChar_of_mem_lowerFrom {before cs : List Char} {d : Char} (h : d ∈ lowerFrom before cs) :
    lowerChar d = [d] := by
  induction cs generalizing before with
  | nil => cases h
  | cons c cs ih =>
    rcases List.mem_append.1 h with h | h
    · exact lowerChar_of_mem_lowerBetween h
    · exact ih h

/-- Characters that stay as they are do so between any others: a capital sigma is none of them. -/
theorem lowerFrom_eq_self {cs : List Char} (h : ∀ c ∈ cs, lowerChar c = [c]) (before : List Char) :
    lowerFrom before cs = cs := by
  induction cs generalizing before with
  | nil => rfl
  | cons c cs ih =>
    obtain ⟨hc, hcs⟩ := List.forall_mem_cons.1 h
    have hsigma : c ≠ capitalSigma := by
      rintro rfl
      exact absurd hc (by decide +kernel)
    have hbetween : lowerBetween before c cs = [c] := by
      unfold lowerBetween
      rw [if_neg (by simp [hsigma]), hc]
    rw [lowerFrom, hbetween, ih hcs, List.singleton_append]

/-- Lower-casing a text once more changes nothing. -/
theorem lower_lower (s : String) : lower (lower s) = lower s := by
  apply String.toList_inj.1
  rw [lower, String.toList_ofList]
  refine lowerFrom_eq_self (fun c hc => ?_) []
  rw [lower, String.toList_ofList] at hc
  exact lowerChar_of_mem_lowerFrom hc

end Text

/-! ## Packages -/

namespace Package

/-- A namespace has a package without a name exactly if it has no parts. -/
theorem name_eq_empty_iff_parts {namespaceName : String} : name namespaceName = "" ↔ parts namespaceName = [] := by
  constructor
  · intro h
    by_contra hparts
    have hsplit := split_name hparts
    rw [h] at hsplit
    -- the only piece of the empty text is empty, and no part is
    have hempty : "" ∈ parts namespaceName := hsplit ▸ List.mem_singleton_self ""
    exact (mem_parts hempty).1 rfl
  · intro h
    rw [name, h]
    rfl

theorem parts_eq_nil_iff {namespaceName : String} : parts namespaceName = [] ↔ ∀ c ∈ namespaceName.toList, c = '.' := by
  have hpieces : parts namespaceName = [] ↔ (Text.pieces '.' namespaceName.toList).flatten = [] := by
    rw [List.flatten_eq_nil_iff, parts, List.map_eq_nil_iff, List.filter_eq_nil_iff, Text.split, List.forall_mem_map]
    refine forall₂_congr fun piece _ => ?_
    rw [bne_iff_ne, not_not, String.ofList_eq_empty_iff]
  rw [hpieces, Text.flatten_pieces, List.filter_eq_nil_iff]
  refine forall₂_congr fun c _ => ?_
  rw [bne_iff_ne, not_not]

/-- The parts of a package are those of its own name. -/
theorem parts_name (namespaceName : String) : parts (name namespaceName) = parts namespaceName := by
  by_cases h : parts namespaceName = []
  · rw [parts, split_name_of_parts_eq_nil h, h]
    rfl
  · have hkept : (parts namespaceName).filter (· != "") = parts namespaceName :=
      List.filter_eq_self.2 fun part hpart => bne_iff_ne.2 (mem_parts hpart).1
    have hlower : ∀ part ∈ parts namespaceName, Text.lower part = part := by
      intro part hpart
      obtain ⟨piece, -, rfl⟩ := List.mem_map.1 hpart
      exact Text.lower_lower piece
    calc parts (name namespaceName)
        = ((parts namespaceName).filter (· != "")).map Text.lower := by rw [parts, split_name h]
      _ = (parts namespaceName).map Text.lower := by rw [hkept]
      _ = parts namespaceName := by rw [List.map_congr_left hlower, List.map_id']

/-- The name of a package is in normal form: no dot stands first, last or next to another one; it is empty exactly if
    the namespace's name has nothing but dots; its parts are those of that name in lower case, the empty ones left
    out; and it is its own package. In the nested layout, a name that is not empty is cut into folders and a stem that
    join to it again. -/
theorem name_canonical (namespaceName : String) :
    ((name namespaceName).toList.head? ≠ some '.' ∧ (name namespaceName).toList.getLast? ≠ some '.' ∧
        ¬ ['.', '.'] <:+: (name namespaceName).toList) ∧
      (name namespaceName = "" ↔ ∀ c ∈ namespaceName.toList, c = '.') ∧
      (name namespaceName ≠ "" →
        Text.split '.' (name namespaceName) = ((Text.split '.' namespaceName).filter (· != "")).map Text.lower) ∧
      name (name namespaceName) = name namespaceName ∧
      (name namespaceName ≠ "" → ∃ folders stem,
        Layout.nested.file namespaceName =
            .joinAll (folders.map Path.ofString ++ [.ofString (stem ++ Layout.ending)]) ∧
          ('/' ∉ namespaceName.toList → (Layout.nested.file namespaceName).parts = folders ++ [stem ++ Layout.ending]) ∧
          (∀ part ∈ folders ++ [stem], part ≠ "" ∧ '.' ∉ part.toList) ∧
          Text.joinDots (folders ++ [stem]) = name namespaceName) := by
  have hsplit : name namespaceName ≠ "" → Text.split '.' (name namespaceName) = parts namespaceName :=
    fun hne => split_name (mt name_eq_empty_iff_parts.2 hne)
  refine ⟨?_, name_eq_empty_iff_parts.trans parts_eq_nil_iff, hsplit, by rw [name, parts_name, name], fun hne => ?_⟩
  · by_cases hempty : name namespaceName = ""
    · rw [hempty]
      exact ⟨by simp, by simp, by simp⟩
    · -- no part is empty, so the dots between them leave no gap
      have hgap : [] ∉ Text.pieces '.' (name namespaceName).toList := by
        rw [← Text.empty_mem_split_iff, hsplit hempty]
        exact fun hpart => (mem_parts hpart).1 rfl
      exact ⟨Text.head?_ne_of_nil_not_mem hgap, Text.getLast?_ne_of_nil_not_mem hgap,
        Text.not_isInfix_of_nil_not_mem hgap⟩
  · obtain ⟨folders, stem, hfolders, hfile⟩ := Layout.exists_fileOfPackage_nested (name namespaceName)
    refine ⟨folders, stem, hfile, fun hslash => ?_, fun part hpart => ?_, ?_⟩
    · obtain ⟨folders', stem', hfolders', hfile'⟩ := Layout.exists_nested_file_of_no_slash hslash
      obtain ⟨rfl, hstem⟩ := List.append_inj' (hfolders.symm.trans hfolders') rfl
      rw [hfile', List.singleton_inj.1 hstem]
    · rw [← hfolders, hsplit hne] at hpart
      exact mem_parts hpart
    · rw [← hfolders, Text.joinDots_split]

section

-- Packages are followed character by character.
set_option maxRecDepth 4000

/-- Dots at the ends and in a row go, and a sigma at the end of a part has its final form. -/
theorem greekName_canonical :
    name ".ΟΔΟΣ..ΣΑΣ.İ." = "οδος.σας.i̇" ∧ name "οδος.σας.i̇" = "οδος.σας.i̇" ∧
      ∃ folders stem, (Layout.nested.file ".ΟΔΟΣ..ΣΑΣ.İ.").parts = folders ++ [stem ++ Layout.ending] ∧
        Text.joinDots (folders ++ [stem]) = "οδος.σας.i̇" := by
  have hname : name ".ΟΔΟΣ..ΣΑΣ.İ." = "οδος.σας.i̇" := by rfl
  have hne : name ".ΟΔΟΣ..ΣΑΣ.İ." ≠ "" := by
    rw [hname]
    decide
  obtain ⟨-, -, -, hagain, hpath⟩ := name_canonical ".ΟΔΟΣ..ΣΑΣ.İ."
  obtain ⟨folders, stem, -, hparts, -, hjoin⟩ := hpath hne
  rw [hname] at hagain hjoin
  exact ⟨hname, hagain, folders, stem, hparts (by decide), hjoin⟩

end

end Package

end ProtoEmit
