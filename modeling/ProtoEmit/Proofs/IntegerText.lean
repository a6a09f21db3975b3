/-
  The texts that stand for integers.

  A text stands for an integer if it is one with white space around it: a sign, digits with single underscores
  between them, and a fraction of zeros. Zeros in front are read with less care, so that a few further texts are
  taken for integers: those with underscores in a row among these zeros, and those with a minus behind them.
-/

import Mathlib.Data.List.Infix
import Mathlib.Data.List.TakeWhile
import ProtoEmit.Proofs.Split
import ProtoEmit.Schema.Coercion

namespace ProtoEmit

/-! ## Forms -/

/-- Digits in groups with an underscore between neighbours; `digits` are those of all groups. -/
def IsGroupedDigits (cs digits : List Char) : Prop :=
  ∃ groups : List (List Char), groups ≠ [] ∧ (∀ g ∈ groups, g ≠ [] ∧ ∀ c ∈ g, c.isDigit = true) ∧
    cs = ['_'].intercalate groups ∧ digits = groups.flatten

/-- Nothing, or a point and zeros. -/
def IsZeroFraction (cs : List Char) : Prop :=
  cs = [] ∨ ∃ zeros, zeros ≠ [] ∧ (∀ c ∈ zeros, c = '0') ∧ cs = '.' :: zeros

/-- Digits with a sign in front, or none, and the integer that they write. -/
def IsSigned (sign digits : List Char) (n : Int) : Prop :=
  (sign = [] ∨ sign = ['+']) ∧ n = ofDigits digits ∨ sign = ['-'] ∧ n = -(ofDigits digits : Int)

/-- A text that writes an integer: a sign, grouped digits and a fraction of zeros, with white space around them. -/
def IntegerText (cs : List Char) (n : Int) : Prop :=
  ∃ before sign body digits fraction after, cs = before ++ (sign ++ body ++ fraction) ++ after ∧
    (∀ c ∈ before ++ after, Text.isWhite c = true) ∧ IsGroupedDigits body digits ∧ IsZeroFraction fraction ∧
    IsSigned sign digits n

/-- A zero in front, and further zeros and underscores in any order. -/
def IsLoosePadding (cs : List Char) : Prop :=
  cs.head? = some '0' ∧ ∀ c ∈ cs, c = '0' ∨ c = '_'

/-- A text that is taken for an integer although it writes none: underscores follow each other among the zeros in
    front, or a minus, with an underscore at most behind it, follows on these zeros. -/
def LooseIntegerText (cs : List Char) (n : Int) : Prop :=
  ∃ before sign padding minus body digits fraction after,
    cs = before ++ (sign ++ padding ++ minus ++ body ++ fraction) ++ after ∧
    (∀ c ∈ before ++ after, Text.isWhite c = true) ∧ IsLoosePadding padding ∧ IsGroupedDigits body digits ∧
    IsZeroFraction fraction ∧
    (minus = [] ∧ ['_', '_'] <:+: padding ++ body ∧ IsSigned sign digits n ∨
      (minus = ['-'] ∨ minus = ['-', '_']) ∧ (sign = [] ∨ sign = ['+']) ∧ n = -(ofDigits digits : Int))

/-! ## Pieces without a gap -/

namespace Text

/-- Where no two separators stand in a row and none stands last, no piece but the first can be empty. -/
theorem nil_not_mem_tail_pieces {sep : Char} {cs : List Char} (hrow : ¬ [sep, sep] <:+: cs)
    (hlast : cs.getLast? ≠ some sep) : [] ∉ (pieces sep cs).tail := by
  induction cs with
  | nil => simp [pieces]
  | cons c cs ih =>
    have hrow' : ¬ [sep, sep] <:+: cs := fun h => hrow (h.trans (List.suffix_cons c cs).isInfix)
    cases cs with
    | nil =>
      by_cases hc : c = sep
      · simp [hc] at hlast
      · simp [pieces, hc]
    | cons d cs =>
      have hlast' : (d :: cs).getLast? ≠ some sep := by simpa using hlast
      obtain ⟨p, ps, hps⟩ := List.exists_cons_of_ne_nil (pieces_ne_nil sep (d :: cs))
      have htail : [] ∉ ps := by simpa [hps] using ih hrow' hlast'
      by_cases hc : c = sep
      · -- the next character is no separator, so it stands in the piece that starts here
        have hd : d ≠ sep := by
          rintro rfl
          exact hrow ⟨[], cs, by simp [hc]⟩
        have hp : p ≠ [] := by
          obtain ⟨q, qs, hqs⟩ := List.exists_cons_of_ne_nil (pieces_ne_nil sep cs)
          rw [pieces, if_neg hd, hqs, List.cons.injEq] at hps
          rw [← hps.1]
          exact List.cons_ne_nil _ _
        rw [pieces, if_pos hc, hps, List.tail_cons, List.mem_cons, not_or]
        exact ⟨hp.symm, htail⟩
      · rw [pieces, if_neg hc, hps]
        exact htail

end Text

/-! ## Grouped digits -/

theorem isGroupedDigits_iff {cs digits : List Char} :
    IsGroupedDigits cs digits ↔
      [] ∉ Text.pieces '_' cs ∧ digits = cs.filter (· != '_') ∧ ∀ c ∈ digits, c.isDigit = true := by
  constructor
  · rintro ⟨groups, hne, hgroups, rfl, rfl⟩
    obtain ⟨first, rest, rfl⟩ := List.exists_cons_of_ne_nil hne
    have hpieces : Text.pieces '_' (['_'].intercalate (first :: rest)) = first :: rest := by
      refine Text.pieces_intercalate first rest fun g hg hmem => ?_
      have hdigit := (hgroups g hg).2 '_' hmem
      revert hdigit
      decide
    rw [← Text.flatten_pieces, hpieces]
    refine ⟨fun hmem => (hgroups _ hmem).1 rfl, rfl, fun c hc => ?_⟩
    obtain ⟨g, hg, hcg⟩ := List.mem_flatten.1 hc
    exact (hgroups g hg).2 c hcg
  · rintro ⟨hpieces, rfl, hdigits⟩
    refine ⟨Text.pieces '_' cs, Text.pieces_ne_nil _ _, fun g hg => ⟨?_, fun c hc => hdigits c ?_⟩,
      (Text.intercalate_pieces _ _).symm, (Text.flatten_pieces _ _).symm⟩
    · rintro rfl
      exact hpieces hg
    · rw [← Text.flatten_pieces]
      exact List.mem_flatten.2 ⟨g, hg, hc⟩

theorem IsGroupedDigits.ne_nil {cs digits : List Char} (h : IsGroupedDigits cs digits) : cs ≠ [] := by
  rintro rfl
  have hpieces := (isGroupedDigits_iff.1 h).1
  simp [Text.pieces] at hpieces

theorem IsGroupedDigits.isDigit_or {cs digits : List Char} (h : IsGroupedDigits cs digits) {c : Char} (hc : c ∈ cs) :
    c.isDigit = true ∨ c = '_' := by
  obtain ⟨-, rfl, hdigits⟩ := isGroupedDigits_iff.1 h
  by_cases hne : c = '_'
  · exact .inr hne
  · exact .inl (hdigits c (List.mem_filter.2 ⟨hc, by simpa using hne⟩))

theorem ofDigits_append (zeros digits : List Char) (h : ∀ c ∈ zeros, c = '0') :
    ofDigits (zeros ++ digits) = ofDigits digits := by
  have hzeros : ofDigits zeros = 0 := by
    induction zeros with
    | nil => rfl
    | cons c zeros ih =>
      obtain ⟨rfl, hzeros⟩ := List.forall_mem_cons.1 h
      exact ih hzeros
  rw [ofDigits, List.foldl_append]
  show List.foldl _ (ofDigits zeros) digits = _
  rw [hzeros]
  rfl

/-- Zeros and underscores in front of grouped digits form groups with them unless two underscores meet. -/
theorem IsLoosePadding.isGroupedDigits {padding body digits : List Char} (hpadding : IsLoosePadding padding)
    (hbody : IsGroupedDigits body digits) (hrow : ¬ ['_', '_'] <:+: padding ++ body) :
    IsGroupedDigits (padding ++ body) (padding.filter (· != '_') ++ digits) := by
  obtain ⟨hpieces, rfl, hdigits⟩ := isGroupedDigits_iff.1 hbody
  obtain ⟨hhead, hzeros⟩ := hpadding
  obtain ⟨rest, rfl⟩ := List.head?_eq_some_iff.1 hhead
  have hlast : ('0' :: rest ++ body).getLast? ≠ some '_' := by
    rw [List.getLast?_append_of_ne_nil _ hbody.ne_nil]
    exact Text.getLast?_ne_of_nil_not_mem hpieces
  refine isGroupedDigits_iff.2 ⟨?_, by rw [List.filter_append], fun c hc => ?_⟩
  · have htail := Text.nil_not_mem_tail_pieces hrow hlast
    obtain ⟨q, qs, hqs⟩ := List.exists_cons_of_ne_nil (Text.pieces_ne_nil '_' (rest ++ body))
    have hpieces' : Text.pieces '_' ('0' :: rest ++ body) = ('0' :: q) :: qs := by
      simp [Text.pieces, hqs]
    rw [hpieces'] at htail ⊢
    simpa using htail
  · rcases List.mem_append.1 hc with hc | hc
    · obtain ⟨hmem, hne⟩ := List.mem_filter.1 hc
      rcases hzeros c hmem with rfl | rfl
      · decide
      · cases hne
    · exact hdigits c hc

/-! ## Telling the forms apart -/

theorem IsZeroFraction.minus_not_mem {cs : List Char} (h : IsZeroFraction cs) : '-' ∉ cs := by
  rcases h with rfl | ⟨zeros, -, hzeros, rfl⟩
  · simp
  · intro hmem
    rcases List.mem_cons.1 hmem with h | h
    · cases h
    · cases hzeros '-' h

theorem IsGroupedDigits.minus_not_mem {cs digits : List Char} (h : IsGroupedDigits cs digits) : '-' ∉ cs := by
  intro hmem
  rcases h.isDigit_or hmem with hdigit | hunderscore
  · exact absurd hdigit (by decide)
  · exact absurd hunderscore (by decide)

/-- In a text that writes an integer, only white space comes before a minus. -/
theorem IntegerText.isWhite_of_minus {front rest : List Char} {n : Int} (h : IntegerText (front ++ '-' :: rest) n) :
    ∀ c ∈ front, Text.isWhite c = true := by
  obtain ⟨before, sign, body, digits, fraction, after, htext, hwhite, hbody, hzero, hsigned⟩ := h
  have haround : '-' ∉ before ++ after := by
    intro hmem
    exact absurd (hwhite _ hmem) (by decide)
  obtain ⟨hbefore, hafter⟩ := not_or.1 (mt List.mem_append.2 haround)
  have hrest : '-' ∉ body ++ fraction ++ after := by simp [hbody.minus_not_mem, hzero.minus_not_mem, hafter]
  have hmem : '-' ∈ before ++ (sign ++ body ++ fraction) ++ after := by
    rw [← htext]
    simp
  -- so the minus is the sign
  obtain rfl : sign = ['-'] := by
    rcases hsigned with ⟨rfl | rfl, -⟩ | ⟨rfl, -⟩
    · simp [hbefore, hafter, hbody.minus_not_mem, hzero.minus_not_mem] at hmem
    · simp [hbefore, hafter, hbody.minus_not_mem, hzero.minus_not_mem] at hmem
    · rfl
  have hsplit : before ++ '-' :: (body ++ fraction ++ after) = front ++ '-' :: rest := by simp [htext]
  have hfront := (List.append_cons_inj_of_notMem hbefore hrest).1 hsplit
  rw [← hfront.1]
  exact fun c hc => hwhite c (List.mem_append_left _ hc)

theorem LooseIntegerText.underscores_or_minus {cs : List Char} {n : Int} (h : LooseIntegerText cs n) :
    ['_', '_'] <:+: cs ∨ '-' ∈ cs := by
  obtain ⟨before, sign, padding, minus, body, digits, fraction, after, rfl, -, -, -, -, hloose⟩ := h
  rcases hloose with ⟨rfl, hrow, -⟩ | ⟨hminus, -, -⟩
  · left
    refine hrow.trans ⟨before ++ sign, fraction ++ after, by simp⟩
  · right
    rcases hminus with rfl | rfl <;> simp

/-! ## What the reader takes apart -/

namespace Coercion

theorem plainInteger?_cases {cs : List Char} {n : Int} (h : plainInteger? cs = some n) :
    ∃ sign digits, cs = sign ++ digits ∧ digits ≠ [] ∧ (∀ c ∈ digits, c.isDigit = true) ∧
      (sign = [] ∧ n = ofDigits digits ∨ sign = ['-'] ∧ n = -(ofDigits digits : Int)) ∧
      digits.length ≤ maxDigits := by
  have hwhole : ∀ digits, isWhole digits = true → digits ≠ [] := by
    rintro _ hdigits rfl
    cases hdigits
  unfold plainInteger? at h
  split at h
  rename_i negative digits hsplit
  simp only [Option.ite_none_right_eq_some, Bool.and_eq_true, List.all_eq_true, Option.some.injEq,
    decide_eq_true_eq] at h
  obtain ⟨⟨⟨hne, hdigits⟩, hlength⟩, rfl⟩ := h
  split at hsplit
  · obtain ⟨rfl, rfl⟩ := Prod.mk.inj hsplit
    exact ⟨['-'], _, rfl, hwhole _ hne, hdigits, .inr ⟨rfl, rfl⟩, hlength⟩
  · obtain ⟨rfl, rfl⟩ := Prod.mk.inj hsplit
    exact ⟨[], _, rfl, hwhole _ hne, hdigits, .inl ⟨rfl, rfl⟩, hlength⟩

theorem exists_trim (cs : List Char) :
    ∃ before after, cs = before ++ trim cs ++ after ∧ ∀ c ∈ before ++ after, Text.isWhite c = true := by
  refine ⟨cs.takeWhile Text.isWhite, ((cs.dropWhile Text.isWhite).reverse.takeWhile Text.isWhite).reverse, ?_, ?_⟩
  · have hend : trim cs ++ ((cs.dropWhile Text.isWhite).reverse.takeWhile Text.isWhite).reverse =
        cs.dropWhile Text.isWhite := by
      rw [trim, Text.dropEndWhile, ← List.reverse_append, List.takeWhile_append_dropWhile, List.reverse_reverse]
    rw [List.append_assoc, hend, List.takeWhile_append_dropWhile]
  · intro c hc
    rcases List.mem_append.1 hc with hc | hc
    · exact List.mem_takeWhile_imp hc
    · exact List.mem_takeWhile_imp (List.mem_reverse.1 hc)

/-- What is left after zeros and underscores starts with neither, or it is the last of them, at the end or before a
    point. -/
theorem skipZeros_cases {last : Char} {cs rest : List Char} (hlast : last = '0' ∨ last = '_')
    (h : skipZeros last cs = some rest) :
    ∃ padding, last :: cs = padding ++ rest ∧ (∀ c ∈ padding, c = '0' ∨ c = '_') ∧
      (padding = [] ∨ padding.head? = some last) ∧
      (rest.head? = some '_' → rest = ['_'] ∨ ∃ more, rest = '_' :: '.' :: more) := by
  induction cs generalizing last with
  | nil =>
    obtain rfl : [last] = rest := Option.some.inj h
    refine ⟨[], rfl, by simp, .inl rfl, fun hhead => .inl ?_⟩
    rw [Option.some.inj hhead]
  | cons c cs ih =>
    rw [skipZeros] at h
    split at h
    · rename_i hc
      obtain ⟨padding, heq, hpadding, -, hrest⟩ := ih (by simpa using hc) h
      exact ⟨last :: padding, by rw [heq, List.cons_append], List.forall_mem_cons.2 ⟨hlast, hpadding⟩, .inr rfl, hrest⟩
    · rename_i hc
      split at h
      · obtain rfl : c :: cs = rest := Option.some.inj h
        refine ⟨[last], rfl, by simpa using hlast, .inr rfl, fun hhead => ?_⟩
        rw [List.head?_cons, Option.some.injEq] at hhead
        simp [hhead] at hc
      · split at h
        · rename_i hpoint
          obtain rfl : last :: c :: cs = rest := Option.some.inj h
          refine ⟨[], rfl, by simp, .inl rfl, fun hhead => .inr ⟨cs, ?_⟩⟩
          rw [Option.some.inj hhead, hpoint]
        · cases h

theorem withoutZeros?_cases {cs rest : List Char} (h : withoutZeros? cs = some rest) :
    ∃ padding, cs = padding ++ rest ∧ (padding = [] ∨ IsLoosePadding padding) ∧
      (rest.head? = some '_' → rest = ['_'] ∨ ∃ more, rest = '_' :: '.' :: more) := by
  cases cs with
  | nil => cases h
  | cons c cs =>
    rw [withoutZeros?] at h
    split at h
    · rename_i hc
      obtain ⟨padding, heq, hpadding, hhead, hrest⟩ := skipZeros_cases (.inl hc) h
      refine ⟨padding, heq, ?_, hrest⟩
      rcases hhead with hnil | hhead
      · exact .inl hnil
      · exact .inr ⟨by rw [hhead, hc], hpadding⟩
    · split at h
      · rename_i hc
        obtain rfl : c :: cs = rest := Option.some.inj h
        refine ⟨[], rfl, .inl rfl, fun hhead => ?_⟩
        rw [List.head?_cons, Option.some.injEq] at hhead
        simp [hhead] at hc
      · cases h

/-- A minus in front stays, a plus goes, and without a sign there is no minus in front of the digits unless zeros
    come before it. -/
theorem unpadded?_cases {cs plain : List Char} (h : unpadded? cs = some plain) :
    ∃ sign padding rest, cs = sign ++ padding ++ rest ∧ (padding = [] ∨ IsLoosePadding padding) ∧
      (rest.head? = some '_' → rest = ['_'] ∨ ∃ more, rest = '_' :: '.' :: more) ∧
      (sign = ['-'] ∧ plain = '-' :: rest ∨
        (sign = [] ∨ sign = ['+']) ∧ plain = rest ∧ (padding = [] → rest.head? ≠ some '-')) := by
  unfold unpadded? at h
  split at h
  · obtain ⟨rest, hrest, rfl⟩ := Option.map_eq_some_iff.1 h
    obtain ⟨padding, rfl, hpadding, hhead⟩ := withoutZeros?_cases hrest
    exact ⟨['-'], padding, rest, rfl, hpadding, hhead, .inl ⟨rfl, rfl⟩⟩
  · cases h
  · rename_i cs hminus
    obtain ⟨padding, rfl, hpadding, hhead⟩ := withoutZeros?_cases h
    refine ⟨['+'], padding, plain, rfl, hpadding, hhead, .inr ⟨.inr rfl, rfl, ?_⟩⟩
    rintro rfl hplain
    obtain ⟨more, rfl⟩ := List.head?_eq_some_iff.1 hplain
    exact hminus more rfl
  · rename_i cs hminus _ _
    obtain ⟨padding, rfl, hpadding, hhead⟩ := withoutZeros?_cases h
    refine ⟨[], padding, plain, rfl, hpadding, hhead, .inr ⟨.inl rfl, rfl, ?_⟩⟩
    rintro rfl hplain
    obtain ⟨more, rfl⟩ := List.head?_eq_some_iff.1 hplain
    exact hminus more rfl

theorem exists_fraction (cs : List Char) : ∃ fraction, cs = withoutFraction cs ++ fraction ∧ IsZeroFraction fraction := by
  unfold withoutFraction
  split
  · rename_i zeros hdrop
    split
    · rename_i hzeros
      refine ⟨'.' :: '0' :: zeros, ?_, .inr ⟨'0' :: zeros, List.cons_ne_nil _ _, ?_, rfl⟩⟩
      · rw [← hdrop, List.takeWhile_append_dropWhile]
      · simpa using hzeros
    · exact ⟨[], (List.append_nil _).symm, .inl rfl⟩
  · exact ⟨[], (List.append_nil _).symm, .inl rfl⟩

/-! ## Reading -/

/-- The text between a first minus and the end: digits, with an underscore before them at most. -/
theorem exists_groupedDigits_of_minus {cs digits : List Char} (hpieces : [] ∉ Text.pieces '_' ('-' :: cs))
    (hfilter : cs.filter (· != '_') = digits) (hne : digits ≠ []) (hdigits : ∀ c ∈ digits, c.isDigit = true) :
    ∃ link body, cs = link ++ body ∧ (link = [] ∨ link = ['_']) ∧ IsGroupedDigits body digits := by
  obtain ⟨p, ps, hps⟩ := List.exists_cons_of_ne_nil (Text.pieces_ne_nil '_' cs)
  have hrest : [] ∉ ps := by
    have hcut : Text.pieces '_' ('-' :: cs) = ('-' :: p) :: ps := by
      rw [Text.pieces, if_neg (by decide), hps]
    rw [hcut] at hpieces
    exact fun h => hpieces (List.mem_cons_of_mem _ h)
  cases cs with
  | nil => exact absurd hfilter.symm hne
  | cons c cs =>
    by_cases hc : c = '_'
    · subst hc
      rw [Text.pieces, if_pos rfl, List.cons.injEq] at hps
      rw [← hps.2] at hrest
      exact ⟨['_'], cs, rfl, .inr rfl, isGroupedDigits_iff.2 ⟨hrest, by simp [← hfilter], hdigits⟩⟩
    · have hp : p ≠ [] := by
        obtain ⟨q, qs, hqs⟩ := List.exists_cons_of_ne_nil (Text.pieces_ne_nil '_' cs)
        rw [Text.pieces, if_neg hc, hqs, List.cons.injEq] at hps
        rw [← hps.1]
        exact List.cons_ne_nil _ _
      refine ⟨[], c :: cs, rfl, .inl rfl, isGroupedDigits_iff.2 ⟨?_, hfilter.symm, hdigits⟩⟩
      rw [hps, List.mem_cons, not_or]
      exact ⟨hp.symm, hrest⟩

/-- Padding in front of an integer does not change it. -/
theorem padded_cases {before sign padding body digits fraction after : List Char} {n : Int}
    (hwhite : ∀ c ∈ before ++ after, Text.isWhite c = true) (hpadding : padding = [] ∨ IsLoosePadding padding)
    (hbody : IsGroupedDigits body digits) (hfraction : IsZeroFraction fraction) (hsigned : IsSigned sign digits n) :
    IntegerText (before ++ (sign ++ padding ++ body ++ fraction) ++ after) n ∨
      LooseIntegerText (before ++ (sign ++ padding ++ body ++ fraction) ++ after) n := by
  rcases hpadding with rfl | hpadding
  · left
    refine ⟨before, sign, body, digits, fraction, after, by simp, hwhite, hbody, hfraction, hsigned⟩
  by_cases hrow : ['_', '_'] <:+: padding ++ body
  · right
    exact ⟨before, sign, padding, [], body, digits, fraction, after, by simp, hwhite, hpadding, hbody, hfraction,
      .inl ⟨rfl, hrow, hsigned⟩⟩
  · left
    have hzeros : ofDigits (padding.filter (· != '_') ++ digits) = ofDigits digits := by
      refine ofDigits_append _ _ fun c hc => ?_
      obtain ⟨hmem, hne⟩ := List.mem_filter.1 hc
      rcases hpadding.2 c hmem with rfl | rfl
      · rfl
      · cases hne
    refine ⟨before, sign, padding ++ body, _, fraction, after, by simp, hwhite,
      hpadding.isGroupedDigits hbody hrow, hfraction, ?_⟩
    rw [IsSigned, hzeros]
    exact hsigned

theorem ungrouped?_cases {cs plain : List Char} (h : ungrouped? cs = some plain) :
    [] ∉ Text.pieces '_' cs ∧ cs.filter (· != '_') = plain := by
  rw [ungrouped?, Option.ite_none_right_eq_some, Option.some.injEq] at h
  refine ⟨fun hmem => ?_, h.2⟩
  have hne := List.all_eq_true.1 h.1 [] hmem
  cases hne

/-- Digits behind an underscore are not left over after the zeros in front: the underscore would be skipped. -/
theorem not_left_over {body digits fraction : List Char} (hbody : IsGroupedDigits body digits) :
    ¬ ('_' :: (body ++ fraction) = ['_'] ∨ ∃ more, '_' :: (body ++ fraction) = '_' :: '.' :: more) := by
  obtain ⟨c, tail, rfl⟩ := List.exists_cons_of_ne_nil hbody.ne_nil
  rintro (h | ⟨more, h⟩)
  · simp at h
  · have hc : c = '.' := by
      rw [List.cons_append] at h
      exact (List.cons.inj (List.cons.inj h).2).1
    rcases hbody.isDigit_or List.mem_cons_self with hdigit | hunderscore
    · rw [hc] at hdigit
      exact absurd hdigit (by decide)
    · rw [hc] at hunderscore
      exact absurd hunderscore (by decide)

/-- A text that is read after it has been tidied is an integer, or it is taken for one because of its padding. -/
theorem tidied?_cases {cs plain : List Char} {n : Int} (htidied : tidied? cs = some plain)
    (hplain : plainInteger? plain = some n) : IntegerText cs n ∨ LooseIntegerText cs n := by
  obtain ⟨before, after, htrim, hwhite⟩ := exists_trim cs
  obtain ⟨spread, hspread, hungrouped⟩ := Option.bind_eq_some_iff.1 htidied
  obtain ⟨sign, padding, rest, htext, hpadding, hhead, hsign⟩ := unpadded?_cases hspread
  obtain ⟨fraction, hfraction, hzero⟩ := exists_fraction spread
  obtain ⟨hpieces, rfl⟩ := ungrouped?_cases hungrouped
  obtain ⟨kept, digits, hkept, hne, hdigits, hvalue, -⟩ := plainInteger?_cases hplain
  generalize withoutFraction spread = whole at hfraction hpieces hkept
  -- the first character of what is read stays, since it is no underscore
  obtain ⟨c, tail, rfl⟩ : ∃ c tail, whole = c :: tail := by
    refine List.exists_cons_of_ne_nil ?_
    rintro rfl
    simp [Text.pieces] at hpieces
  have hc : c ≠ '_' := by simpa using Text.head?_ne_of_nil_not_mem hpieces
  have hfilter : c :: tail.filter (· != '_') = kept ++ digits := by simpa [hc] using hkept
  rw [htrim, htext]
  rcases hsign with ⟨rfl, rfl⟩ | ⟨hsign, rfl, hnone⟩
  · -- a minus in front: the digits follow on it, or on the padding behind it
    obtain ⟨rfl, rfl⟩ := List.cons.inj hfraction
    obtain ⟨rfl, rfl⟩ | ⟨rfl, rfl⟩ := hvalue
    · rw [List.nil_append] at hfilter
      have hminus := hdigits '-' (hfilter ▸ List.mem_cons_self)
      exact absurd hminus (by decide)
    obtain ⟨link, body, rfl, rfl | rfl, hbody⟩ :=
      exists_groupedDigits_of_minus hpieces (List.cons.inj hfilter).2 hne hdigits
    · simpa using padded_cases hwhite hpadding hbody hzero (.inr ⟨rfl, rfl⟩)
    · exact absurd (hhead rfl) (not_left_over hbody)
  · obtain ⟨rfl, rfl⟩ | ⟨rfl, rfl⟩ := hvalue
    · have hbody : IsGroupedDigits (c :: tail) digits := by
        refine isGroupedDigits_iff.2 ⟨hpieces, ?_, hdigits⟩
        simpa using hkept.symm
      rw [hfraction, ← List.append_assoc (sign ++ padding)]
      exact padded_cases hwhite hpadding hbody hzero (.inl ⟨hsign, rfl⟩)
    · -- the minus that is read stands behind the padding
      obtain ⟨rfl, htail⟩ := List.cons.inj hfilter
      obtain ⟨link, body, rfl, hlink, hbody⟩ := exists_groupedDigits_of_minus hpieces htail hne hdigits
      have hloose : IsLoosePadding padding := by
        refine hpadding.resolve_left fun hnil => hnone hnil ?_
        rw [hfraction]
        rfl
      right
      refine ⟨before, sign, padding, '-' :: link, body, digits, fraction, after, ?_, hwhite, hloose, hbody, hzero,
        .inr ⟨?_, hsign, rfl⟩⟩
      · rw [hfraction]
        simp
      · obtain rfl | rfl := hlink
        · exact .inl rfl
        · exact .inr rfl

/-- What is accepted for an integer are plain digits, at once or after the text has been tidied. -/
theorem exists_plain_of_integerOfText {s : String} {n : Int} (h : integerOfText s = .valid n) :
    ∃ plain, (plain = s.toList ∨ tidied? s.toList = some plain) ∧ plainInteger? plain = some n := by
  rw [integerOfText] at h
  cases hplain : plainInteger? s.toList with
  | some m =>
    rw [hplain] at h
    obtain rfl := Checked.valid.inj h
    exact ⟨_, .inl rfl, hplain⟩
  | none =>
    simp only [hplain] at h
    split at h
    · cases h
    · cases htidied : (tidied? s.toList).bind plainInteger? with
      | none =>
        rw [htidied] at h
        cases h
      | some m =>
        rw [htidied] at h
        obtain rfl := Checked.valid.inj h
        obtain ⟨plain, htidied, hplain⟩ := Option.bind_eq_some_iff.1 htidied
        exact ⟨plain, .inr htidied, hplain⟩

/-- A text that is accepted for an integer writes it, or is taken for it because of its padding. -/
theorem integerOfText_cases {s : String} {n : Int} (h : integerOfText s = .valid n) :
    IntegerText s.toList n ∨ LooseIntegerText s.toList n := by
  obtain ⟨plain, rfl | htidied, hplain⟩ := exists_plain_of_integerOfText h
  · obtain ⟨sign, digits, htext, hne, hdigits, hvalue, -⟩ := plainInteger?_cases hplain
    left
    refine ⟨[], sign, digits, digits, [], [], by simpa using htext, by simp, ?_, .inl rfl, ?_⟩
    · exact ⟨[digits], List.cons_ne_nil _ _, by simpa using ⟨hne, hdigits⟩, by simp, by simp⟩
    · rcases hvalue with ⟨hsign, hn⟩ | ⟨hsign, hn⟩
      · exact .inl ⟨.inl hsign, hn⟩
      · exact .inr ⟨hsign, hn⟩
  · exact tidied?_cases htidied hplain

end Coercion

end ProtoEmit
