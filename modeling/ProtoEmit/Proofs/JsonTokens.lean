/-
  The tokens of written values.

  A text that is written for a value without parts is read as that value again: the digits of an integer, the
  fraction and exponent of a decimal, the words, and the characters of a string with their escapes. A word ends only
  where the next token starts, so after one the reader of tokens is still inside it; it is ready for what follows all
  the same.
-/

import Mathlib.Data.List.Basic
import Mathlib.Data.List.Induction
import Mathlib.Data.List.TakeWhile
import Mathlib.Data.Nat.Init
import Mathlib.Order.Defs.PartialOrder
import ProtoEmit.Json.Reader
import ProtoEmit.Json.Writer
import ProtoEmit.Proofs.Split

namespace ProtoEmit

/-! ## Machines -/

/-- A machine that takes items one by one gets from one state to another. -/
def Runs {σ α : Type} (step : σ → α → Option σ) (items : List α) (s s' : σ) : Prop :=
  items.foldlM step s = some s'

section Runs

variable {σ α : Type} {step : σ → α → Option σ} {items more : List α} {a : α} {s s₁ s' : σ}

theorem Runs.nil (s : σ) : Runs step [] s s :=
  rfl

theorem Runs.cons (h : step s a = some s₁) (hrest : Runs step items s₁ s') : Runs step (a :: items) s s' := by
  rw [Runs, List.foldlM_cons, h]
  exact hrest

theorem Runs.append (h : Runs step items s s₁) (hmore : Runs step more s₁ s') : Runs step (items ++ more) s s' := by
  rw [Runs, List.foldlM_append, h]
  exact hmore

theorem Runs.singleton (h : step s a = some s') : Runs step [a] s s' :=
  .cons h (.nil s')

/-- What every step keeps up holds after a run. -/
theorem Runs.invariant {holds : σ → Prop} (h : Runs step items s s')
    (hstep : ∀ a ∈ items, ∀ s s', holds s → step s a = some s' → holds s') (hs : holds s) : holds s' := by
  induction items generalizing s with
  | nil =>
    cases h
    exact hs
  | cons a items ih =>
    obtain ⟨hfirst, hrest⟩ := List.forall_mem_cons.1 hstep
    rw [Runs, List.foldlM_cons] at h
    obtain ⟨s₁, hs₁, hrun⟩ := Option.bind_eq_some_iff.1 h
    exact ih hrun hrest (hfirst s s₁ hs hs₁)

/-- A machine that takes whatever another one takes runs as that one does. -/
theorem Runs.mono {step' : σ → α → Option σ} (h : Runs step items s s')
    (hstep : ∀ s a s', step s a = some s' → step' s a = some s') : Runs step' items s s' := by
  induction items generalizing s with
  | nil => exact h
  | cons a items ih =>
    rw [Runs, List.foldlM_cons] at h
    obtain ⟨s₁, hs₁, hrun⟩ := Option.bind_eq_some_iff.1 h
    exact .cons (hstep s a s₁ hs₁) (ih hrun)

end Runs

/-! ## Digits -/

theorem ofDigits_toDigits (n : Nat) : ofDigits (Nat.toDigits 10 n) = n :=
  Nat.ofDigitChars_ten_toDigits

/-- The digits of a positive number do not start with a zero. -/
theorem head?_toDigits_ne {n : Nat} (h : n ≠ 0) : (Nat.toDigits 10 n).head? ≠ some '0' := by
  induction n using Nat.strong_induction_on with
  | _ n ih =>
    rcases Nat.lt_or_ge n 10 with hsmall | hlarge
    · rw [Nat.toDigits_of_lt_base hsmall]
      have hdigits : ∀ k < 10, k ≠ 0 → [k.digitChar].head? ≠ some '0' := by decide
      exact hdigits n hsmall h
    · rw [Nat.toDigits_of_base_le (by decide) hlarge, List.head?_append_of_ne_nil _ Nat.toDigits_ne_nil]
      exact ih (n / 10) (by omega) (by omega)

theorem isWhole_toDigits (n : Nat) : isWhole (Nat.toDigits 10 n) = true := by
  by_cases hzero : n = 0
  · subst hzero
    rfl
  · have hhead := head?_toDigits_ne hzero
    obtain ⟨c, rest, hdigits⟩ := List.exists_cons_of_ne_nil (@Nat.toDigits_ne_nil n 10)
    rw [hdigits] at hhead ⊢
    unfold isWhole
    split
    · rename_i hnil
      cases hnil
    · rfl
    · rename_i hcons
      obtain ⟨rfl, -⟩ := List.cons.inj hcons
      simpa using hhead

/-- Digits write a number that is no longer than they are. -/
theorem decimalLength_ofDigits_le {ds : List Char} (hne : ds ≠ []) (hdigits : ∀ c ∈ ds, c.isDigit = true) :
    decimalLength (ofDigits ds) ≤ ds.length := by
  rw [decimalLength, Nat.length_toDigits_le_iff (by decide) (List.length_pos_iff.2 hne)]
  -- each further digit multiplies the bound by ten
  induction ds using List.reverseRecOn with
  | nil => exact absurd rfl hne
  | append_singleton ds c ih =>
    have hc : c.toNat - '0'.toNat < 10 := by
      have hdigit := hdigits c (by simp)
      simp only [Char.isDigit, Bool.and_eq_true, decide_eq_true_eq] at hdigit
      have hle : c.toNat ≤ '9'.toNat := hdigit.2
      have hnine : '9'.toNat = 57 := rfl
      have hzero : '0'.toNat = 48 := rfl
      omega
    have hstep : ofDigits (ds ++ [c]) = 10 * ofDigits ds + (c.toNat - '0'.toNat) := by simp [ofDigits]
    have hds : ofDigits ds < 10 ^ ds.length := by
      by_cases hnil : ds = []
      · subst hnil
        decide
      · exact ih hnil fun d hd => hdigits d (List.mem_append_left _ hd)
    rw [hstep, List.length_append, List.length_singleton, Nat.pow_succ]
    omega

namespace Json

/-! ## Words -/

theorem isWordChar_of_isDigit {c : Char} (h : c.isDigit = true) : isWordChar c = true := by
  simp [isWordChar, Char.isAlphanum, h]

theorem unsigned?_toDigits (negative : Bool) {n : Nat} (h : decimalLength n ≤ maxDigits) :
    unsigned? negative (Nat.toDigits 10 n) = some (.integer (if negative then -(n : Int) else n)) := by
  have htake : (Nat.toDigits 10 n).takeWhile Char.isDigit = Nat.toDigits 10 n :=
    List.takeWhile_eq_self_iff.2 fun c hc => Text.isDigit_of_mem_toDigits hc
  have hdrop : (Nat.toDigits 10 n).dropWhile Char.isDigit = [] :=
    List.dropWhile_eq_nil_iff.2 fun c hc => Text.isDigit_of_mem_toDigits hc
  have hshort : decide (maxDigits < (Nat.toDigits 10 n).length) = false := decide_eq_false (Nat.not_lt.2 h)
  unfold unsigned?
  simp only [htake, hdrop, isWhole_toDigits, ofDigits_toDigits, hshort, Bool.not_true, Bool.or_self,
    Bool.false_eq_true, if_false]

/-- A word that starts with a digit writes a number, as does one with a minus before it. -/
theorem ofWord?_of_isDigit {c : Char} (h : c.isDigit = true) (rest : List Char) :
    ofWord? (c :: rest) = unsigned? false (c :: rest) ∧ ofWord? ('-' :: c :: rest) = unsigned? true (c :: rest) := by
  constructor
  · -- none of the other words starts with a digit
    have hword : ∀ w : String, w.toList.head?.all (fun d => !d.isDigit) = true → c :: rest ≠ w.toList := by
      intro w hw heq
      rw [← heq] at hw
      simp [h] at hw
    unfold ofWord?
    rw [if_neg (hword "true" (by decide)), if_neg (hword "false" (by decide)), if_neg (hword "null" (by decide)),
      if_neg (hword "NaN" (by decide)), if_neg (hword "Infinity" (by decide)),
      if_neg (hword "-Infinity" (by decide))]
    split
    · rename_i heq
      obtain ⟨rfl, -⟩ := List.cons.inj heq
      exact absurd h (by decide)
    · rfl
  · -- and none has a digit after its first character
    have hword : ∀ w : String, w.toList.tail.head?.all (fun d => !d.isDigit) = true → '-' :: c :: rest ≠ w.toList := by
      intro w hw heq
      rw [← heq] at hw
      simp [h] at hw
    unfold ofWord?
    rw [if_neg (hword "true" (by decide)), if_neg (hword "false" (by decide)), if_neg (hword "null" (by decide)),
      if_neg (hword "NaN" (by decide)), if_neg (hword "Infinity" (by decide)),
      if_neg (hword "-Infinity" (by decide))]
    rfl

theorem exists_toDigits_eq_cons (n : Nat) : ∃ c rest, Nat.toDigits 10 n = c :: rest ∧ c.isDigit = true := by
  obtain ⟨c, rest, heq⟩ := List.exists_cons_of_ne_nil (@Nat.toDigits_ne_nil n 10)
  have hmem : c ∈ Nat.toDigits 10 n := by
    rw [heq]
    exact List.mem_cons_self
  exact ⟨c, rest, heq, Text.isDigit_of_mem_toDigits hmem⟩

/-- An integer is read from its digits. -/
theorem ofWord?_toString {n : Int} (h : decimalLength n.natAbs ≤ maxDigits) :
    ofWord? (toString n).toList = some (.integer n) := by
  obtain ⟨c, rest, heq, hc⟩ := exists_toDigits_eq_cons n.natAbs
  rw [Text.toList_toString_int]
  split
  · rename_i hsign
    rw [List.singleton_append, heq, (ofWord?_of_isDigit hc rest).2, ← heq, unsigned?_toDigits true h]
    simp only [if_true, Option.some.injEq, integer.injEq]
    omega
  · rename_i hsign
    rw [List.nil_append, heq, (ofWord?_of_isDigit hc rest).1, ← heq, unsigned?_toDigits false h]
    simp only [Bool.false_eq_true, if_false, Option.some.injEq, integer.injEq]
    omega

theorem exponent?_of_digits {ds : List Char} (hne : ds ≠ []) (hdigits : ∀ c ∈ ds, c.isDigit = true) :
    exponent? ('e' :: ds) = some (ofDigits ds : Int) ∧ exponent? ('e' :: '-' :: ds) = some (-(ofDigits ds : Int)) := by
  have hempty : ds.isEmpty = false := by simpa using hne
  have hall : ds.all Char.isDigit = true := List.all_eq_true.2 hdigits
  constructor
  · rw [exponent?]
    · simp [hempty, hall]
    · rintro more rfl
      exact absurd (hdigits '-' List.mem_cons_self) (by decide)
    · rintro more rfl
      exact absurd (hdigits '+' List.mem_cons_self) (by decide)
  · simp [exponent?, hempty, hall]

theorem exponent?_toString (e : Int) : exponent? ('e' :: (toString e).toList) = some e := by
  obtain ⟨hplain, hminus⟩ := exponent?_of_digits (@Nat.toDigits_ne_nil e.natAbs 10) fun c hc =>
    Text.isDigit_of_mem_toDigits hc
  rw [ofDigits_toDigits] at hplain hminus
  rw [Text.toList_toString_int]
  split
  · rw [List.singleton_append, hminus, Option.some.injEq]
    omega
  · rw [List.nil_append, hplain, Option.some.injEq]
    omega

/-- The digits of a written decimal stand behind its point, the exponent behind an `e`. -/
theorem unsigned?_decimal (negative : Bool) (digits : Nat) (e : Int) :
    unsigned? negative ('0' :: '.' :: (Nat.toDigits 10 digits ++ 'e' :: (toString e).toList)) =
      some (.number (.decimal ⟨negative, digits, e - (decimalLength digits : Int)⟩)) := by
  have hfraction : (Nat.toDigits 10 digits ++ 'e' :: (toString e).toList).takeWhile Char.isDigit =
      Nat.toDigits 10 digits := by
    rw [List.takeWhile_append_of_pos fun c hc => Text.isDigit_of_mem_toDigits hc]
    simp
  have hexponent : (Nat.toDigits 10 digits ++ 'e' :: (toString e).toList).dropWhile Char.isDigit =
      'e' :: (toString e).toList := by
    rw [List.dropWhile_append_of_pos fun c hc => Text.isDigit_of_mem_toDigits hc]
    simp
  have hne : (Nat.toDigits 10 digits).isEmpty = false := by simp
  have hvalue : ofDigits (['0'] ++ Nat.toDigits 10 digits) = digits := ofDigits_toDigits digits
  have hwhole : ('0' :: '.' :: (Nat.toDigits 10 digits ++ 'e' :: (toString e).toList)).takeWhile Char.isDigit =
      ['0'] := rfl
  have hrest : ('0' :: '.' :: (Nat.toDigits 10 digits ++ 'e' :: (toString e).toList)).dropWhile Char.isDigit =
      '.' :: (Nat.toDigits 10 digits ++ 'e' :: (toString e).toList) := rfl
  have hstart : (!isWhole ['0'] || decide (maxDigits < ['0'].length)) = false := by decide
  unfold unsigned?
  simp only [hwhole, hrest, hstart, hfraction, hexponent, hne, exponent?_toString, hvalue, Bool.false_eq_true,
    if_false, Option.map_some]
  rfl

/-- A number is read from its text. -/
theorem ofWord?_numberText (x : Number) : ofWord? (numberText x).toList = some (.number x) := by
  cases x with
  | nan => rfl
  | infinity negative => cases negative <;> rfl
  | decimal d =>
    obtain ⟨negative, digits, exponent⟩ := d
    have hdecimal := unsigned?_decimal negative digits (exponent + (decimalLength digits : Int))
    rw [Int.add_sub_cancel] at hdecimal
    have hzero : '0'.isDigit = true := by decide
    cases negative with
    | false =>
      have htext : (numberText (.decimal ⟨false, digits, exponent⟩)).toList = '0' :: '.' ::
          (Nat.toDigits 10 digits ++ 'e' :: (toString (exponent + (decimalLength digits : Int))).toList) := by
        simp [numberText]
      rw [htext, (ofWord?_of_isDigit hzero _).1, hdecimal]
    | true =>
      have htext : (numberText (.decimal ⟨true, digits, exponent⟩)).toList = '-' :: '0' :: '.' ::
          (Nat.toDigits 10 digits ++ 'e' :: (toString (exponent + (decimalLength digits : Int))).toList) := by
        simp [numberText]
      rw [htext, (ofWord?_of_isDigit hzero _).2, hdecimal]

/-! ## Runs of the reader of tokens -/

/-- The tokens, in reverse, are those that a state has read. The last of them may be a word that the next character
    will end. -/
inductive Ready : List Token → Lexing × List Token → Prop where
  | between (tokens : List Token) : Ready tokens (.between, tokens)
  | word {read : List Char} {v : Json} (h : ofWord? read.reverse = some v) (tokens : List Token) :
    Ready (.value v :: tokens) (.word read, tokens)

/-- A character that is part of no word starts a token of its own. -/
theorem Ready.step_eq {tokens : List Token} {s : Lexing × List Token} (h : Ready tokens s) {c : Char}
    (hc : isWordChar c = false) : Lexing.step s c = startToken tokens c := by
  cases h with
  | between => rfl
  | word hword =>
    rw [Lexing.step, hc, hword]
    rfl

theorem Ready.finish_eq {tokens : List Token} {s : Lexing × List Token} (h : Ready tokens s) :
    Lexing.finish s = some tokens.reverse := by
  cases h with
  | between => rfl
  | word hword =>
    rw [Lexing.finish, hword]
    rfl

theorem isBlank_of_isWordChar {c : Char} (h : isWordChar c = true) : isBlank c = false := by
  by_contra hblank
  simp only [isBlank, Bool.not_eq_false, Bool.or_eq_true, beq_iff_eq] at hblank
  rcases hblank with ((rfl | rfl) | rfl) | rfl
  · exact absurd h (by decide)
  · exact absurd h (by decide)
  · exact absurd h (by decide)
  · exact absurd h (by decide)

theorem lexes_wordChars {cs : List Char} (h : ∀ c ∈ cs, isWordChar c = true) (read : List Char)
    (tokens : List Token) : Runs Lexing.step cs (.word read, tokens) (.word (cs.reverse ++ read), tokens) := by
  induction cs generalizing read with
  | nil => exact .nil _
  | cons c cs ih =>
    obtain ⟨hc, hcs⟩ := List.forall_mem_cons.1 h
    have hstep : Lexing.step (.word read, tokens) c = some (.word (c :: read), tokens) := by
      rw [Lexing.step, if_pos hc]
    rw [List.reverse_cons, List.append_assoc]
    exact .cons hstep (ih hcs (c :: read))

/-- A word is read up to its last character, after which it counts as a token. -/
theorem lexes_word {w : List Char} {v : Json} (hw : ∀ c ∈ w, isWordChar c = true) (hne : w ≠ [])
    (hv : ofWord? w = some v) (tokens : List Token) :
    ∃ s, Runs Lexing.step w (.between, tokens) s ∧ Ready (.value v :: tokens) s := by
  obtain ⟨c, rest, rfl⟩ := List.exists_cons_of_ne_nil hne
  obtain ⟨hc, hrest⟩ := List.forall_mem_cons.1 hw
  have hstart : Lexing.step (.between, tokens) c = some (.word [c], tokens) := by
    unfold Lexing.step startToken
    rw [isBlank_of_isWordChar hc, hc]
    rfl
  refine ⟨_, .cons hstart (lexes_wordChars hrest [c] tokens), .word ?_ tokens⟩
  rw [List.reverse_append, List.reverse_reverse]
  exact hv

/-! ## Strings -/

/-- How the reader keeps a character of a written string. -/
def pieceOf (c : Char) : Piece :=
  if c.toNat < 0x20 then .unit c.toNat else .char c

theorem join?_map_pieceOf (cs : List Char) : Piece.join? (cs.map pieceOf) = some cs := by
  induction cs with
  | nil => rfl
  | cons c cs ih =>
    rw [List.map_cons, pieceOf]
    split
    · -- a control character is no half of a pair, so it stands for itself
      rename_i hcontrol
      have hhigh : isHighSurrogate c.toNat = false := by
        simp only [isHighSurrogate, Bool.and_eq_false_imp, decide_eq_true_eq, decide_eq_false_iff_not]
        omega
      have hlow : isLowSurrogate c.toNat = false := by
        simp only [isLowSurrogate, Bool.and_eq_false_imp, decide_eq_true_eq, decide_eq_false_iff_not]
        omega
      unfold Piece.join?
      simp [hhigh, hlow, ih]
    · rw [Piece.join?, ih]
      rfl

/-- The four hexadecimal digits of a control character. -/
theorem hexPadded_control : ∀ n < 0x20,
    (Text.hexPadded 4 n).toList = ['0', '0', (n / 16).digitChar, (n % 16).digitChar] ∧
      hexValue? (n / 16).digitChar = some (n / 16) ∧ hexValue? (n % 16).digitChar = some (n % 16) := by
  decide

theorem lexes_charText (c : Char) (read : List Piece) (tokens : List Token) :
    Runs Lexing.step (charText c).toList (.text read, tokens) (.text (pieceOf c :: read), tokens) := by
  unfold charText
  split
  · rename_i hquote
    subst hquote
    rfl
  · rename_i hquote
    split
    · rename_i hbackslash
      subst hbackslash
      rfl
    · rename_i hbackslash
      split
      · rename_i hcontrol
        obtain ⟨hdigits, hhigh, hlow⟩ := hexPadded_control c.toNat hcontrol
        have hthird : Lexing.step (.hex read 2 0, tokens) (c.toNat / 16).digitChar =
            some (.hex read 1 (c.toNat / 16), tokens) := by
          rw [Lexing.step, hhigh]
          simp
        have hfourth : Lexing.step (.hex read 1 (c.toNat / 16), tokens) (c.toNat % 16).digitChar =
            some (.text (.unit c.toNat :: read), tokens) := by
          rw [Lexing.step, hlow]
          simp only [Option.map_some, le_refl, if_true, Nat.div_add_mod]
        rw [String.toList_append, hdigits, pieceOf, if_pos hcontrol]
        -- the backslash, the letter and two zeros come before the digits that matter
        exact .cons rfl (.cons rfl (.cons rfl (.cons rfl (.cons hthird (.singleton hfourth)))))
      · rename_i hplain
        rw [String.toList_singleton, pieceOf, if_neg hplain]
        refine .singleton ?_
        rw [Lexing.step, if_neg hquote, if_neg hbackslash, if_neg hplain]

theorem lexes_charTexts (cs : List Char) (read : List Piece) (tokens : List Token) :
    Runs Lexing.step (cs.flatMap fun c => (charText c).toList) (.text read, tokens)
      (.text ((cs.map pieceOf).reverse ++ read), tokens) := by
  induction cs generalizing read with
  | nil => exact .nil _
  | cons c cs ih =>
    rw [List.flatMap_cons, List.map_cons, List.reverse_cons, List.append_assoc]
    exact (lexes_charText c read tokens).append (ih (pieceOf c :: read))

/-- A string is read from its text. -/
theorem lexes_stringText (s : String) (tokens : List Token) :
    Runs Lexing.step (stringText s).toList (.between, tokens) (.between, .value (.string s) :: tokens) := by
  have hend : Lexing.step (.text ((s.toList.map pieceOf).reverse ++ []), tokens) '"' =
      some (.between, .value (.string s) :: tokens) := by
    rw [Lexing.step, if_pos rfl, List.append_nil, List.reverse_reverse, join?_map_pieceOf, Option.map_some,
      String.ofList_toList]
  have htext : (stringText s).toList = '"' :: (s.toList.flatMap fun c => (charText c).toList) ++ ['"'] := by
    simp [stringText, List.flatMap_map]
  rw [htext]
  exact (Runs.cons rfl (lexes_charTexts s.toList [] tokens)).append (.singleton hend)

end Json

end ProtoEmit
