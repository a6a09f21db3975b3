/-
  Identifiers, and the words that are made of them.

  An identifier has ASCII letters, digits and underscores only. Lower-casing keeps it one, so what is printed
  for a field's name and type, for packages and for paths is one word of the line.
-/

import ProtoEmit.Proofs.ReadLines
import ProtoEmit.Proofs.TypeLookup

namespace ProtoEmit

/-! ## Characters -/

/-- A character of an identifier. -/
def IsNameChar (c : Char) : Prop :=
  c.isAlphanum = true ∨ c = '_'

instance (c : Char) : Decidable (IsNameChar c) :=
  inferInstanceAs (Decidable (_ ∨ _))

theorem IsNameChar.toNat_lt {c : Char} (h : IsNameChar c) : c.toNat < 128 := by
  rcases h with h | rfl
  · have hcode : (65 ≤ c.toNat ∧ c.toNat ≤ 90 || (97 ≤ c.toNat && c.toNat ≤ 122)
        || (48 ≤ c.toNat && c.toNat ≤ 57)) = true := h
    simp only [Bool.or_eq_true, Bool.and_eq_true, decide_eq_true_eq] at hcode
    omega
  · decide

/-- A character of an identifier has one lower-case form, which is such a character again. -/
theorem IsNameChar.lowerChar {c : Char} (h : IsNameChar c) : Text.lowerChar c = [c.toLower] ∧ IsNameChar c.toLower := by
  have hascii : ∀ n : Fin 128, IsNameChar (Char.ofNat n) →
      Text.lowerChar (Char.ofNat n) = [(Char.ofNat n).toLower] ∧ IsNameChar (Char.ofNat n).toLower := by
    decide +kernel
  -- every character of an identifier is among these
  have hc := hascii ⟨c.toNat, h.toNat_lt⟩
  rw [Char.ofNat_toNat] at hc
  exact hc h

theorem IsNameChar.ne_blank {c : Char} (h : IsNameChar c) : c ≠ ' ' ∧ c ≠ '\t' := by
  constructor <;> rintro rfl <;> exact absurd h (by decide)

/-! ## Identifiers -/

/-- A word of ASCII letters, digits and underscores. -/
def IsIdentifier (s : String) : Prop :=
  s ≠ "" ∧ ∀ c ∈ s.toList, IsNameChar c

-- Looks at the characters of the word, not at all characters there are.
instance (s : String) : Decidable (IsIdentifier s) :=
  @instDecidableAnd _ _ _ (List.decidableBAll IsNameChar s.toList)

namespace IsIdentifier

variable {s : String}

theorem isToken (h : IsIdentifier s) : IsToken s :=
  ⟨h.1, fun hc => (h.2 _ hc).ne_blank.1 rfl, fun hc => (h.2 _ hc).ne_blank.2 rfl⟩

theorem exists_eq_cons (h : IsIdentifier s) : ∃ c cs, s.toList = c :: cs ∧ ∀ d ∈ c :: cs, IsNameChar d := by
  obtain ⟨c, cs, hs⟩ := List.exists_cons_of_ne_nil (mt String.toList_eq_nil_iff.1 h.1)
  exact ⟨c, cs, hs, hs ▸ h.2⟩

theorem lowerFirst (h : IsIdentifier s) : IsIdentifier (Text.lowerFirst s) := by
  obtain ⟨c, cs, hs, hchars⟩ := h.exists_eq_cons
  obtain ⟨hc, hlower⟩ := (hchars c List.mem_cons_self).lowerChar
  have htext : (Text.lowerFirst s).toList = c.toLower :: cs := by
    rw [Text.lowerFirst, hs]
    simp [hc]
  refine ⟨fun hempty => ?_, ?_⟩
  · rw [hempty] at htext
    cases htext
  · rw [htext]
    intro d hd
    rcases List.mem_cons.1 hd with rfl | hd
    · exact hlower
    · exact hchars d (List.mem_cons_of_mem _ hd)

/-- No character of an identifier depends on its neighbours when it is lower-cased. -/
theorem lowerFrom_eq_map (before : List Char) {cs : List Char} (h : ∀ c ∈ cs, IsNameChar c) :
    Text.lowerFrom before cs = cs.map Char.toLower := by
  induction cs generalizing before with
  | nil => rfl
  | cons c cs ih =>
    have hc := h c List.mem_cons_self
    have hsigma : c ≠ Text.capitalSigma := by
      rintro rfl
      exact absurd hc.toNat_lt (by decide)
    rw [Text.lowerFrom, ih _ fun d hd => h d (List.mem_cons_of_mem _ hd), Text.lowerBetween]
    simp [hsigma, hc.lowerChar.1]

theorem lower (h : IsIdentifier s) : IsIdentifier (Text.lower s) := by
  have htext : (Text.lower s).toList = s.toList.map Char.toLower := by
    rw [Text.lower, String.toList_ofList, lowerFrom_eq_map [] h.2]
  refine ⟨fun hempty => h.1 ?_, ?_⟩
  · rw [hempty] at htext
    exact String.toList_eq_nil_iff.1 (List.map_eq_nil_iff.1 htext.symm)
  · rw [htext]
    intro d hd
    obtain ⟨c, hc, rfl⟩ := List.mem_map.1 hd
    exact (h.2 c hc).lowerChar.2

end IsIdentifier

/-! ## Dotted names -/

theorem isToken_joinDots {parts : List String} (hne : parts ≠ []) (h : ∀ p ∈ parts, IsIdentifier p) :
    IsToken (Text.joinDots parts) := by
  unfold Text.joinDots
  induction parts with
  | nil => exact absurd rfl hne
  | cons first rest ih =>
    have hfirst : IsToken first := (h first List.mem_cons_self).isToken
    cases rest with
    | nil => simpa using hfirst
    | cons second rest =>
      rw [String.intercalate_cons_cons]
      exact (hfirst.append (by decide)).append (ih (by simp) fun p hp => h p (List.mem_cons_of_mem _ hp))

/-- A namespace named by identifiers has a package that is one word. -/
theorem isToken_packageName {owner : String} (h : ∀ p ∈ Text.split '.' owner, IsIdentifier p) :
    IsToken (Package.name owner) := by
  have hparts : Package.parts owner = (Text.split '.' owner).map Text.lower := by
    rw [Package.parts, List.filter_eq_self.2]
    intro p hp
    simpa using (h p hp).1
  unfold Package.name
  rw [hparts]
  refine isToken_joinDots (by simpa using Text.split_ne_nil '.' owner) ?_
  intro p hp
  obtain ⟨q, hq, rfl⟩ := List.mem_map.1 hp
  exact (h q hq).lower

/-- A type whose path and namespace are made of identifiers. -/
def FieldType.IsPlain : FieldType → Prop
  | .scalar _ => True
  | .reference r => (∀ p ∈ r.segments, IsIdentifier p) ∧ ∀ p ∈ Text.split '.' r.owner, IsIdentifier p

instance : DecidablePred FieldType.IsPlain
  | .scalar _ => inferInstanceAs (Decidable True)
  | .reference _ => inferInstanceAs (Decidable (_ ∧ _))

/-- From any place, the name of a type is one word. -/
theorem FieldType.IsPlain.isToken_text {t : FieldType} (h : t.IsPlain) (scope : Scope) : IsToken (t.text scope) := by
  cases t with
  | scalar s =>
    show IsToken s.keyword
    cases s <;> decide
  | reference r =>
    obtain ⟨hpath, howner⟩ := h
    have hne : r.segments ≠ [] := Text.split_ne_nil '.' r.path
    show IsToken (r.text scope)
    unfold Reference.text
    by_cases hr : r.owner = scope.owner
    · rw [if_pos hr, relativeTo_eq_drop]
      refine isToken_joinDots ?_ fun p hp => hpath p (List.mem_of_mem_drop hp)
      simpa using sharedDepth_lt scope.path hne
    · rw [if_neg hr]
      have htext : IsToken r.path := by
        rw [← Text.joinDots_split r.path]
        exact isToken_joinDots hne hpath
      have hdot : IsToken "." := by decide
      exact ((hdot.append (isToken_packageName howner)).append hdot).append htext

end ProtoEmit
