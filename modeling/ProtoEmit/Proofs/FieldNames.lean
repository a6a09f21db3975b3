/-
  The names of the fields of a message.

  A field is listed under its name with a lower-case first letter, and its name shares the scope of the message
  with those of the other fields and with `message`, the name of the group. Lower-casing a first letter keeps names
  apart unless they agree in everything but the case of that letter. The capital I with a dot is the one letter
  with two characters for its lower-case form, so a name that starts with it agrees with a name that starts with
  these two.
-/

import Mathlib
import ProtoEmit.Proofs.MessageLayout
import ProtoEmit.Proofs.PackageNames

namespace ProtoEmit

/-! ## First letters -/

namespace Text

/-- Two texts that go on in the same way after first letters with one lower-case form, or after the capital I with
    a dot and an I with a combining dot. -/
def AgreeUpToCase (s t : String) : Prop :=
  (∃ c d rest, s.toList = c :: rest ∧ t.toList = d :: rest ∧ lowerChar c = lowerChar d) ∨
    ∃ c rest, (c = 'i' ∨ c = 'I') ∧ s.toList = capitalDottedI :: rest ∧ t.toList = c :: combiningDot :: rest

/-- No run of the case table leads to `i` or `m` from another letter than their capitals. -/
theorem lowerRuns_to_i_or_m : ∀ n, n = 105 ∨ n = 109 → ∀ r ∈ lowerRuns, r.target ≤ n →
    n ≤ r.target + (r.last - r.first) → r.first + (n - r.target) = n - 32 := by
  rintro n (rfl | rfl)
  · decide +kernel
  · decide +kernel

theorem lowerChar_eq_singleton_iff {x : Char} (hx : x = 'i' ∨ x = 'm') (c : Char) :
    lowerChar c = [x] ↔ c = x ∨ c = x.toUpper := by
  have hn : x.toNat = 105 ∨ x.toNat = 109 := by
    rcases hx with rfl | rfl
    · exact .inl rfl
    · exact .inr rfl
  have hupper : x.toUpper.toNat = x.toNat - 32 := by
    rcases hx with rfl | rfl <;> rfl
  constructor
  · intro h
    unfold lowerChar at h
    split at h
    · simp at h
    · split at h
      · rename_i r hfind
        have hcovers := List.find?_some hfind
        simp only [CaseRun.covers, Bool.and_eq_true, decide_eq_true_eq] at hcovers
        obtain ⟨⟨hfirst, hlast⟩, -⟩ := hcovers
        have himage := toNat_image r c
        rw [List.singleton_inj.1 h] at himage
        have hrun := lowerRuns_to_i_or_m x.toNat hn r (List.mem_of_find?_eq_some hfind)
        refine .inr (Char.toNat_inj.1 ?_)
        omega
      · exact .inl (List.singleton_inj.1 h)
  · rintro (rfl | rfl)
    · rcases hx with rfl | rfl <;> decide +kernel
    · rcases hx with rfl | rfl <;> decide +kernel

theorem lowerChar_capitalDottedI : lowerChar capitalDottedI = ['i', combiningDot] :=
  if_pos rfl

theorem exists_lowerChar_eq_singleton {c : Char} (h : c ≠ capitalDottedI) : ∃ x, lowerChar c = [x] := by
  unfold lowerChar
  rw [if_neg h]
  split
  · exact ⟨_, rfl⟩
  · exact ⟨_, rfl⟩

theorem toList_lowerFirst_of_cons {s : String} {c : Char} {rest : List Char} (h : s.toList = c :: rest) :
    (lowerFirst s).toList = lowerChar c ++ rest := by
  rw [lowerFirst, h]
  simp

theorem lowerFirst_eq_empty_iff (s : String) : lowerFirst s = "" ↔ s = "" := by
  rw [← String.toList_eq_nil_iff, ← String.toList_eq_nil_iff]
  cases hs : s.toList with
  | nil => simp [lowerFirst, hs]
  | cons c rest => simp [toList_lowerFirst_of_cons hs, lowerChar_ne_nil c]

theorem AgreeUpToCase.lowerFirst_eq {s t : String} (h : AgreeUpToCase s t) : lowerFirst s = lowerFirst t := by
  apply String.toList_inj.1
  rcases h with ⟨c, d, rest, hs, ht, hletter⟩ | ⟨c, rest, hc, hs, ht⟩
  · rw [toList_lowerFirst_of_cons hs, toList_lowerFirst_of_cons ht, hletter]
  · have hlower : lowerChar c = ['i'] := (lowerChar_eq_singleton_iff (.inl rfl) c).2 hc
    rw [toList_lowerFirst_of_cons hs, toList_lowerFirst_of_cons ht, lowerChar_capitalDottedI, hlower]
    rfl

/-- If what is lower-cased to two characters meets what is lower-cased to one, the latter is an I with a dot. -/
theorem agreeUpToCase_of_dotted {s t : String} {d : Char} {rest rest' : List Char}
    (hs : s.toList = capitalDottedI :: rest) (ht : t.toList = d :: rest') (hd : d ≠ capitalDottedI)
    (h : lowerFirst s = lowerFirst t) : AgreeUpToCase s t := by
  obtain ⟨x, hx⟩ := exists_lowerChar_eq_singleton hd
  have hchars := congrArg String.toList h
  rw [toList_lowerFirst_of_cons hs, toList_lowerFirst_of_cons ht, lowerChar_capitalDottedI, hx] at hchars
  simp only [List.cons_append, List.nil_append, List.cons.injEq] at hchars
  obtain ⟨rfl, rfl⟩ := hchars
  exact .inr ⟨d, rest, (lowerChar_eq_singleton_iff (.inl rfl) d).1 hx, hs, ht⟩

/-- Texts that are equal after lower-casing their first letters agree up to the case of these letters. -/
theorem agreeUpToCase_of_cons {s t : String} {c d : Char} {rest rest' : List Char} (hs : s.toList = c :: rest)
    (ht : t.toList = d :: rest') (h : lowerFirst s = lowerFirst t) : AgreeUpToCase s t ∨ AgreeUpToCase t s := by
  have hchars := congrArg String.toList h
  rw [toList_lowerFirst_of_cons hs, toList_lowerFirst_of_cons ht] at hchars
  by_cases hc : c = capitalDottedI
  · subst hc
    by_cases hd : d = capitalDottedI
    · subst hd
      obtain rfl := List.append_cancel_left hchars
      exact .inl (.inl ⟨_, _, rest, hs, ht, rfl⟩)
    · exact .inl (agreeUpToCase_of_dotted hs ht hd h)
  · by_cases hd : d = capitalDottedI
    · subst hd
      exact .inr (agreeUpToCase_of_dotted ht hs hc h.symm)
    · -- each letter has one lower-case character, so the rests are equal too
      obtain ⟨x, hx⟩ := exists_lowerChar_eq_singleton hc
      obtain ⟨y, hy⟩ := exists_lowerChar_eq_singleton hd
      rw [hx, hy] at hchars
      obtain ⟨rfl, rfl⟩ := List.cons.inj hchars
      exact .inl (.inl ⟨c, d, rest, hs, ht, hx.trans hy.symm⟩)

/-- Lower-casing the first letter makes two texts equal exactly if they agree up to its case. -/
theorem lowerFirst_eq_iff (s t : String) :
    lowerFirst s = lowerFirst t ↔ s = t ∨ AgreeUpToCase s t ∨ AgreeUpToCase t s := by
  constructor
  · intro h
    cases hs : s.toList with
    | nil =>
      rw [String.toList_eq_nil_iff] at hs
      rw [hs, (lowerFirst_eq_empty_iff "").2 rfl, eq_comm, lowerFirst_eq_empty_iff] at h
      exact .inl (hs.trans h.symm)
    | cons c rest =>
      cases ht : t.toList with
      | nil =>
        rw [String.toList_eq_nil_iff] at ht
        rw [ht, (lowerFirst_eq_empty_iff "").2 rfl, lowerFirst_eq_empty_iff] at h
        exact .inl (h.trans ht.symm)
      | cons d rest' => exact .inr (agreeUpToCase_of_cons hs ht h)
  · rintro (rfl | h | h)
    · rfl
    · exact h.lowerFirst_eq
    · exact h.lowerFirst_eq.symm

/-- The name of the group is the listed name of two names only. -/
theorem lowerFirst_eq_message_iff (s : String) : lowerFirst s = "message" ↔ s = "message" ∨ s = "Message" := by
  constructor
  · intro h
    have hchars := congrArg String.toList h
    cases hs : s.toList with
    | nil =>
      rw [String.toList_eq_nil_iff] at hs
      subst hs
      exact absurd h (by decide)
    | cons c rest =>
      rw [toList_lowerFirst_of_cons hs] at hchars
      by_cases hc : c = capitalDottedI
      · rw [hc, lowerChar_capitalDottedI] at hchars
        simp at hchars
      · obtain ⟨x, hx⟩ := exists_lowerChar_eq_singleton hc
        rw [hx] at hchars
        obtain ⟨rfl, hrest⟩ : x = 'm' ∧ rest = "essage".toList := by simpa using hchars
        rcases (lowerChar_eq_singleton_iff (.inr rfl) c).1 hx with rfl | rfl
        · exact .inl (String.toList_inj.1 (by rw [hs, hrest]; rfl))
        · exact .inr (String.toList_inj.1 (by rw [hs, hrest]; rfl))
  · rintro (rfl | rfl)
    · decide +kernel
    · decide +kernel

end Text

/-! ## The fields of a message -/

namespace Message

/-- The listed names are those of the fields with lower-case first letters. -/
theorem names_fieldLines_perm (m : Message) (scope : Scope) :
    ((m.outline scope).fieldLines.map (·.name)).Perm (m.fields.map fun f => Text.lowerFirst f.name) := by
  have hlines := (fieldLines_outline_perm scope m).map (·.name)
  have hnames : (m.grouping.group.map (Field.line (scope.enter m.name) true)
        ++ m.grouping.flat.map (Field.line (scope.enter m.name) false)).map (·.name) =
      (m.grouping.group ++ m.grouping.flat).map fun f => Text.lowerFirst f.name := by
    rw [List.map_append, List.map_append, List.map_map, List.map_map]
    rfl
  rw [hnames] at hlines
  exact hlines.trans (m.grouping_perm.map _)

theorem nodup_names_fieldLines_iff {m : Message} (hnames : (m.fields.map (·.name)).Nodup) (scope : Scope) :
    ((m.outline scope).fieldLines.map (·.name)).Nodup ↔
      ∀ f ∈ m.fields, ∀ g ∈ m.fields, f.name ≠ g.name → ¬ Text.AgreeUpToCase f.name g.name := by
  have hinj := List.nodup_map_iff_inj_on (f := Text.lowerFirst) hnames
  rw [List.map_map] at hinj
  refine (m.names_fieldLines_perm scope).nodup_iff.trans (hinj.trans ?_)
  simp only [List.forall_mem_map, Text.lowerFirst_eq_iff]
  constructor
  · intro h f hf g hg hne hagree
    exact hne (h f hf g hg (.inr (.inl hagree)))
  · intro h f hf g hg heq
    by_contra hne
    rcases heq with heq | hagree | hagree
    · exact hne heq
    · exact h f hf g hg hne hagree
    · exact h g hg f hf (Ne.symm hne) hagree

theorem forall_fieldLines_ne_message_iff (m : Message) (scope : Scope) :
    (∀ l ∈ (m.outline scope).fieldLines, l.name ≠ "message") ↔
      ∀ f ∈ m.fields, f.name ≠ "message" ∧ f.name ≠ "Message" := by
  have hnames := (m.names_fieldLines_perm scope).mem_iff (a := "message")
  simp only [List.mem_map, Text.lowerFirst_eq_message_iff] at hnames
  have hnone := not_congr hnames
  simpa using hnone

/-- Distinct names of fields are listed as distinct names exactly if no two of them agree up to the case of the
    first letter, be the fields alternatives or not. None of them is listed as `message`, the name of the group,
    exactly if none is named `message` or `Message`. -/
theorem field_names_distinct_iff (m : Message) (scope : Scope) (references : Bool) (indent : String)
    (hnames : (m.fields.map (·.name)).Nodup) :
    ∃ (nested : List Block) (before group after : List FieldLine),
      m.outline scope = .message m.origin m.name nested before group after ∧
      (m.outline scope).lines references indent =
        originLines references indent m.origin
          ++ [indent ++ "message " ++ m.name ++ " \x7b"]
          ++ Block.linesAll references (indent ++ "\t") nested
          ++ before.map (FieldLine.text (indent ++ "\t"))
          ++ (if group = [] then [] else
              [indent ++ "\t" ++ "oneof message \x7b"]
                ++ group.map (FieldLine.text (indent ++ "\t" ++ "\t"))
                ++ [indent ++ "\t" ++ "\x7d"])
          ++ after.map (FieldLine.text (indent ++ "\t"))
          ++ [indent ++ "\x7d", ""] ∧
      (((before ++ group ++ after).map (·.name)).Nodup ↔
        ∀ f ∈ m.fields, ∀ g ∈ m.fields, f.name ≠ g.name → ¬ Text.AgreeUpToCase f.name g.name) ∧
      ((∀ l ∈ before ++ group ++ after, l.name ≠ "message") ↔
        ∀ f ∈ m.fields, f.name ≠ "message" ∧ f.name ≠ "Message") := by
  have hdistinct := nodup_names_fieldLines_iff hnames scope
  have hgroup := m.forall_fieldLines_ne_message_iff scope
  have houtline := m.outline_eq scope
  rw [houtline] at hdistinct hgroup
  refine ⟨_, _, _, _, houtline, ?_, hdistinct, hgroup⟩
  rw [houtline, Block.lines, groupLines]
  simp only [List.isEmpty_iff]
  rfl

end Message

/-- A message with names that differ in more than the case of a first letter, one of them an alternative. -/
def dottedLabel : Message :=
  ⟨"Label", "", [⟨"Text", .scalar .string, { tag := 2 }⟩, ⟨"TEXT", .scalar .string, { tag := 1 }⟩,
      ⟨"İd", .scalar .int32, { tag := 3 }⟩, ⟨"Id", .scalar .int32, { tag := 4 }⟩],
    [.enumeration ⟨"MessageOneofCase", "", [⟨"Text", 2⟩], true⟩], false⟩

theorem dottedLabel_field_names_distinct :
    (dottedLabel.fields.map (·.name)).Nodup ∧
      ∃ (nested : List Block) (before group after : List FieldLine),
        dottedLabel.outline ⟨"Shop", []⟩ = .message "" "Label" nested before group after ∧
          ((before ++ group ++ after).map (·.name)).Nodup ∧
          ∀ l ∈ before ++ group ++ after, l.name ≠ "message" := by
  have hnames : (dottedLabel.fields.map (·.name)).Nodup := by decide
  have hlower : ∀ f ∈ dottedLabel.fields, ∀ g ∈ dottedLabel.fields, f.name ≠ g.name →
      Text.lowerFirst f.name ≠ Text.lowerFirst g.name := by
    decide +kernel
  have hmessage : ∀ f ∈ dottedLabel.fields, f.name ≠ "message" ∧ f.name ≠ "Message" := by decide
  obtain ⟨nested, before, group, after, houtline, -, hdistinct, hgroup⟩ :=
    Message.field_names_distinct_iff dottedLabel ⟨"Shop", []⟩ false "" hnames
  refine ⟨hnames, nested, before, group, after, houtline, ?_, hgroup.2 hmessage⟩
  exact hdistinct.2 fun f hf g hg hne hagree => hlower f hf g hg hne hagree.lowerFirst_eq

/-- A message with two names that differ in the case of the first letter only, and with a field named as the
    group is. -/
def twoTexts : Message :=
  ⟨"Choice", "", [⟨"Text", .scalar .int32, { tag := 1 }⟩, ⟨"text", .scalar .int32, { tag := 2 }⟩,
      ⟨"Message", .scalar .int32, { tag := 3 }⟩],
    [.enumeration ⟨"MessageOneofCase", "", [⟨"Text", 1⟩], true⟩], false⟩

/-- Distinct names are listed as one name, and another one as the name of the group. -/
theorem twoTexts_field_names_meet :
    (twoTexts.fields.map (·.name)).Nodup ∧
      (twoTexts.outline ⟨"Shop", []⟩).lines false "" =
        ["message Choice \x7b", "\toneof message \x7b", "\t\tint32 text = 1;", "\t\x7d", "\tint32 text = 2;",
          "\tint32 message = 3;", "\x7d", ""] ∧
      ¬ ((twoTexts.outline ⟨"Shop", []⟩).fieldLines.map (·.name)).Nodup ∧
      ¬ ∀ l ∈ (twoTexts.outline ⟨"Shop", []⟩).fieldLines, l.name ≠ "message" := by
  refine ⟨by decide, by cbv, ?_, ?_⟩
  · rw [(twoTexts.names_fieldLines_perm _).nodup_iff]
    decide +kernel
  · rw [twoTexts.forall_fieldLines_ne_message_iff]
    decide

end ProtoEmit
