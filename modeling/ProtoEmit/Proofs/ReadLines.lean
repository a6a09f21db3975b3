/-
  Reading single lines.

  The text is made of tokens, words without blanks: names, type names, numbers and the fixed words of the
  language. A line of tokens is cut into them again, and each kind of line is taken for the statement that it
  stands for; a number ends where its semicolon stands.
-/

import ProtoEmit.Proofs.Reader
import ProtoEmit.Proofs.Split

namespace ProtoEmit

/-! ## Tokens -/

/-- A word that is not empty and holds neither a blank nor a tab. -/
def IsToken (s : String) : Prop :=
  s ≠ "" ∧ ' ' ∉ s.toList ∧ '\t' ∉ s.toList

instance (s : String) : Decidable (IsToken s) :=
  inferInstanceAs (Decidable (s ≠ "" ∧ ' ' ∉ s.toList ∧ '\t' ∉ s.toList))

theorem IsToken.append {s t : String} (hs : IsToken s) (ht : IsToken t) : IsToken (s ++ t) := by
  obtain ⟨hne, hblank, htab⟩ := hs
  obtain ⟨-, hblank', htab'⟩ := ht
  refine ⟨?_, ?_, ?_⟩
  · intro h
    exact hne (String.append_eq_empty_iff.1 h).1
  · simp [hblank, hblank']
  · simp [htab, htab']

/-! ## Numbers -/

/-- A number is read from its digits. -/
theorem number?_toString (n : Int) : number? (toString n) = some n := by
  obtain ⟨c, rest, hdigits⟩ := List.exists_cons_of_ne_nil (@Nat.toDigits_ne_nil n.natAbs 10)
  have hall : (Nat.toDigits 10 n.natAbs).all Char.isDigit = true :=
    List.all_eq_true.2 fun c hc => Text.isDigit_of_mem_toDigits hc
  have hvalue : ofDigits (Nat.toDigits 10 n.natAbs) = n.natAbs := Nat.ofDigitChars_ten_toDigits
  rw [hdigits] at hall hvalue
  rw [number?, Text.toList_toString_int, hdigits]
  by_cases hn : n < 0
  · have hminus : -(ofDigits (c :: rest) : Int) = n := by omega
    simp [hn, hall, hminus]
  · have hplain : (ofDigits (c :: rest) : Int) = n := by omega
    have hc : c ≠ '-' := by
      rintro rfl
      simp at hall
    simp [hn, hc, hall, hplain]

theorem isToken_toString_int (n : Int) : IsToken (toString n) := by
  refine ⟨?_, Text.not_mem_toList_toString_int n (by decide) (by decide),
    Text.not_mem_toList_toString_int n (by decide) (by decide)⟩
  intro h
  have hread := number?_toString n
  rw [h] at hread
  cases hread

/-! ## Cutting a line into words -/

/-- An indentation of tabs. -/
def IsTabs (indent : String) : Prop :=
  ∀ c ∈ indent.toList, c = '\t'

theorem IsTabs.append_step {indent : String} (h : IsTabs indent) : IsTabs (indent ++ indentStep) := by
  intro c hc
  rw [String.toList_append, List.mem_append] at hc
  rcases hc with hc | hc
  · exact h c hc
  · simpa [indentStep] using hc

/-- A line of tokens is cut into these tokens. -/
theorem words_intercalate {indent : String} (hindent : IsTabs indent) {ws : List String} (hne : ws ≠ [])
    (hws : ∀ w ∈ ws, IsToken w) : words (indent ++ " ".intercalate ws) = ws := by
  have hdrop : (indent ++ " ".intercalate ws).toList.dropWhile (· == '\t') = (" ".intercalate ws).toList := by
    rw [String.toList_append, List.dropWhile_append_of_pos fun c hc => by simpa using hindent c hc]
    obtain ⟨first, rest, rfl⟩ := List.exists_cons_of_ne_nil hne
    obtain ⟨hfirst, -, htab⟩ := hws first List.mem_cons_self
    obtain ⟨more, hmore⟩ := Text.exists_toList_intercalate_cons " " first rest
    have hchars : first.toList ≠ [] := by
      rw [Ne, String.toList_eq_nil_iff]
      exact hfirst
    obtain ⟨x, xs, hx⟩ := List.exists_cons_of_ne_nil hchars
    have hxtab : x ≠ '\t' := by
      rintro rfl
      exact htab (by simp [hx])
    rw [hmore, hx, List.cons_append, List.dropWhile_cons_of_neg (by simpa using hxtab)]
  rw [words, hdrop, String.ofList_toList]
  exact Text.split_intercalate hne fun w hw => (hws w hw).2.1

/-! ## Statements -/

theorem numberBefore?_toString (n : Int) : numberBefore? (toString n ++ ";") = some n := by
  have hsplit : Text.split ';' (toString n ++ ";") = [toString n, ""] := by
    have htext : toString n ++ ";" = toString n ++ String.singleton ';' ++ "" := by
      rw [String.append_empty]
      rfl
    rw [htext, Text.split_append (Text.not_mem_toList_toString_int n (by decide) (by decide))]
    rfl
  rw [numberBefore?, hsplit]
  exact number?_toString n

theorem toString_append_ne (n : Int) {s : String} (h : numberBefore? s = none) : toString n ++ ";" ≠ s := by
  rintro rfl
  rw [numberBefore?_toString] at h
  cases h

/-- The tokens on the line of a field. -/
def FieldLine.tokens (f : FieldLine) : List String :=
  (if f.repeated then ["repeated"] else []) ++ [f.type, f.name, "="]
    ++ (if f.unpacked then [toString f.tag, "[packed=false];"] else [toString f.tag ++ ";"])

theorem FieldLine.text_eq_intercalate (indent : String) (f : FieldLine) :
    f.text indent = indent ++ " ".intercalate f.tokens := by
  obtain ⟨repeated, type, name, tag, unpacked⟩ := f
  apply String.toList_inj.1
  cases repeated <;> cases unpacked <;> simp [FieldLine.text, FieldLine.tokens]

/-- The line of a field says what the field is; only a repeated field can be marked as not packed. -/
theorem statement?_tokens {f : FieldLine} (h : f.unpacked = true → f.repeated = true) :
    statement? f.tokens = some (.field f.repeated f.type f.name f.tag) := by
  obtain ⟨repeated, type, name, tag, unpacked⟩ := f
  have htrue : toString tag ++ ";" ≠ "true;" := toString_append_ne tag (by rfl)
  have hend : numberBefore? (toString tag ++ ";") = some tag := numberBefore?_toString tag
  have hbare : number? (toString tag) = some tag := number?_toString tag
  unfold FieldLine.tokens
  -- from here on only what the two spellings of the tag are read as matters
  generalize toString tag ++ ";" = closed at htrue hend
  generalize toString tag = bare at hbare
  cases repeated with
  | false =>
    cases unpacked with
    | false => simp [statement?, htrue, hend]
    | true => cases h rfl
  | true =>
    cases unpacked with
    | false => simp [statement?, hend]
    | true => simp [statement?, hbare]

theorem statement?_value (full : String) (n : Int) :
    statement? [full, "=", toString n ++ ";"] = some (.value full n) := by
  have hbrace : toString n ++ ";" ≠ "\x7b" := toString_append_ne n (by rfl)
  have hend : numberBefore? (toString n ++ ";") = some n := numberBefore?_toString n
  generalize toString n ++ ";" = closed at hbrace hend
  simp [statement?, hbrace, hend]

/-! ## Lines -/

section Lines

variable {indent : String} (hindent : IsTabs indent)

include hindent

theorem readLine_tokens {ws : List String} (hne : ws ≠ []) (hws : ∀ w ∈ ws, IsToken w) {s : Statement}
    (hs : statement? ws = some s) (frames : List Frame) :
    readLine frames (indent ++ " ".intercalate ws) = s.run frames := by
  rw [readLine, words_intercalate hindent hne hws, hs]
  rfl

/-- The first line of a named block. -/
theorem readLine_open {keyword name : String} (hkeyword : IsToken keyword) (hname : IsToken name) {s : Statement}
    (hs : statement? [keyword, name, "\x7b"] = some s) (frames : List Frame) :
    readLine frames (indent ++ (keyword ++ " ") ++ name ++ " \x7b") = s.run frames := by
  have htext : indent ++ (keyword ++ " ") ++ name ++ " \x7b" = indent ++ " ".intercalate [keyword, name, "\x7b"] := by
    apply String.toList_inj.1
    simp
  have htokens : ∀ w ∈ [keyword, name, "\x7b"], IsToken w := by
    simp only [List.mem_cons, List.not_mem_nil, or_false]
    rintro w (rfl | rfl | rfl)
    · exact hkeyword
    · exact hname
    · decide
  rw [htext]
  exact readLine_tokens hindent (by simp) htokens hs frames

theorem readLine_openEnumeration {name : String} (hname : IsToken name) (frames : List Frame) :
    readLine frames (indent ++ "enum " ++ name ++ " \x7b") = some (.enumeration name [] :: frames) := by
  have hs : statement? ["enum", name, "\x7b"] = some (.openEnumeration name) := by simp [statement?]
  exact readLine_open hindent (by decide) hname hs frames

theorem readLine_openMessage {name : String} (hname : IsToken name) (frames : List Frame) :
    readLine frames (indent ++ "message " ++ name ++ " \x7b") = some (.message name [] [] false :: frames) := by
  have hs : statement? ["message", name, "\x7b"] = some (.openMessage name) := by simp [statement?]
  exact readLine_open hindent (by decide) hname hs frames

theorem readLine_openGroup (frames : List Frame) :
    readLine frames (indent ++ "oneof message \x7b") = Statement.openGroup.run frames :=
  @readLine_tokens indent hindent ["oneof", "message", "\x7b"] (by decide) (by decide) _ (by decide) frames

theorem readLine_close (frames : List Frame) : readLine frames (indent ++ "\x7d") = Statement.close.run frames :=
  @readLine_tokens indent hindent ["\x7d"] (by decide) (by decide) _ (by decide) frames

theorem readLine_allowAlias (frames : List Frame) :
    readLine frames (indent ++ "option allow_alias = true;") = Statement.allowAlias.run frames :=
  @readLine_tokens indent hindent ["option", "allow_alias", "=", "true;"] (by decide) (by decide) _ (by decide) frames

theorem readLine_valueLine {e : EnumBlock} {v : EnumValue} (hname : IsToken e.name) (hv : IsToken v.name)
    (values : List EnumValue) (outer : List Frame) :
    readLine (.enumeration e.name values :: outer) (e.valueLine indent v) =
      some (.enumeration e.name (values ++ [v]) :: outer) := by
  have htext : e.valueLine indent v =
      indent ++ " ".intercalate [e.name ++ "_" ++ v.name, "=", toString v.number ++ ";"] := by
    apply String.toList_inj.1
    simp [EnumBlock.valueLine]
  have htokens : ∀ w ∈ [e.name ++ "_" ++ v.name, "=", toString v.number ++ ";"], IsToken w := by
    simp only [List.mem_cons, List.not_mem_nil, or_false]
    rintro w (rfl | rfl | rfl)
    · exact (hname.append (by decide)).append hv
    · decide
    · exact (isToken_toString_int v.number).append (by decide)
  have hvalue : valueName? e.name (e.name ++ "_" ++ v.name) = some v.name := by
    have hdrop : (e.name ++ "_" ++ v.name).toList.dropPrefix? (e.name ++ "_").toList = some v.name.toList := by
      rw [List.dropPrefix?_eq_some_iff]
      exact ⟨(e.name ++ "_").toList, String.toList_append, beq_self_eq_true _⟩
    rw [valueName?, hdrop, Option.map_some, String.ofList_toList]
  rw [htext, readLine_tokens hindent (by simp) htokens (statement?_value _ _)]
  simp only [Statement.run, hvalue, Option.map_some]

/-- A field line whose names are tokens, and which is marked as not packed only if it is repeated. -/
def FieldLine.IsPlain (f : FieldLine) : Prop :=
  IsToken f.type ∧ IsToken f.name ∧ (f.unpacked = true → f.repeated = true)

theorem readLine_text {f : FieldLine} (hf : f.IsPlain) (name : String) (nested : List Shape) (fields : List FieldShape)
    (inGroup : Bool) (outer : List Frame) :
    readLine (.message name nested fields inGroup :: outer) (f.text indent) =
      some (.message name nested (fields ++ [⟨f.repeated, f.type, f.name, f.tag, inGroup⟩]) inGroup :: outer) := by
  obtain ⟨htype, hname, hunpacked⟩ := hf
  have htokens : ∀ w ∈ f.tokens, IsToken w := by
    intro w hw
    simp only [FieldLine.tokens, List.mem_append, List.mem_cons, List.not_mem_nil, or_false] at hw
    rcases hw with (hw | rfl | rfl | rfl) | hw
    · split at hw
      · rw [List.mem_singleton.1 hw]
        decide
      · cases hw
    · exact htype
    · exact hname
    · decide
    · split at hw
      · simp only [List.mem_cons, List.not_mem_nil, or_false] at hw
        rcases hw with rfl | rfl
        · exact isToken_toString_int f.tag
        · decide
      · rw [List.mem_singleton.1 hw]
        exact (isToken_toString_int f.tag).append (by decide)
  have hne : f.tokens ≠ [] := by simp [FieldLine.tokens]
  rw [FieldLine.text_eq_intercalate, readLine_tokens hindent hne htokens (statement?_tokens hunpacked)]
  rfl

end Lines

theorem readLine_blank (frames : List Frame) : readLine frames "" = some frames :=
  rfl

end ProtoEmit
