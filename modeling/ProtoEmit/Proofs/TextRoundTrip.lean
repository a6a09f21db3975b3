/-
  Programs and the texts of their documents.

  A program is read back from the text of its document if the document keeps to the limits of the reader. The
  document of a program that was accepted does: it nests no deeper than the one that was accepted, since every object
  but the outermost must have had a member, and an integer is accepted in no form with too many digits. So whatever
  was accepted once is accepted again, while a program that nests too deep is refused in its own text.
-/

import ProtoEmit.Proofs.JsonText
import ProtoEmit.Proofs.KeptDocument
import ProtoEmit.Proofs.RoundTrip
import ProtoEmit.Schema.Load

namespace ProtoEmit

/-! ## Integers that are accepted -/

/-- No text is accepted for an integer with too many digits. -/
theorem Coercion.decimalLength_of_integerOfText {s : String} {n : Int} (h : integerOfText s = .valid n) :
    decimalLength n.natAbs ≤ maxDigits := by
  obtain ⟨plain, -, hplain⟩ := exists_plain_of_integerOfText h
  obtain ⟨sign, digits, -, hne, hdigits, hvalue, hlength⟩ := plainInteger?_cases hplain
  have habs : n.natAbs = ofDigits digits := by
    rcases hvalue with ⟨-, rfl⟩ | ⟨-, rfl⟩ <;> simp
  rw [habs]
  exact (decimalLength_ofDigits_le hne hdigits).trans hlength

/-- An integer that is kept has no more digits than there may be. -/
theorem IntegerForm.decimalLength_le {R : String → Int → Prop} (hR : ∀ s n, R s n → decimalLength n.natAbs ≤ maxDigits)
    {j : Json} {n : Int} (h : IntegerForm R j n) {room : Nat} (hj : j.fits room = true) :
    decimalLength n.natAbs ≤ maxDigits := by
  cases h with
  | integer => simpa [Json.fits] using hj
  | bool b => cases b <;> decide
  | number h hsize =>
    -- a number is taken for an integer only if that has few digits
    have hlarge : (2 : Nat) ^ 63 ≤ 10 ^ maxDigits := by
      calc (2 : Nat) ^ 63 ≤ 10 ^ 63 := Nat.pow_le_pow_left (by decide) 63
        _ ≤ 10 ^ maxDigits := Nat.pow_le_pow_right (by decide) (by decide)
    rw [decimalLength, Nat.length_toDigits_le_iff (by decide) (by decide)]
    exact hsize.trans_le hlarge
  | text h => exact hR _ _ h

/-! ## Documents of accepted programs -/

/-- What stands in for a member has no parts of its own. -/
theorem Record.fits_fallback (r : Record) (room : Nat) :
    ∀ rule ∈ r.rules, ∀ k, rule.fallback = some k → k.fits room = true := by
  have hall : (r.rules.all fun rule => rule.fallback.all (·.fits room)) = true := by
    cases r <;> rfl
  intro rule hrule k hk
  have hrule := List.all_eq_true.1 hall rule hrule
  rwa [hk] at hrule

/-- Every object but the outermost must have some member. -/
theorem Record.exists_required {r : Record} (h : r ≠ .program) : ∃ rule ∈ r.rules, rule.fallback = none := by
  cases r <;> simp_all [Record.rules]

/-- Whether no program may stand at a place or below it. -/
def Part.isInner : Part → Bool
  | .record r | .nullable r => r != .program
  | .list item => item.isInner
  | .text | .integer | .truth | .tagged => true

theorem Record.isInner_part (r : Record) : ∀ rule ∈ r.rules, rule.part.isInner = true := by
  have hall : (r.rules.all (·.part.isInner)) = true := by
    cases r <;> rfl
  exact List.all_eq_true.1 hall

section Fits

variable {r : Record} {ms ns : Decoder.Members} {room : Nat}

/-- What an object held kept to the limits one container further in. -/
theorem Json.fits_of_lookup {key : String} {j : Json} (h : (Json.object ms).fits room = true)
    (hj : Json.lookup key ms = some j) : 0 < room ∧ j.fits (room - 1) = true := by
  have hmember := Json.mem_of_lookup hj
  rcases Json.fits_object_iff.1 h with rfl | ⟨hroom, hfits⟩
  · cases hmember
  · exact ⟨hroom, hfits _ hmember⟩

/-- Where there is room for members at all, an object that is written out keeps to the limits if what was there
    still does. -/
theorem Record.fits_of_written (hwritten : ns.map (·.1) = r.rules.map (·.key))
    (hgiven : ∀ rule ∈ r.rules, ∀ j k, Json.lookup rule.key ms = some j → Json.lookup rule.key ns = some k →
      j.fits (room - 1) = true → k.fits (room - 1) = true)
    (hadded : ∀ rule ∈ r.rules, ∀ k, Json.lookup rule.key ms = none → Json.lookup rule.key ns = some k →
      rule.fallback = some k)
    (hroom : 0 < room) (hms : (Json.object ms).fits room = true) : (Json.object ns).fits room = true := by
  refine Json.fits_object_iff.2 (.inr ⟨hroom, ?_⟩)
  rintro ⟨key, k⟩ hmember
  have hkey : key ∈ r.rules.map (·.key) := by
    rw [← hwritten]
    exact List.mem_map_of_mem hmember
  obtain ⟨rule, hrule, rfl⟩ := List.mem_map.1 hkey
  have hk := Record.lookup_of_written hwritten hmember
  cases hj : Json.lookup rule.key ms with
  | some j => exact hgiven rule hrule j k hj hk (Json.fits_of_lookup hms hj).2
  | none => exact r.fits_fallback _ rule hrule k (hadded rule hrule k hj hk)

variable {R : String → Int → Prop}

/-- What is kept keeps to the limits that were kept before. -/
theorem Kept.fits (hR : ∀ s n, R s n → decimalLength n.natAbs ≤ maxDigits) {part : Part} {j k : Json}
    (h : Kept R part j k) (hinner : part.isInner = true) (hj : j.fits room = true) : k.fits room = true := by
  induction h generalizing room with
  | text | truth | null => rfl
  | integer h => simpa [Json.fits] using h.decimalLength_le hR hj
  | present h ih => exact ih hinner hj
  | message hkind h ih => exact ih rfl hj
  | enumeration hkind h ih => exact ih rfl hj
  | @list item js ks hlength hitems ih =>
    rcases Json.fits_array_iff.1 hj with rfl | ⟨hroom, hfits⟩
    · rw [List.length_eq_zero_iff.1 hlength.symm]
      rfl
    · refine Json.fits_array_iff.2 (.inr ⟨hroom, fun k hk => ?_⟩)
      obtain ⟨i, hi⟩ := List.mem_iff_getElem?.1 hk
      have hlt : i < js.length := by
        rw [hlength]
        exact (List.getElem?_eq_some_iff.1 hi).1
      exact ih i js[i] k (List.getElem?_eq_getElem hlt) hi hinner (hfits _ (List.getElem_mem hlt))
  | @record r ms ns hdeclared hwritten hgiven hadded ih =>
    have hgiven' : ∀ rule ∈ r.rules, ∀ j k, Json.lookup rule.key ms = some j → Json.lookup rule.key ns = some k →
        j.fits (room - 1) = true → k.fits (room - 1) = true :=
      fun rule hrule j k hj' hk => ih rule hrule j k hj' hk (r.isInner_part rule hrule)
    refine Record.fits_of_written hwritten hgiven' hadded ?_ hj
    -- a member that must be there was there, so the object was not empty and there is room for what is added
    obtain ⟨rule, hrule, hrequired⟩ := Record.exists_required (r := r) (by simpa [Part.isInner] using hinner)
    obtain ⟨k, hk⟩ := Record.exists_lookup_of_written hwritten hrule
    cases hj' : Json.lookup rule.key ms with
    | some j => exact (Json.fits_of_lookup hj hj').1
    | none =>
      have hfallback := hadded rule hrule k hj' hk
      rw [hrequired] at hfallback
      cases hfallback

/-- The document of an accepted program keeps to the limits that the accepted document kept to. -/
theorem Program.fits_of_decode {p : Program} {j : Json} (h : Schema.program j = .valid p) (hroom : 0 < room)
    (hj : j.fits room = true) : p.toJson.fits room = true := by
  have hkept := Program.kept (R := fun _ n => decimalLength n.natAbs ≤ maxDigits) h
    fun s _ n hn => Coercion.decimalLength_of_integerOfText hn
  generalize p.toJson = k at hkept
  cases hkept with
  | record hdeclared hwritten hgiven hadded =>
    refine Record.fits_of_written hwritten (fun rule hrule j k hj' hk hfits => ?_) hadded hroom hj
    exact (hgiven rule hrule j k hj' hk).fits (fun _ _ hn => hn) (Record.isInner_part _ rule hrule) hfits

end Fits

/-! ## Texts and files -/

theorem Schema.ofText_eq_valid_iff {α : Type} {d : Decoder α} {text : String} {a : α} :
    ofText d text = .valid a ↔ ∃ j, Json.readWithin Json.maxDepth text = some j ∧ d j = .valid a := by
  rw [ofText, Json.read?]
  cases Json.readWithin Json.maxDepth text with
  | some j => simp
  | none => simp [Checked.fail]

theorem Program.load_eq_ok_iff {t : FileTree} {file : Path} {p : Program} :
    Program.load t file = .ok p ↔
      ∃ content text, t.read file = .ok content ∧ String.fromUTF8? content = some text ∧
        Schema.ofText Schema.program text = .valid p := by
  rw [Program.load]
  cases t.read file with
  | error why => simp
  | ok content =>
    cases htext : String.fromUTF8? content with
    | none => simp [htext]
    | some text => cases hp : Schema.ofText Schema.program text <;> simp [htext, hp]

theorem fromUTF8?_toUTF8 (s : String) : String.fromUTF8? s.toUTF8 = some s := by
  rw [String.fromUTF8?, String.toUTF8_eq_toByteArray, dif_pos s.isValidUTF8]
  rfl

/-- The text of a program with names is read back as the program exactly if its document keeps to the limits. -/
theorem Program.ofText_text_iff {p : Program} (h : p.HasNames) :
    Schema.ofText Schema.program p.toJson.text = .valid p ↔ p.toJson.fits Json.maxDepth = true := by
  rw [Schema.ofText_eq_valid_iff]
  constructor
  · rintro ⟨j, hread, hdecode⟩
    exact Program.fits_of_decode hdecode (by decide) (Json.fits_of_readWithin hread)
  · intro hfits
    exact ⟨_, Json.readWithin_text hfits, Program.decode_toJson h⟩

/-- A file with the text of a program holds this program exactly if the text is read back as it. -/
theorem Program.load_eq_ok_iff_of_read {p : Program} {t : FileTree} {file : Path}
    (hread : t.read file = .ok p.toJson.text.toUTF8) :
    Program.load t file = .ok p ↔ Schema.ofText Schema.program p.toJson.text = .valid p := by
  rw [Program.load_eq_ok_iff]
  constructor
  · rintro ⟨content, text, hcontent, htext, hp⟩
    obtain rfl := Except.ok.inj (hread.symm.trans hcontent)
    obtain rfl := Option.some.inj ((fromUTF8?_toUTF8 _).symm.trans htext)
    exact hp
  · intro hp
    exact ⟨_, _, hread, fromUTF8?_toUTF8 _, hp⟩

/-- Whatever text was accepted, the text of the program that it gave is accepted as the same program. -/
theorem Program.ofText_text_of_accepted {text : String} {p : Program}
    (h : Schema.ofText Schema.program text = .valid p) : Schema.ofText Schema.program p.toJson.text = .valid p := by
  obtain ⟨j, hread, hdecode⟩ := Schema.ofText_eq_valid_iff.1 h
  rw [Program.ofText_text_iff (Program.hasNames_of_decode hdecode)]
  exact Program.fits_of_decode hdecode (by decide) (Json.fits_of_readWithin hread)

/-- A program whose names are not empty, nested to any depth, is decoded from its own document. From the text of the
    document, or from a file with this text, it is read back exactly if the document keeps to the limits of the
    reader. No other programs are ever accepted, and what was accepted from a document, a text or a file is accepted
    in the same form once more and gives the same program. -/
theorem Program.dump_accepted_again :
    (∀ p : Program, p.HasNames →
      Schema.program p.toJson = .valid p ∧
        (Schema.ofText Schema.program p.toJson.text = .valid p ↔ p.toJson.fits Json.maxDepth = true) ∧
        ∀ (t : FileTree) (file : Path), t.read file = .ok p.toJson.text.toUTF8 →
          (Program.load t file = .ok p ↔ p.toJson.fits Json.maxDepth = true)) ∧
    (∀ (j : Json) (p : Program), Schema.program j = .valid p → p.HasNames ∧ Schema.program p.toJson = .valid p) ∧
    (∀ (text : String) (p : Program), Schema.ofText Schema.program text = .valid p →
      Schema.ofText Schema.program p.toJson.text = .valid p) ∧
    ∀ (t : FileTree) (file : Path) (p : Program), Program.load t file = .ok p →
      ∀ (t' : FileTree) (file' : Path), t'.read file' = .ok p.toJson.text.toUTF8 → Program.load t' file' = .ok p := by
  refine ⟨fun p h => ⟨Program.decode_toJson h, Program.ofText_text_iff h, fun t file hread => ?_⟩, fun j p h => ?_,
    fun text p h => Program.ofText_text_of_accepted h, fun t file p h t' file' hread => ?_⟩
  · rw [Program.load_eq_ok_iff_of_read hread, Program.ofText_text_iff h]
  · have hnames := Program.hasNames_of_decode h
    exact ⟨hnames, Program.decode_toJson hnames⟩
  · obtain ⟨_, text, -, -, htext⟩ := Program.load_eq_ok_iff.1 h
    exact (Program.load_eq_ok_iff_of_read hread).2 (Program.ofText_text_of_accepted htext)

/-! ## Printing -/

/-- A program is within what is printed: its types nest no deeper, which its document shows, and none of its numbers
    has more digits. -/
def Program.IsPrintable (p : Program) (limits : Limits) : Prop :=
  p.toJson.fits limits.programDepth = true

/-- A program that was read from a file is printed where printing may go as deep as reading. -/
theorem Program.isPrintable_of_load {t : FileTree} {file : Path} {p : Program} {limits : Limits}
    (h : Program.load t file = .ok p) (hdepth : Json.maxDepth ≤ limits.programDepth) : p.IsPrintable limits := by
  obtain ⟨_, text, -, -, htext⟩ := Program.load_eq_ok_iff.1 h
  obtain ⟨j, hread, hdecode⟩ := Schema.ofText_eq_valid_iff.1 htext
  exact Program.fits_of_decode hdecode (Nat.lt_of_lt_of_le (by decide) hdepth)
    (Json.fits_of_readWithin (Json.readWithin_mono hdepth hread))

/-! ## Boxes in boxes -/

/-- A message with a field and an enumeration, inside `n` others. -/
def boxedMessage : Nat → Message
  | 0 =>
    { name := "Item", fields := [⟨"Kind", .reference ⟨"Shop", "Item.Kind"⟩, { tag := 1 }⟩],
      nested := [.enumeration { name := "Kind", values := [⟨"Old", -1⟩] }] }
  | n + 1 => { name := "Box", nested := [.message (boxedMessage n)] }

def boxedProgram (n : Nat) : Program :=
  ⟨[⟨"Shop", [boxedMessage n], []⟩]⟩

theorem hasNames_boxedMessage (n : Nat) : (boxedMessage n).HasNames := by
  induction n with
  | zero => exact Message.hasNames_iff.2 ⟨by simp [boxedMessage], by simp [boxedMessage]⟩
  | succ n ih =>
    refine Message.hasNames_iff.2 ⟨by simp [boxedMessage], fun c hc => ?_⟩
    obtain rfl : c = boxedMessage n := by simpa [boxedMessage] using hc
    exact ih

theorem hasNames_boxedProgram (n : Nat) : (boxedProgram n).HasNames := by
  intro n hn
  obtain rfl := List.mem_singleton.1 hn
  refine ⟨by simp, fun m hm => ?_⟩
  obtain rfl := List.mem_singleton.1 hm
  exact hasNames_boxedMessage _

/-- An item in 95 boxes is read back. -/
theorem boxedProgram_read_back :
    Schema.program (boxedProgram 95).toJson = .valid (boxedProgram 95) ∧
      Schema.ofText Schema.program (boxedProgram 95).toJson.text = .valid (boxedProgram 95) := by
  have hfits : (boxedProgram 95).toJson.fits Json.maxDepth = true := by decide +kernel
  obtain ⟨hdocument, htext, -⟩ := Program.dump_accepted_again.1 _ (hasNames_boxedProgram 95)
  exact ⟨hdocument, htext.2 hfits⟩

/-- An item in 96 boxes is decoded from its document, but the text of the document is refused. -/
theorem boxedProgram_refused :
    (boxedProgram 96).HasNames ∧ Schema.program (boxedProgram 96).toJson = .valid (boxedProgram 96) ∧
      Schema.ofText Schema.program (boxedProgram 96).toJson.text = .fail .invalidJson := by
  have hdeep : (boxedProgram 96).toJson.fits Json.maxDepth = false := by decide +kernel
  have hfits : (boxedProgram 96).toJson.fits 201 = true := by decide +kernel
  have hread : Json.read? (boxedProgram 96).toJson.text = none :=
    Json.readWithin_text_eq_none (by decide) hfits hdeep
  refine ⟨hasNames_boxedProgram 96, Program.decode_toJson (hasNames_boxedProgram 96), ?_⟩
  rw [Schema.ofText, hread]

end ProtoEmit
