/-
  What becomes of an accepted document.

  The document of a program is made of a few kinds of object, each with members of its own. Reading a document and
  writing the program down again keeps every member where it stands and every list in its order; texts stay as they
  are, integers and truth values come out in their plain form, and what is added is what stands in for a member that
  was left out. Where no object has a key twice, this holds at every place of the document. Of two members with one key
  the first is lost.
-/

import Mathlib.Algebra.Field.Rat
import Mathlib.Data.Nat.Cast.Field
import Mathlib.Tactic.Positivity
import ProtoEmit.Proofs.Decoding
import ProtoEmit.Proofs.IntegerText

namespace ProtoEmit

/-! ## Plain values -/

/-- The double is the integer `n`. -/
def Binary64.IsInteger (n : Int) : Binary64 → Prop
  | .finite negative significand exponent =>
    (if negative then -(significand : ℚ) else significand) * (2 : ℚ) ^ exponent = n
  | _ => False

/-- What may be given for an integer: itself, a truth value for 0 or 1, a number that is this integer and not too large,
    or a text. `texts` says which texts stand for which integers. -/
inductive IntegerForm (texts : String → Int → Prop) : Json → Int → Prop
  | integer (n : Int) : IntegerForm texts (.integer n) n
  | bool (b : Bool) : IntegerForm texts (.bool b) (if b then 1 else 0)
  | number {x : Number} {n : Int} (h : x.toDouble.IsInteger n) (hsize : n.natAbs < 2 ^ 63) :
      IntegerForm texts (.number x) n
  | text {s : String} {n : Int} (h : texts s n) : IntegerForm texts (.string s) n

/-- The words for a truth value. -/
def truthWords : Bool → List String
  | false => ["0", "off", "f", "false", "n", "no"]
  | true => ["1", "on", "t", "true", "y", "yes"]

/-- What may be given for a truth value: itself, 0 or 1 for it, or one of its words in any case. -/
inductive TruthForm : Json → Bool → Prop
  | bool (b : Bool) : TruthForm (.bool b) b
  | integer (b : Bool) : TruthForm (.integer (if b then 1 else 0)) b
  | number {x : Number} {b : Bool} (h : x.toDouble.IsInteger (if b then 1 else 0)) : TruthForm (.number x) b
  | text {s : String} {b : Bool} (h : s.map Char.toLower ∈ truthWords b) : TruthForm (.string s) b

/-! ## Documents of programs -/

/-- The kinds of object in the document of a program. -/
inductive Record where
  | reference
  | fieldOptions
  | field
  | enumValue
  | enumeration
  | message
  | namespaceDecl
  | program
deriving DecidableEq, Repr

/-- What may stand at a place of the document of a program. -/
inductive Part where
  | text
  | integer
  | truth
  | record (r : Record)
  /-- An object or null. -/
  | nullable (r : Record)
  /-- A message or an enumeration, which says by its kind what it is. -/
  | tagged
  | list (item : Part)
deriving DecidableEq, Repr

/-- A member of an object: its key, what it holds, and what stands in for it if it may be left out. -/
structure MemberRule where
  key : String
  part : Part
  fallback : Option Json := none

/-- The members of each kind of object. -/
def Record.rules : Record → List MemberRule
  | .reference => [{ key := "namespace", part := .text }, { key := "path", part := .text }]
  | .fieldOptions =>
    [{ key := "label", part := .text, fallback := some (.string "singular") },
      { key := "property_order", part := .integer },
      { key := "is_packed", part := .truth, fallback := some (.bool true) }]
  | .field =>
    [{ key := "name", part := .text },
      { key := "type", part := .text },
      { key := "referenced_type", part := .nullable .reference, fallback := some .null },
      { key := "options", part := .record .fieldOptions }]
  | .enumValue => [{ key := "name", part := .text }, { key := "value", part := .integer }]
  | .enumeration =>
    [{ key := "kind", part := .text, fallback := some (.string "enum") },
      { key := "short_name", part := .text },
      { key := "original_name", part := .text, fallback := some (.string "") },
      { key := "properties", part := .list (.record .enumValue), fallback := some (.array []) },
      { key := "is_private", part := .truth, fallback := some (.bool false) }]
  | .message =>
    [{ key := "kind", part := .text, fallback := some (.string "class") },
      { key := "short_name", part := .text },
      { key := "original_name", part := .text, fallback := some (.string "") },
      { key := "properties", part := .list (.record .field), fallback := some (.array []) },
      { key := "private_types", part := .list .tagged, fallback := some (.array []) },
      { key := "is_private", part := .truth, fallback := some (.bool false) }]
  | .namespaceDecl =>
    [{ key := "name", part := .text },
      { key := "classes", part := .list (.record .message), fallback := some (.array []) },
      { key := "enums", part := .list (.record .enumeration), fallback := some (.array []) }]
  | .program => [{ key := "namespaces", part := .list (.record .namespaceDecl), fallback := some (.array []) }]

/-- `Kept texts part j k`: at a place for `part`, the document `k` holds what the document `j` holds there. Of several
    members with one key the last counts, as everywhere in a document. -/
inductive Kept (texts : String → Int → Prop) : Part → Json → Json → Prop
  | text (s : String) : Kept texts .text (.string s) (.string s)
  | integer {j : Json} {n : Int} (h : IntegerForm texts j n) : Kept texts .integer j (.integer n)
  | truth {j : Json} {b : Bool} (h : TruthForm j b) : Kept texts .truth j (.bool b)
  | null (r : Record) : Kept texts (.nullable r) .null .null
  | present {r : Record} {j k : Json} (h : Kept texts (.record r) j k) : Kept texts (.nullable r) j k
  | message {j k : Json} (hkind : j.get? "kind" = some (.string "class")) (h : Kept texts (.record .message) j k) :
      Kept texts .tagged j k
  | enumeration {j k : Json} (hkind : j.get? "kind" = some (.string "enum"))
      (h : Kept texts (.record .enumeration) j k) : Kept texts .tagged j k
  /-- Lists have the same items in the same order. -/
  | list {item : Part} {js ks : List Json} (hlength : js.length = ks.length)
      (hitems : ∀ (i : Nat) (j k : Json), js[i]? = some j → ks[i]? = some k → Kept texts item j k) :
      Kept texts (.list item) (.array js) (.array ks)
  /-- Objects have declared members only, and all of these are written. Those that were there are kept, the others
      are what stands in for them. -/
  | record {r : Record} {ms ns : Decoder.Members} (hdeclared : ∀ member ∈ ms, member.1 ∈ r.rules.map (·.key))
      (hwritten : ns.map (·.1) = r.rules.map (·.key))
      (hgiven : ∀ rule ∈ r.rules, ∀ j k, Json.lookup rule.key ms = some j → Json.lookup rule.key ns = some k →
        Kept texts rule.part j k)
      (hadded : ∀ rule ∈ r.rules, ∀ k, Json.lookup rule.key ms = none → Json.lookup rule.key ns = some k →
        rule.fallback = some k) :
      Kept texts (.record r) (.object ms) (.object ns)

/-! ## Members under a key -/

namespace Json

variable {α : Type} {key : String} {members : List (String × α)}

theorem mem_of_lookup {v : α} (h : lookup key members = some v) : (key, v) ∈ members := by
  induction members with
  | nil => cases h
  | cons member members ih =>
    obtain ⟨k, w⟩ := member
    rw [lookup] at h
    cases hrest : lookup key members with
    | some u =>
      rw [hrest] at h
      obtain rfl := Option.some.inj h
      exact List.mem_cons_of_mem _ (ih hrest)
    | none =>
      simp only [hrest, Option.ite_none_right_eq_some, Option.some.injEq] at h
      obtain ⟨rfl, rfl⟩ := h
      exact List.mem_cons_self

theorem lookup_eq_none_of_not_mem (h : key ∉ members.map (·.1)) : lookup key members = none := by
  cases hlookup : lookup key members with
  | none => rfl
  | some v => exact absurd (List.mem_map_of_mem (mem_of_lookup hlookup)) h

/-- Where the keys differ, a member is what its key stands for. -/
theorem lookup_of_mem (hnodup : (members.map (·.1)).Nodup) {v : α} (h : (key, v) ∈ members) :
    lookup key members = some v := by
  induction members with
  | nil => cases h
  | cons member members ih =>
    rw [List.map_cons, List.nodup_cons] at hnodup
    rw [lookup]
    rcases List.mem_cons.1 h with rfl | h
    · rw [lookup_eq_none_of_not_mem hnodup.1]
      simp
    · rw [ih hnodup.2 h]

end Json

/-! ## Places in documents -/

namespace Json

/-- `j.At place v`: at a place in `j` stands `v`. All members of an object with one key stand at the same place. -/
inductive At : Json → List Step → Json → Prop
  | here (j : Json) : At j [] j
  | item {items : List Json} {i : Nat} {j v : Json} {place : List Step} (hitem : items[i]? = some j)
      (h : At j place v) : At (.array items) (.index i :: place) v
  | member {members : List (String × Json)} {key : String} {j v : Json} {place : List Step}
      (hmember : (key, j) ∈ members) (h : At j place v) : At (.object members) (.key key :: place) v

mutual

/-- Whether no object in a document has a key twice. -/
def keysDiffer : Json → Bool
  | .array items => keysDifferInItems items
  | .object members => decide (members.map (·.1)).Nodup && keysDifferInMembers members
  | _ => true
termination_by structural j => j

def keysDifferInItems : List Json → Bool
  | [] => true
  | j :: rest => keysDiffer j && keysDifferInItems rest
termination_by structural js => js

def keysDifferInMembers : List (String × Json) → Bool
  | [] => true
  | (_, j) :: rest => keysDiffer j && keysDifferInMembers rest
termination_by structural ms => ms

end

theorem keysDiffer_array_iff {items : List Json} :
    (array items).keysDiffer = true ↔ ∀ j ∈ items, j.keysDiffer = true := by
  rw [keysDiffer]
  induction items with
  | nil => simp [keysDifferInItems]
  | cons j items ih => simp [keysDifferInItems, ih]

theorem keysDiffer_object_iff {members : List (String × Json)} :
    (object members).keysDiffer = true ↔
      (members.map (·.1)).Nodup ∧ ∀ member ∈ members, member.2.keysDiffer = true := by
  rw [keysDiffer, Bool.and_eq_true, decide_eq_true_eq, and_congr_right_iff]
  rintro -
  induction members with
  | nil => simp [keysDifferInMembers]
  | cons member members ih =>
    obtain ⟨k, j⟩ := member
    simp [keysDifferInMembers, ih]

end Json

/-! ## Texts in documents -/

namespace Json

mutual

/-- The texts that stand in a document, keys apart. -/
def texts : Json → List String
  | .string s => [s]
  | .array items => textsOfItems items
  | .object members => textsOfMembers members
  | _ => []
termination_by structural j => j

def textsOfItems : List Json → List String
  | [] => []
  | j :: rest => texts j ++ textsOfItems rest
termination_by structural js => js

def textsOfMembers : List (String × Json) → List String
  | [] => []
  | (_, j) :: rest => texts j ++ textsOfMembers rest
termination_by structural ms => ms

end

theorem texts_subset_of_mem {j : Json} {items : List Json} (h : j ∈ items) : j.texts ⊆ textsOfItems items := by
  induction items with
  | nil => cases h
  | cons item items ih =>
    rw [textsOfItems]
    rcases List.mem_cons.1 h with rfl | h
    · exact List.subset_append_left _ _
    · exact List.subset_append_of_subset_right _ (ih h)

theorem texts_subset_of_member {key : String} {j : Json} {members : List (String × Json)} (h : (key, j) ∈ members) :
    j.texts ⊆ textsOfMembers members := by
  induction members with
  | nil => cases h
  | cons member members ih =>
    rw [textsOfMembers]
    rcases List.mem_cons.1 h with rfl | h
    · exact List.subset_append_left _ _
    · exact List.subset_append_of_subset_right _ (ih h)

/-- Every text of a document that is accepted for an integer stands for it according to `R`. -/
def TextsReadAs (R : String → Int → Prop) (j : Json) : Prop :=
  ∀ s ∈ j.texts, ∀ n, Coercion.integerOfText s = .valid n → R s n

theorem TextsReadAs.of_mem {R : String → Int → Prop} {items : List Json} (h : (Json.array items).TextsReadAs R)
    {j : Json} (hj : j ∈ items) : j.TextsReadAs R :=
  fun s hs => h s (texts_subset_of_mem hj hs)

theorem TextsReadAs.of_lookup {R : String → Int → Prop} {members : List (String × Json)}
    (h : (Json.object members).TextsReadAs R) {key : String} {j : Json} (hj : lookup key members = some j) :
    j.TextsReadAs R :=
  fun s hs => h s (texts_subset_of_member (mem_of_lookup hj) hs)

end Json

/-! ## Plain values are kept -/

/-- The magnitude of a whole double is its significand times its power of two. -/
theorem eq_of_wholeMagnitude? {significand magnitude : Nat} {exponent : Int}
    (h : wholeMagnitude? significand exponent = some magnitude) :
    (significand : ℚ) * (2 : ℚ) ^ exponent = magnitude := by
  unfold wholeMagnitude? at h
  split at h
  · rename_i hexponent
    obtain ⟨t, rfl⟩ := Int.eq_ofNat_of_zero_le hexponent
    obtain rfl := Option.some.inj h
    rw [Int.toNat_natCast, zpow_natCast, Nat.pow_eq]
    push_cast
    rfl
  · rename_i hexponent
    obtain ⟨t, ht⟩ := Int.eq_ofNat_of_zero_le (show 0 ≤ -exponent by omega)
    obtain rfl : exponent = -(t : Int) := by omega
    rw [Option.ite_none_right_eq_some, Option.some.injEq, neg_neg, Int.toNat_natCast] at h
    obtain ⟨hmod, rfl⟩ := h
    have hdvd : 2 ^ t ∣ significand := Nat.dvd_of_mod_eq_zero hmod
    rw [zpow_neg, zpow_natCast, Nat.pow_eq, Nat.cast_div hdvd (by positivity)]
    push_cast
    rw [div_eq_mul_inv]

theorem Coercion.isInteger_of_integerOfNumber {x : Number} {n : Int} (h : integerOfNumber x = .valid n) :
    x.toDouble.IsInteger n ∧ n.natAbs < 2 ^ 63 := by
  unfold integerOfNumber at h
  cases hx : x.toDouble with
  | finite negative significand exponent =>
    simp only [hx] at h
    cases hwhole : wholeMagnitude? significand exponent with
    | none => simp [hwhole, Checked.fail] at h
    | some magnitude =>
      have hvalue := eq_of_wholeMagnitude? hwhole
      simp only [hwhole] at h
      split at h
      · rename_i hsize
        rw [Nat.pow_eq] at hsize
        obtain rfl := Checked.valid.inj h
        cases negative
        · exact ⟨by simpa [Binary64.IsInteger] using hvalue, hsize⟩
        · refine ⟨by simpa [Binary64.IsInteger] using hvalue, ?_⟩
          rw [if_pos rfl, Int.natAbs_neg, Int.natAbs_natCast]
          exact hsize
      · cases h
  | infinite negative => simp [hx, Checked.fail] at h
  | nan => simp [hx, Checked.fail] at h

section Kept

variable {R : String → Int → Prop} {j : Json}

theorem Kept.integer_of_decode {n : Int} (h : Decoder.integer j = .valid n) (htexts : j.TextsReadAs R) :
    Kept R .integer j (.integer n) := by
  refine .integer ?_
  cases j with
  | integer m =>
    obtain rfl := Checked.valid.inj h
    exact .integer m
  | bool b =>
    obtain rfl := Checked.valid.inj h
    exact .bool b
  | number x =>
    obtain ⟨hinteger, hsize⟩ := Coercion.isInteger_of_integerOfNumber h
    exact .number hinteger hsize
  | string s => exact .text (htexts s (by simp [Json.texts]) n h)
  | _ => cases h

/-- What an object held under a declared key is kept under it. -/
theorem Kept.of_record {r : Record} {ms ns : Decoder.Members} (h : Kept R (.record r) (.object ms) (.object ns))
    {rule : MemberRule} (hrule : rule ∈ r.rules) {j k : Json} (hj : Json.lookup rule.key ms = some j)
    (hk : Json.lookup rule.key ns = some k) : Kept R rule.part j k := by
  cases h with
  | record _ _ hgiven _ => exact hgiven rule hrule j k hj hk

theorem Kept.of_list {item : Part} {j k : Json} {js ks : List Json}
    (h : Kept R (.list item) (.array (j :: js)) (.array (k :: ks))) : Kept R item j k := by
  cases h with
  | list _ hitems => exact hitems 0 j k rfl rfl

theorem Coercion.of_boolOfInteger {n : Int} {b : Bool} (h : boolOfInteger n = .valid b) : n = if b then 1 else 0 := by
  unfold boolOfInteger at h
  split at h
  · obtain rfl := Checked.valid.inj h
    assumption
  · split at h
    · obtain rfl := Checked.valid.inj h
      assumption
    · split at h <;> cases h

theorem Kept.truth_of_decode {b : Bool} (h : Decoder.bool j = .valid b) : Kept R .truth j (.bool b) := by
  refine .truth ?_
  cases j with
  | bool c =>
    obtain rfl := Checked.valid.inj h
    exact .bool c
  | integer n =>
    rw [Coercion.of_boolOfInteger h]
    exact .integer b
  | number x =>
    simp only [Decoder.bool, Coercion.boolOfNumber] at h
    cases hx : Coercion.integerOfNumber x with
    | invalid issues => simp [hx, Checked.fail] at h
    | valid n =>
      simp only [hx] at h
      have hn := (Coercion.isInteger_of_integerOfNumber hx).1
      rw [Coercion.of_boolOfInteger h] at hn
      exact .number hn
  | string s =>
    simp only [Decoder.bool, Coercion.boolOfText] at h
    refine .text ?_
    split at h
    · rename_i hfalse
      obtain rfl := Checked.valid.inj h
      simpa [truthWords, Coercion.falseWords] using hfalse
    · split at h
      · rename_i htrue
        obtain rfl := Checked.valid.inj h
        simpa [truthWords, Coercion.trueWords] using htrue
      · cases h
  | _ => cases h

theorem Kept.text_of_decode {s : String} (h : Decoder.string j = .valid s) : Kept R .text j (.string s) := by
  rw [Decoder.string_eq_valid_iff.1 h]
  exact .text s

/-- Items that are kept one by one are kept as a list. -/
theorem Kept.list_of_decode {α : Type} {d : Decoder α} {item : Part} {as : List α} (toJson : α → Json)
    (h : Decoder.list d j = .valid as) (htexts : j.TextsReadAs R)
    (hitem : ∀ a ∈ as, ∀ v, d v = .valid a → v.TextsReadAs R → Kept R item v (toJson a)) :
    Kept R (.list item) j (.array (as.map toJson)) := by
  obtain ⟨items, rfl, hitems⟩ := Decoder.list_eq_valid_iff.1 h
  refine .list (by rw [List.length_map, hitems.length_eq]) fun i v k hv hk => ?_
  rw [List.getElem?_map, Option.map_eq_some_iff] at hk
  obtain ⟨a, ha, rfl⟩ := hk
  obtain ⟨hi, rfl⟩ := List.getElem?_eq_some_iff.1 hv
  obtain ⟨hi', rfl⟩ := List.getElem?_eq_some_iff.1 ha
  refine hitem _ (List.getElem_mem hi') _ ?_ (htexts.of_mem (List.getElem_mem hi))
  exact hitems.get hi hi'

/-! ## Objects are kept -/

/-- A member as it is written for an object with the members `ms`: the one that is there, or what stands in for it. -/
def KeptMember (R : String → Int → Prop) (ms : Decoder.Members) (rule : MemberRule) (member : String × Json) : Prop :=
  member.1 = rule.key ∧
    (∀ v, Json.lookup rule.key ms = some v → Kept R rule.part v member.2) ∧
    (Json.lookup rule.key ms = none → rule.fallback = some member.2)

theorem Decoder.Takes.kept {α : Type} {key : String} {fallback : Option α} {d : Decoder α} {ms : Decoder.Members}
    {a : α} (h : Takes key fallback d ms a) (toJson : α → Json) {part : Part} {standIn : Option Json}
    (hstandIn : fallback.map toJson = standIn)
    (hkept : ∀ v, Json.lookup key ms = some v → d v = .valid a → Kept R part v (toJson a)) :
    KeptMember R ms ⟨key, part, standIn⟩ (key, toJson a) := by
  subst hstandIn
  refine ⟨rfl, fun v hv => ?_, fun hnone => ?_⟩
  · obtain ⟨w, hw, ha⟩ | ⟨hnone, -⟩ := h
    · obtain rfl : w = v := Option.some.inj (hw.symm.trans hv)
      exact hkept w hv ha
    · rw [hv] at hnone
      cases hnone
  · obtain ⟨w, hw, -⟩ | ⟨-, rfl⟩ := h
    · rw [hnone] at hw
      cases hw
    · rfl

theorem KeptMember.kind {ms : Decoder.Members} {kind : String}
    (h : ∀ v, Json.lookup "kind" ms = some v → v = .string kind) :
    KeptMember R ms ⟨"kind", .text, some (.string kind)⟩ ("kind", .string kind) := by
  refine ⟨rfl, fun v hv => ?_, fun _ => rfl⟩
  rw [h v hv]
  exact .text kind

theorem Record.nodup_rules (r : Record) : (r.rules.map (·.key)).Nodup := by
  cases r <;> decide

/-- The members of an object that is written out have keys of their own. -/
theorem Record.lookup_of_written {r : Record} {ns : Decoder.Members} (hwritten : ns.map (·.1) = r.rules.map (·.key))
    {key : String} {k : Json} (h : (key, k) ∈ ns) : Json.lookup key ns = some k := by
  refine Json.lookup_of_mem ?_ h
  rw [hwritten]
  exact r.nodup_rules

theorem Record.exists_lookup_of_written {r : Record} {ns : Decoder.Members}
    (hwritten : ns.map (·.1) = r.rules.map (·.key)) {rule : MemberRule} (hrule : rule ∈ r.rules) :
    ∃ k, Json.lookup rule.key ns = some k := by
  have hkey : rule.key ∈ ns.map (·.1) := by
    rw [hwritten]
    exact List.mem_map_of_mem hrule
  obtain ⟨⟨key, k⟩, hk, rfl⟩ := List.mem_map.1 hkey
  exact ⟨k, Record.lookup_of_written hwritten hk⟩

theorem KeptMember.keys_eq {ms ns : Decoder.Members} {rules : List MemberRule}
    (h : List.Forall₂ (KeptMember R ms) rules ns) : ns.map (·.1) = rules.map (·.key) := by
  induction h with
  | nil => rfl
  | cons hfirst _ ih => rw [List.map_cons, List.map_cons, hfirst.1, ih]

/-- Members that are written one for each rule are found under the key of their rule. -/
theorem KeptMember.of_lookup {ms ns : Decoder.Members} {rules : List MemberRule}
    (h : List.Forall₂ (KeptMember R ms) rules ns) (hnodup : (rules.map (·.key)).Nodup) {rule : MemberRule}
    (hrule : rule ∈ rules) {k : Json} (hk : Json.lookup rule.key ns = some k) : KeptMember R ms rule (rule.key, k) := by
  -- the member was written by some rule, and no other rule has this key
  obtain ⟨rule', hrule', hkept⟩ := exists_partner_of_mem h (Json.mem_of_lookup hk)
  obtain rfl := List.inj_on_of_nodup_map hnodup hrule hrule' hkept.1
  exact hkept

theorem Kept.of_members {r : Record} {ms ns : Decoder.Members} (hdeclared : ∀ member ∈ ms, member.1 ∈ r.rules.map (·.key))
    (h : List.Forall₂ (KeptMember R ms) r.rules ns) : Kept R (.record r) (.object ms) (.object ns) := by
  refine .record hdeclared (KeptMember.keys_eq h) (fun rule hrule j k hj hk => ?_) (fun rule hrule k hnone hk => ?_)
  · exact (KeptMember.of_lookup h r.nodup_rules hrule hk).2.1 j hj
  · exact (KeptMember.of_lookup h r.nodup_rules hrule hk).2.2 hnone

/-! ## Programs are kept -/

theorem Reference.kept {r : Reference} (h : Schema.reference j = .valid r) : Kept R (.record .reference) j r.toJson := by
  obtain ⟨ms, rfl, hkeys, howner, hpath⟩ := Schema.reference_eq_valid_iff.1 h
  refine .of_members hkeys (.cons ?_ (.cons ?_ .nil))
  · exact howner.kept Json.string rfl fun v _ hv => .text_of_decode hv
  · exact hpath.kept Json.string rfl fun v _ hv => .text_of_decode hv

/-- A reference or null. -/
def Reference.nullableJson (r : Option Reference) : Json :=
  (r.map Reference.toJson).getD .null

theorem FieldType.referenceJson_eq (type : FieldType) : type.referenceJson = Reference.nullableJson type.parts.2 := by
  cases type <;> rfl

theorem Reference.nullable_kept {r : Option Reference} (h : Decoder.nullable Schema.reference j = .valid r) :
    Kept R (.nullable .reference) j (nullableJson r) := by
  cases r with
  | none =>
    rw [Decoder.nullable_eq_valid_none_iff.1 h]
    exact .null _
  | some r => exact .present (Reference.kept (Decoder.nullable_eq_valid_some_iff.1 h).2)

theorem FieldOptions.kept {o : FieldOptions} (h : Schema.fieldOptions j = .valid o) (htexts : j.TextsReadAs R) :
    Kept R (.record .fieldOptions) j o.toJson := by
  obtain ⟨ms, rfl, hkeys, hlabel, htag, hpacked⟩ := Schema.fieldOptions_eq_valid_iff.1 h
  refine .of_members hkeys (.cons ?_ (.cons ?_ (.cons ?_ .nil)))
  · refine hlabel.kept (fun l => Json.string l.keyword) rfl fun v _ hv => ?_
    rw [Schema.label_eq_valid_iff.1 hv]
    exact .text _
  · exact htag.kept Json.integer rfl fun v hlookup hv => .integer_of_decode hv (htexts.of_lookup hlookup)
  · exact hpacked.kept Json.bool rfl fun v _ hv => .truth_of_decode hv

theorem Field.kept {f : Field} (h : Schema.field j = .valid f) (htexts : j.TextsReadAs R) :
    Kept R (.record .field) j f.toJson := by
  obtain ⟨ms, rfl, hkeys, hname, htype, hreference, hoptions⟩ := Schema.field_eq_valid_iff.1 h
  refine .of_members hkeys (.cons ?_ (.cons ?_ (.cons ?_ (.cons ?_ .nil))))
  · refine hname.kept Json.string rfl fun v _ hv => ?_
    rw [(Decoder.name_eq_valid_iff.1 hv).1]
    exact .text _
  · refine htype.kept (fun _ => Json.string f.type.word) rfl fun v _ hv => ?_
    rw [Schema.typeWord_eq_valid_iff.1 hv]
    exact .text _
  · rw [FieldType.referenceJson_eq]
    exact hreference.kept Reference.nullableJson rfl fun v _ hv => Reference.nullable_kept hv
  · exact hoptions.kept FieldOptions.toJson rfl fun v hlookup hv => FieldOptions.kept hv (htexts.of_lookup hlookup)

theorem EnumValue.kept {v : EnumValue} (h : Schema.enumValue j = .valid v) (htexts : j.TextsReadAs R) :
    Kept R (.record .enumValue) j v.toJson := by
  obtain ⟨ms, rfl, hkeys, hname, hnumber⟩ := Schema.enumValue_eq_valid_iff.1 h
  refine .of_members hkeys (.cons ?_ (.cons ?_ .nil))
  · exact hname.kept Json.string rfl fun v _ hv => .text_of_decode hv
  · exact hnumber.kept Json.integer rfl fun v hlookup hv => .integer_of_decode hv (htexts.of_lookup hlookup)

theorem Enumeration.kept {e : Enumeration} (h : Schema.enumeration j = .valid e) (htexts : j.TextsReadAs R) :
    Kept R (.record .enumeration) j e.toJson := by
  obtain ⟨ms, rfl, hkeys, hkind, hname, horigin, hvalues, hprivate⟩ := Schema.enumeration_eq_valid_iff.1 h
  refine .of_members hkeys (.cons ?_ (.cons ?_ (.cons ?_ (.cons ?_ (.cons ?_ .nil)))))
  · exact .kind hkind
  · exact hname.kept Json.string rfl fun v _ hv => .text_of_decode hv
  · exact horigin.kept Json.string rfl fun v _ hv => .text_of_decode hv
  · exact hvalues.kept (fun vs => .array (vs.map EnumValue.toJson)) rfl fun v hlookup hv =>
      .list_of_decode _ hv (htexts.of_lookup hlookup) fun _ _ _ => EnumValue.kept
  · exact hprivate.kept Json.bool rfl fun v _ hv => .truth_of_decode hv

mutual

theorem Message.kept (m : Message) {j : Json} (h : Schema.message j = .valid m) (htexts : j.TextsReadAs R) :
    Kept R (.record .message) j m.toJson := by
  match m, h with
  | ⟨name, origin, fields, nested, isPrivate⟩, h =>
    obtain ⟨ms, rfl, hkeys, hkind, hname, horigin, hfields, hnested, hprivate⟩ := Schema.message_eq_valid_iff.1 h
    refine .of_members hkeys (.cons ?_ (.cons ?_ (.cons ?_ (.cons ?_ (.cons ?_ (.cons ?_ .nil))))))
    · exact .kind hkind
    · exact hname.kept Json.string rfl fun v _ hv => .text_of_decode hv
    · exact horigin.kept Json.string rfl fun v _ hv => .text_of_decode hv
    · exact hfields.kept (fun fs => .array (fs.map Field.toJson)) rfl fun v hlookup hv =>
        .list_of_decode _ hv (htexts.of_lookup hlookup) fun _ _ _ => Field.kept
    · rw [Declaration.toJsons_eq_map]
      exact hnested.kept (fun ds => .array (ds.map Declaration.toJson)) rfl fun v hlookup hv =>
        .list_of_decode _ hv (htexts.of_lookup hlookup) (Declaration.kept_of_mem nested)
    · exact hprivate.kept Json.bool rfl fun v _ hv => .truth_of_decode hv
termination_by structural m

theorem Declaration.kept (d : Declaration) {j : Json} (h : Schema.declaration j = .valid d) (htexts : j.TextsReadAs R) :
    Kept R .tagged j d.toJson := by
  match d, h with
  | .message m, h =>
    obtain ⟨hkind, c, hc, heq⟩ | ⟨-, e, -, heq⟩ := Schema.declaration_eq_valid_iff.1 h
    · cases heq
      exact .message hkind (Message.kept m hc htexts)
    · cases heq
  | .enumeration e, h =>
    obtain ⟨-, c, -, heq⟩ | ⟨hkind, e, he, heq⟩ := Schema.declaration_eq_valid_iff.1 h
    · cases heq
    · cases heq
      exact .enumeration hkind (Enumeration.kept he htexts)
termination_by structural d

theorem Declaration.kept_of_mem (ds : List Declaration) :
    ∀ d ∈ ds, ∀ j, Schema.declaration j = .valid d → j.TextsReadAs R → Kept R .tagged j d.toJson := by
  match ds with
  | [] =>
    intro d hd
    cases hd
  | d :: rest =>
    rw [List.forall_mem_cons]
    exact ⟨fun j => Declaration.kept d, Declaration.kept_of_mem rest⟩
termination_by structural ds

end

theorem Namespace.kept {n : Namespace} (h : Schema.namespaceDecl j = .valid n) (htexts : j.TextsReadAs R) :
    Kept R (.record .namespaceDecl) j n.toJson := by
  obtain ⟨ms, rfl, hkeys, hname, hmessages, henumerations⟩ := Schema.namespaceDecl_eq_valid_iff.1 h
  refine .of_members hkeys (.cons ?_ (.cons ?_ (.cons ?_ .nil)))
  · refine hname.kept Json.string rfl fun v _ hv => ?_
    rw [(Decoder.name_eq_valid_iff.1 hv).1]
    exact .text _
  · exact hmessages.kept (fun ms => .array (ms.map Message.toJson)) rfl fun v hlookup hv =>
      .list_of_decode _ hv (htexts.of_lookup hlookup) fun m _ _ => Message.kept m
  · exact henumerations.kept (fun es => .array (es.map Enumeration.toJson)) rfl fun v hlookup hv =>
      .list_of_decode _ hv (htexts.of_lookup hlookup) fun _ _ _ => Enumeration.kept

theorem Program.kept {p : Program} (h : Schema.program j = .valid p) (htexts : j.TextsReadAs R) :
    Kept R (.record .program) j p.toJson := by
  obtain ⟨ms, rfl, hkeys, hnamespaces⟩ := Schema.program_eq_valid_iff.1 h
  refine .of_members hkeys (.cons ?_ .nil)
  exact hnamespaces.kept (fun ns => .array (ns.map Namespace.toJson)) rfl fun v hlookup hv =>
    .list_of_decode _ hv (htexts.of_lookup hlookup) fun _ _ _ => Namespace.kept

end Kept

/-! ## Every place is kept -/

section Places

variable {R : String → Int → Prop} {part : Part}

/-- An object is kept by the rules of its kind, whatever else may stand at its place. -/
theorem Kept.exists_record {ms : Decoder.Members} {k : Json} (h : Kept R part (.object ms) k) :
    ∃ r ns, k = .object ns ∧ Kept R (.record r) (.object ms) (.object ns) := by
  have hrecord : ∀ r, Kept R (.record r) (.object ms) k →
      ∃ r ns, k = .object ns ∧ Kept R (.record r) (.object ms) (.object ns) := by
    intro r h
    cases h with
    | record hdeclared hwritten hgiven hadded => exact ⟨r, _, rfl, .record hdeclared hwritten hgiven hadded⟩
  cases h with
  | integer h => cases h
  | truth h => cases h
  | present h => exact hrecord _ h
  | message _ h => exact hrecord _ h
  | enumeration _ h => exact hrecord _ h
  | record hdeclared hwritten hgiven hadded => exact hrecord _ (.record hdeclared hwritten hgiven hadded)

/-- An array is kept item by item. -/
theorem Kept.exists_list {js : List Json} {k : Json} (h : Kept R part (.array js) k) :
    ∃ item ks, k = .array ks ∧ js.length = ks.length ∧
      ∀ (i : Nat) (j k : Json), js[i]? = some j → ks[i]? = some k → Kept R item j k := by
  cases h with
  | integer h => cases h
  | truth h => cases h
  | present h => cases h
  | message _ h => cases h
  | enumeration _ h => cases h
  | list hlength hitems => exact ⟨_, _, rfl, hlength, hitems⟩

/-- Where keys are not repeated, each member of an object is kept under its key. -/
theorem Kept.exists_member {r : Record} {ms ns : Decoder.Members} (h : Kept R (.record r) (.object ms) (.object ns))
    (hkeys : (ms.map (·.1)).Nodup) {key : String} {j : Json} (hj : (key, j) ∈ ms) :
    ∃ part k, (key, k) ∈ ns ∧ Kept R part j k := by
  cases h with
  | record hdeclared hwritten hgiven _ =>
    obtain ⟨rule, hrule, rfl⟩ := List.mem_map.1 (hdeclared _ hj)
    obtain ⟨k, hk⟩ := Record.exists_lookup_of_written hwritten hrule
    exact ⟨rule.part, k, Json.mem_of_lookup hk, hgiven rule hrule j k (Json.lookup_of_mem hkeys hj) hk⟩

/-- Where keys are not repeated, what stands at a place is kept at this place. -/
theorem Kept.at {j k v : Json} {place : List Step} (h : Kept R part j k) (hkeys : j.keysDiffer = true)
    (hv : j.At place v) : ∃ part' w, k.At place w ∧ Kept R part' v w := by
  induction hv generalizing part k with
  | here j => exact ⟨part, k, .here k, h⟩
  | @item items i j v place hitem _ ih =>
    obtain ⟨item, ks, rfl, hlength, hitems⟩ := h.exists_list
    obtain ⟨hi, rfl⟩ := List.getElem?_eq_some_iff.1 hitem
    have hk : ks[i]? = some ks[i] := List.getElem?_eq_getElem (hlength ▸ hi)
    obtain ⟨part', w, hw, hkept⟩ := ih (hitems i _ _ hitem hk) (Json.keysDiffer_array_iff.1 hkeys _ (List.getElem_mem hi))
    exact ⟨part', w, .item hk hw, hkept⟩
  | @member members key j v place hmember _ ih =>
    obtain ⟨r, ns, rfl, hrecord⟩ := h.exists_record
    obtain ⟨hnodup, hinner⟩ := Json.keysDiffer_object_iff.1 hkeys
    obtain ⟨part', k, hk, hkept⟩ := hrecord.exists_member hnodup hmember
    obtain ⟨part', w, hw, hkept⟩ := ih hkept (hinner _ hmember)
    exact ⟨part', w, .member hk hw, hkept⟩

end Places

/-- The document `k` holds what the document `j` of a program holds, as a whole and at each place in it. -/
structure KeptEverywhere (texts : String → Int → Prop) (j k : Json) : Prop where
  whole : Kept texts (.record .program) j k
  places : ∀ place v, j.At place v → ∃ part w, k.At place w ∧ Kept texts part v w

/-- An accepted document in which no key is repeated and the document of its program hold the same, at every place and
    up to the forms of integers and truth values. A text for an integer writes that integer, unless it is one of those
    that are taken for integers because of zeros in front. -/
theorem Program.document_kept {j : Json} {p : Program} (h : Schema.program j = .valid p)
    (hkeys : j.keysDiffer = true) :
    KeptEverywhere (fun s n => IntegerText s.toList n ∨ LooseIntegerText s.toList n) j p.toJson ∧
      ((∀ s ∈ j.texts, ∀ n, ¬ LooseIntegerText s.toList n) →
        KeptEverywhere (fun s n => IntegerText s.toList n) j p.toJson) := by
  have heverywhere : ∀ R : String → Int → Prop, j.TextsReadAs R → KeptEverywhere R j p.toJson := by
    intro R htexts
    have hwhole := Program.kept h htexts
    exact ⟨hwhole, fun place v hv => hwhole.at hkeys hv⟩
  refine ⟨heverywhere _ fun s _ n hs => Coercion.integerOfText_cases hs, fun hstrict => heverywhere _ ?_⟩
  exact fun s hmem n hs => (Coercion.integerOfText_cases hs).resolve_right (hstrict s hmem n)

/-! ## An order with its lines -/

/-- A document that leaves out what it can, in an order of its own, and gives its numbers in several forms. -/
def sparseDocument : Json :=
  .object [("namespaces", .array [.object [
    ("classes", .array [.object [("short_name", .string "Order"), ("private_types", .array [
      .object [("short_name", .string "Line"), ("kind", .string "class"), ("properties", .array [
        .object [("options", .object [("property_order", .string " +0_07.0 "), ("is_packed", .integer 0)]),
          ("name", .string "Kind"), ("type", .string "type_reference"),
          ("referenced_type", .object [("path", .string "Order.Kind"), ("namespace", .string "Shop")])]])],
      .object [("kind", .string "enum"), ("short_name", .string "Kind"), ("properties", .array [
        .object [("value", .number (.decimal ⟨true, 2, 0⟩)), ("name", .string "Old")],
        .object [("name", .string "New"), ("value", .bool true)]])]])]]),
    ("name", .string "Shop")]])]

/-- The program of that document. -/
def sparseProgram : Program :=
  ⟨[⟨"Shop", [{ name := "Order", nested := [
    .message { name := "Line", fields := [⟨"Kind", .reference ⟨"Shop", "Order.Kind"⟩, { tag := 7, packed := false }⟩] },
    .enumeration { name := "Kind", values := [⟨"Old", -2⟩, ⟨"New", 1⟩] }] }], []⟩]⟩

theorem sparseDocument_kept :
    Schema.program sparseDocument = .valid sparseProgram ∧ sparseDocument.keysDiffer = true ∧
      (∀ s ∈ sparseDocument.texts, ∀ n, ¬ LooseIntegerText s.toList n) ∧
      KeptEverywhere (fun s n => IntegerText s.toList n) sparseDocument sparseProgram.toJson := by
  have hprogram : Schema.program sparseDocument = .valid sparseProgram := rfl
  have hkeys : sparseDocument.keysDiffer = true := by decide
  have hstrict : ∀ s ∈ sparseDocument.texts, ∀ n, ¬ LooseIntegerText s.toList n := by
    have hplain : ∀ s ∈ sparseDocument.texts, ¬ (['_', '_'] <:+: s.toList ∨ '-' ∈ s.toList) := by decide
    exact fun s hs n h => hplain s hs h.underscores_or_minus
  exact ⟨hprogram, hkeys, hstrict, (Program.document_kept hprogram hkeys).2 hstrict⟩

/-- A document with a key twice. -/
def repeatedKey : Json :=
  .object [("namespaces", .array [.object [("name", .string "Shop")]]), ("namespaces", .array [])]

/-- A document with a text for a number that is no integer. -/
def looseDocument : Json :=
  .object [("namespaces", .array [.object [("name", .string "Shop"),
    ("enums", .array [.object [("short_name", .string "Status"),
      ("properties", .array [.object [("name", .string "Open"), ("value", .string "0-1")]])]])]])]

/-- The program that is made of it. -/
def looseProgram : Program :=
  ⟨[⟨"Shop", [], [{ name := "Status", values := [⟨"Open", -1⟩] }]⟩]⟩

/-- A namespace is lost if its list has the same key as a later one. And a text that writes no integer is accepted, and
    -1 is made of it. -/
theorem repeatedKey_and_looseDocument_not_kept :
    (Schema.program repeatedKey = .valid ⟨[]⟩ ∧
        repeatedKey.At [.key "namespaces", .index 0, .key "name"] (.string "Shop") ∧
        ¬ ∃ v, (Program.toJson ⟨[]⟩).At [.key "namespaces", .index 0, .key "name"] v) ∧
      Schema.program looseDocument = .valid looseProgram ∧ looseDocument.keysDiffer = true ∧
        ¬ KeptEverywhere (fun s n => IntegerText s.toList n) looseDocument looseProgram.toJson := by
  refine ⟨⟨rfl, ?_, ?_⟩, rfl, by decide, fun h => ?_⟩
  · exact .member List.mem_cons_self (.item rfl (.member List.mem_cons_self (.here _)))
  · rintro ⟨v, hv⟩
    cases hv with
    | member hmember hv =>
      cases List.mem_singleton.1 hmember
      cases hv with
      | item hitem _ => cases hitem
  · have hnamespace := (h.whole.of_record List.mem_cons_self rfl rfl).of_list
    have henumeration :=
      (hnamespace.of_record (List.mem_cons_of_mem _ (List.mem_cons_of_mem _ List.mem_cons_self)) rfl rfl).of_list
    have hvalue := (henumeration.of_record
      (List.mem_cons_of_mem _ (List.mem_cons_of_mem _ (List.mem_cons_of_mem _ List.mem_cons_self))) rfl rfl).of_list
    have hnumber := hvalue.of_record (List.mem_cons_of_mem _ List.mem_cons_self) rfl rfl
    cases hnumber with
    | integer hform =>
      cases hform with
      | text htext =>
        have hminus : IntegerText (['0'] ++ '-' :: ['1']) (-1) := htext
        exact absurd (hminus.isWhite_of_minus '0' List.mem_cons_self) (by decide)

end ProtoEmit
