/-
  When decoding succeeds.

  A check of several parts succeeds exactly if the check of each part does, so every decoder has one lemma that says
  what an accepted document looks like and what is made of it. The lemmas are read in both directions: from left to
  right they say what is known of an accepted document, from right to left that a document is accepted.
-/

import Mathlib.Data.List.Forall2
import ProtoEmit.Schema.Encode

namespace ProtoEmit

variable {α β : Type}

/-! ## Checks -/

namespace Checked

theorem map_eq_valid_iff {f : α → β} {x : Checked α} {b : β} :
    x.map f = .valid b ↔ ∃ a, x = .valid a ∧ f a = b := by
  cases x <;> simp [map]

theorem seq_eq_valid_iff {f : Checked (α → β)} {x : Checked α} {b : β} :
    f <*> x = .valid b ↔ ∃ g, f = .valid g ∧ ∃ a, x = .valid a ∧ g a = b := by
  show seq f (fun _ => x) = .valid b ↔ _
  cases f <;> cases x <;> simp [seq, map]

theorem functor_map_eq_valid_iff {f : α → β} {x : Checked α} {b : β} :
    f <$> x = .valid b ↔ ∃ a, x = .valid a ∧ f a = b :=
  map_eq_valid_iff

theorem seqLeft_eq_valid_iff {x : Checked α} {y : Checked β} {a : α} :
    x <* y = .valid a ↔ x = .valid a ∧ ∃ b, y = .valid b := by
  show seq (map (Function.const β) x) (fun _ => y) = .valid a ↔ _
  cases x <;> cases y <;> simp [seq, map]

theorem under_eq_valid_iff {step : Step} {x : Checked α} {a : α} : x.under step = .valid a ↔ x = .valid a := by
  cases x <;> simp [under]

theorem bind_eq_valid_iff {x : Checked α} {f : α → Checked β} {b : β} :
    x.bind f = .valid b ↔ ∃ a, x = .valid a ∧ f a = .valid b := by
  cases x <;> simp [bind]

/-- The items of a list are checked one by one. -/
theorem itemsFrom_eq_valid_iff {check : β → Checked α} {i : Nat} {items : List β} {as : List α} :
    itemsFrom check i items = .valid as ↔ List.Forall₂ (fun item a => check item = .valid a) items as := by
  induction items generalizing i as with
  | nil => cases as <;> simp [itemsFrom]
  | cons item items ih =>
    rw [itemsFrom, seq_eq_valid_iff]
    constructor
    · rintro ⟨g, hitem, rest, hrest, rfl⟩
      obtain ⟨a, ha, rfl⟩ := functor_map_eq_valid_iff.1 hitem
      exact .cons (under_eq_valid_iff.1 ha) (ih.1 hrest)
    · intro h
      cases h with
      | @cons _ a _ rest ha hrest =>
        exact ⟨_, functor_map_eq_valid_iff.2 ⟨a, under_eq_valid_iff.2 ha, rfl⟩, rest, ih.2 hrest, rfl⟩

end Checked

/-- Of two lists that are related item by item, each item of the second has a partner in the first. -/
theorem exists_partner_of_mem {R : α → β → Prop} {as : List α} {bs : List β} (h : List.Forall₂ R as bs)
    {b : β} (hb : b ∈ bs) : ∃ a ∈ as, R a b := by
  induction h with
  | nil => cases hb
  | cons hfirst _ ih =>
    rcases List.mem_cons.1 hb with rfl | hb
    · exact ⟨_, List.mem_cons_self, hfirst⟩
    · obtain ⟨a, ha, hab⟩ := ih hb
      exact ⟨a, List.mem_cons_of_mem _ ha, hab⟩

/-! ## Members -/

namespace Decoder

variable {d : Decoder α} {key : String} {ms : Members} {a : α}

/-- `d` makes `a` of the member of a key, or there is no such member and `a` is there to fall back on. -/
def Takes (key : String) (fallback : Option α) (d : Decoder α) (ms : Members) (a : α) : Prop :=
  (∃ v, Json.lookup key ms = some v ∧ d v = .valid a) ∨ Json.lookup key ms = none ∧ fallback = some a

theorem Takes.of_lookup {fallback : Option α} {v : Json} (hlookup : Json.lookup key ms = some v)
    (hv : d v = .valid a) : Takes key fallback d ms a :=
  .inl ⟨v, hlookup, hv⟩

theorem required_eq_valid_iff : required key d ms = .valid a ↔ Takes key none d ms a := by
  unfold required Takes
  cases Json.lookup key ms with
  | none => simp
  | some v => simp [Checked.under_eq_valid_iff]

theorem optional_eq_valid_iff {fallback : α} :
    optional key fallback d ms = .valid a ↔ Takes key (some fallback) d ms a := by
  unfold optional Takes
  cases Json.lookup key ms with
  | none => simp
  | some v => simp [Checked.under_eq_valid_iff]

/-- There are no keys but the given ones, wherever they stand. -/
theorem onlyKeys_eq_valid_iff {keys : List String} :
    (∃ u, onlyKeys keys ms = .valid u) ↔ ∀ member ∈ ms, member.1 ∈ keys := by
  have hunknown : (Json.distinctKeys ms).filter (fun k => !keys.contains k) = [] ↔ ∀ member ∈ ms, member.1 ∈ keys := by
    rw [List.filter_eq_nil_iff]
    simp [Json.distinctKeys]
  rw [← hunknown, onlyKeys]
  cases (Json.distinctKeys ms).filter fun k => !keys.contains k <;> simp

/-- The kind of a type may be left out, and is the expected one if it is there. -/
theorem kind_eq_valid_iff {expected : String} {u : Unit} :
    kind expected ms = .valid u ↔ ∀ v, Json.lookup "kind" ms = some v → v = .string expected := by
  rw [kind, optional_eq_valid_iff, Takes]
  cases Json.lookup "kind" ms with
  | none => simp
  | some v => cases v <;> simp [Checked.fail]

theorem object_eq_valid_iff {read : Members → Checked α} {j : Json} :
    object read j = .valid a ↔ ∃ ms, j = .object ms ∧ read ms = .valid a := by
  cases j <;> simp [object, Checked.fail]

theorem list_eq_valid_iff {j : Json} {as : List α} :
    list d j = .valid as ↔ ∃ items, j = .array items ∧ List.Forall₂ (fun item a => d item = .valid a) items as := by
  cases j <;> simp [list, Checked.fail, Checked.itemsFrom_eq_valid_iff]

theorem nullable_eq_valid_none_iff {j : Json} : nullable d j = .valid none ↔ j = .null := by
  cases j <;> simp [nullable, Checked.map_eq_valid_iff]

theorem nullable_eq_valid_some_iff {j : Json} : nullable d j = .valid (some a) ↔ j ≠ .null ∧ d j = .valid a := by
  cases j <;> simp [nullable, Checked.map_eq_valid_iff]

theorem string_eq_valid_iff {j : Json} {s : String} : string j = .valid s ↔ j = .string s := by
  cases j <;> simp [string, Checked.fail]

theorem name_eq_valid_iff {j : Json} {s : String} : name j = .valid s ↔ j = .string s ∧ s ≠ "" := by
  cases j with
  | string t =>
    simp only [name, String.isEmpty_iff, Checked.fail, Json.string.injEq]
    split
    · rename_i hempty
      refine iff_of_false (fun h => by cases h) ?_
      rintro ⟨rfl, hne⟩
      exact hne hempty
    · rename_i hne
      rw [Checked.valid.injEq]
      exact ⟨fun h => ⟨h, h ▸ hne⟩, fun h => h.1⟩
  | _ => simp [name, Checked.fail]

/-- A word is accepted if it is among the choices, and stands for what is listed with it. -/
theorem exists_mem_of_choice {choices : List (String × α)} {j : Json} (h : choice choices j = .valid a) :
    ∃ s, j = .string s ∧ (s, a) ∈ choices := by
  cases j with
  | string s =>
    cases hs : choices.lookup s with
    | none => simp [choice, hs, Checked.fail] at h
    | some b =>
      obtain ⟨before, after, hchoices, -⟩ := List.lookup_eq_some_iff.1 hs
      simp only [choice, hs, Checked.valid.injEq] at h
      exact ⟨s, rfl, by simp [hchoices, h]⟩
  | _ => simp [choice, Checked.fail] at h

end Decoder

/-! ## Fields and values -/

namespace Schema

open Checked Decoder

theorem label_eq_valid_iff {j : Json} {l : Label} : label j = .valid l ↔ j = .string l.keyword := by
  constructor
  · intro h
    obtain ⟨s, rfl, hmem⟩ := exists_mem_of_choice h
    simp only [List.mem_cons, Prod.mk.injEq, List.not_mem_nil, or_false] at hmem
    obtain ⟨rfl, rfl⟩ | ⟨rfl, rfl⟩ := hmem <;> rfl
  · rintro rfl
    cases l <;> rfl

theorem reference_eq_valid_iff {j : Json} {r : Reference} :
    reference j = .valid r ↔ ∃ ms, j = .object ms ∧ (∀ member ∈ ms, member.1 ∈ ["namespace", "path"]) ∧
      Takes "namespace" none Decoder.string ms r.owner ∧ Takes "path" none Decoder.string ms r.path := by
  -- members are decoded from the first to the last, so the first is the innermost of what is taken apart
  simp only [reference, object_eq_valid_iff, seqLeft_eq_valid_iff, seq_eq_valid_iff, functor_map_eq_valid_iff,
    onlyKeys_eq_valid_iff, required_eq_valid_iff]
  constructor
  · rintro ⟨ms, rfl, ⟨_, ⟨owner, howner, rfl⟩, path, hpath, rfl⟩, hkeys⟩
    exact ⟨ms, rfl, hkeys, howner, hpath⟩
  · rintro ⟨ms, rfl, hkeys, howner, hpath⟩
    exact ⟨ms, rfl, ⟨_, ⟨_, howner, rfl⟩, _, hpath, rfl⟩, hkeys⟩

theorem fieldOptions_eq_valid_iff {j : Json} {o : FieldOptions} :
    fieldOptions j = .valid o ↔ ∃ ms, j = .object ms ∧
      (∀ member ∈ ms, member.1 ∈ ["label", "property_order", "is_packed"]) ∧
      Takes "label" (some .singular) label ms o.label ∧ Takes "property_order" none Decoder.integer ms o.tag ∧
      Takes "is_packed" (some true) Decoder.bool ms o.packed := by
  simp only [fieldOptions, object_eq_valid_iff, seqLeft_eq_valid_iff, seq_eq_valid_iff, functor_map_eq_valid_iff,
    onlyKeys_eq_valid_iff, required_eq_valid_iff, optional_eq_valid_iff]
  constructor
  · rintro ⟨ms, rfl, ⟨_, ⟨_, ⟨label, hlabel, rfl⟩, tag, htag, rfl⟩, packed, hpacked, rfl⟩, hkeys⟩
    exact ⟨ms, rfl, hkeys, hlabel, htag, hpacked⟩
  · rintro ⟨ms, rfl, hkeys, hlabel, htag, hpacked⟩
    exact ⟨ms, rfl, ⟨_, ⟨_, ⟨_, hlabel, rfl⟩, _, htag, rfl⟩, _, hpacked, rfl⟩, hkeys⟩

end Schema

theorem Declaration.toJsons_eq_map (ds : List Declaration) : toJsons ds = ds.map toJson := by
  induction ds with
  | nil => rfl
  | cons d ds ih => rw [toJsons, ih, List.map_cons]

/-- The scalar of a type, or else its reference. -/
def FieldType.parts : FieldType → Option Scalar × Option Reference
  | .scalar s => (some s, none)
  | .reference r => (none, some r)

namespace Schema

open Checked Decoder

/-- A type is either a scalar or a reference, never both and never neither. -/
theorem fieldType_eq_valid_iff {name : String} {t : Option Scalar} {r : Option Reference} {type : FieldType} :
    fieldType name t r = .valid type ↔ (t, r) = type.parts := by
  cases t <;> cases r <;> cases type <;> simp [fieldType, FieldType.parts, Checked.fail]

theorem typeWord_eq_valid_iff {j : Json} {type : FieldType} :
    typeWord j = .valid type.parts.1 ↔ j = .string type.word := by
  constructor
  · intro h
    obtain ⟨s, rfl, hmem⟩ := exists_mem_of_choice h
    cases type with
    | scalar t =>
      have hs : t ∈ Scalar.all ∧ s = t.keyword := by simpa [FieldType.parts, eq_comm] using hmem
      rw [hs.2]
      rfl
    | reference r =>
      have hs : s = referenceWord := by simpa [FieldType.parts] using hmem
      rw [hs]
      rfl
  · rintro rfl
    cases type with
    | scalar t => cases t <;> rfl
    | reference r => rfl

theorem field_eq_valid_iff {j : Json} {f : Field} :
    field j = .valid f ↔ ∃ ms, j = .object ms ∧
      (∀ member ∈ ms, member.1 ∈ ["name", "type", "referenced_type", "options"]) ∧
      Takes "name" none Decoder.name ms f.name ∧ Takes "type" none typeWord ms f.type.parts.1 ∧
      Takes "referenced_type" (some none) (nullable reference) ms f.type.parts.2 ∧
      Takes "options" none fieldOptions ms f.options := by
  simp only [field, object_eq_valid_iff, bind_eq_valid_iff, seqLeft_eq_valid_iff, seq_eq_valid_iff,
    functor_map_eq_valid_iff, map_eq_valid_iff, onlyKeys_eq_valid_iff, required_eq_valid_iff, optional_eq_valid_iff,
    fieldType_eq_valid_iff]
  -- the type is put together only after all members have been accepted
  constructor
  · rintro ⟨ms, rfl, _, ⟨⟨_, ⟨_, ⟨_, ⟨name, hname, rfl⟩, t, ht, rfl⟩, r, hr, rfl⟩, options, hoptions, rfl⟩, hkeys⟩,
      type, hparts, rfl⟩
    obtain ⟨rfl, rfl⟩ := Prod.mk.inj hparts
    exact ⟨ms, rfl, hkeys, hname, ht, hr, hoptions⟩
  · rintro ⟨ms, rfl, hkeys, hname, ht, hr, hoptions⟩
    exact ⟨ms, rfl, _, ⟨⟨_, ⟨_, ⟨_, ⟨_, hname, rfl⟩, _, ht, rfl⟩, _, hr, rfl⟩, _, hoptions, rfl⟩, hkeys⟩,
      _, rfl, rfl⟩

theorem enumValue_eq_valid_iff {j : Json} {v : EnumValue} :
    enumValue j = .valid v ↔ ∃ ms, j = .object ms ∧ (∀ member ∈ ms, member.1 ∈ ["name", "value"]) ∧
      Takes "name" none Decoder.string ms v.name ∧ Takes "value" none Decoder.integer ms v.number := by
  simp only [enumValue, object_eq_valid_iff, seqLeft_eq_valid_iff, seq_eq_valid_iff, functor_map_eq_valid_iff,
    onlyKeys_eq_valid_iff, required_eq_valid_iff]
  constructor
  · rintro ⟨ms, rfl, ⟨_, ⟨name, hname, rfl⟩, number, hnumber, rfl⟩, hkeys⟩
    exact ⟨ms, rfl, hkeys, hname, hnumber⟩
  · rintro ⟨ms, rfl, hkeys, hname, hnumber⟩
    exact ⟨ms, rfl, ⟨_, ⟨_, hname, rfl⟩, _, hnumber, rfl⟩, hkeys⟩

/-! ## Types -/

theorem enumeration_eq_valid_iff {j : Json} {e : Enumeration} :
    enumeration j = .valid e ↔ ∃ ms, j = .object ms ∧
      (∀ member ∈ ms, member.1 ∈ ["kind", "short_name", "original_name", "properties", "is_private"]) ∧
      (∀ v, Json.lookup "kind" ms = some v → v = .string "enum") ∧
      Takes "short_name" none Decoder.string ms e.name ∧ Takes "original_name" (some "") Decoder.string ms e.origin ∧
      Takes "properties" (some []) (Decoder.list enumValue) ms e.values ∧
      Takes "is_private" (some false) Decoder.bool ms e.isPrivate := by
  simp only [enumeration, enumerationOf, object_eq_valid_iff, seqLeft_eq_valid_iff, seq_eq_valid_iff,
    functor_map_eq_valid_iff, onlyKeys_eq_valid_iff, required_eq_valid_iff, optional_eq_valid_iff, kind_eq_valid_iff]
  constructor
  · rintro ⟨ms, rfl, ⟨_, ⟨_, ⟨_, ⟨_, ⟨_, hkind, rfl⟩, name, hname, rfl⟩, origin, horigin, rfl⟩, values, hvalues, rfl⟩,
      isPrivate, hprivate, rfl⟩, hkeys⟩
    exact ⟨ms, rfl, hkeys, hkind, hname, horigin, hvalues, hprivate⟩
  · rintro ⟨ms, rfl, hkeys, hkind, hname, horigin, hvalues, hprivate⟩
    exact ⟨ms, rfl, ⟨_, ⟨_, ⟨_, ⟨_, ⟨(), hkind, rfl⟩, _, hname, rfl⟩, _, horigin, rfl⟩, _, hvalues, rfl⟩,
      _, hprivate, rfl⟩, hkeys⟩

theorem declarationsFrom_eq_itemsFrom (i : Nat) (items : List Json) :
    declarationsFrom i items = itemsFrom declaration i items := by
  induction items generalizing i with
  | nil => rfl
  | cons item items ih => rw [declarationsFrom, itemsFrom, ih]

theorem declarations_eq_list (j : Json) : declarations j = Decoder.list declaration j := by
  cases j with
  | array items => exact declarationsFrom_eq_itemsFrom 0 items
  | _ => rfl

/-- Nested types are looked up as every other member is. -/
theorem nestedMember_eq (ms : Members) : nestedMember ms = (Json.lookup "private_types" ms).map declarations := by
  induction ms with
  | nil => rfl
  | cons member ms ih =>
    obtain ⟨key, v⟩ := member
    rw [nestedMember, ih, Json.lookup]
    cases Json.lookup "private_types" ms with
    | some w => rfl
    | none => by_cases hkey : key = "private_types" <;> simp [hkey]

theorem nested_eq_valid_iff {ms : Members} {ds : List Declaration} :
    (nestedMember ms).getD (.valid []) = .valid ds ↔
      Takes "private_types" (some []) (Decoder.list declaration) ms ds := by
  rw [nestedMember_eq, Takes]
  cases Json.lookup "private_types" ms with
  | none => simp
  | some v => simp [declarations_eq_list]

theorem message_eq_valid_iff {j : Json} {m : Message} :
    message j = .valid m ↔ ∃ ms, j = .object ms ∧
      (∀ member ∈ ms,
        member.1 ∈ ["kind", "short_name", "original_name", "properties", "private_types", "is_private"]) ∧
      (∀ v, Json.lookup "kind" ms = some v → v = .string "class") ∧
      Takes "short_name" none Decoder.string ms m.name ∧ Takes "original_name" (some "") Decoder.string ms m.origin ∧
      Takes "properties" (some []) (Decoder.list field) ms m.fields ∧
      Takes "private_types" (some []) (Decoder.list declaration) ms m.nested ∧
      Takes "is_private" (some false) Decoder.bool ms m.isPrivate := by
  simp only [message, messageOf, object_eq_valid_iff, seqLeft_eq_valid_iff, seq_eq_valid_iff,
    functor_map_eq_valid_iff, under_eq_valid_iff, onlyKeys_eq_valid_iff, required_eq_valid_iff, optional_eq_valid_iff,
    kind_eq_valid_iff, nested_eq_valid_iff]
  constructor
  · rintro ⟨ms, rfl, ⟨_, ⟨_, ⟨_, ⟨_, ⟨_, ⟨_, hkind, rfl⟩, name, hname, rfl⟩, origin, horigin, rfl⟩, fields, hfields,
      rfl⟩, nested, hnested, rfl⟩, isPrivate, hprivate, rfl⟩, hkeys⟩
    exact ⟨ms, rfl, hkeys, hkind, hname, horigin, hfields, hnested, hprivate⟩
  · obtain ⟨name, origin, fields, nested, isPrivate⟩ := m
    rintro ⟨ms, rfl, hkeys, hkind, hname, horigin, hfields, hnested, hprivate⟩
    exact ⟨ms, rfl, ⟨_, ⟨_, ⟨_, ⟨_, ⟨_, ⟨(), hkind, rfl⟩, _, hname, rfl⟩, _, horigin, rfl⟩, _, hfields, rfl⟩,
      _, hnested, rfl⟩, _, hprivate, rfl⟩, hkeys⟩

theorem isText_iff {j : Json} {s : String} : j.isText s = true ↔ j = .string s := by
  cases j <;> simp [Json.isText]

/-- A nested type is read as the kind of type that it says to be, which it must say. -/
theorem declaration_eq_valid_iff {j : Json} {d : Declaration} :
    declaration j = .valid d ↔
      (j.get? "kind" = some (.string "class") ∧ ∃ m, message j = .valid m ∧ .message m = d) ∨
      (j.get? "kind" = some (.string "enum") ∧ ∃ e, enumeration j = .valid e ∧ .enumeration e = d) := by
  cases j with
  | object ms =>
    rw [declaration, Json.get?]
    cases hkind : Json.lookup "kind" ms with
    | none => simp [Checked.fail]
    | some tag =>
      -- once the kind is known, the members are those of that kind of type
      by_cases hclass : tag = .string "class"
      · simp [hclass, Json.isText, message, Decoder.object, under_eq_valid_iff, map_eq_valid_iff]
      · by_cases henum : tag = .string "enum"
        · simp [henum, Json.isText, enumeration, Decoder.object, under_eq_valid_iff, map_eq_valid_iff]
        · simp [hclass, henum, isText_iff, Checked.fail]
  | _ => simp [declaration, Json.get?, Checked.fail]

/-! ## Namespaces and programs -/

theorem namespaceDecl_eq_valid_iff {j : Json} {n : Namespace} :
    namespaceDecl j = .valid n ↔ ∃ ms, j = .object ms ∧ (∀ member ∈ ms, member.1 ∈ ["name", "classes", "enums"]) ∧
      Takes "name" none Decoder.name ms n.name ∧ Takes "classes" (some []) (Decoder.list message) ms n.messages ∧
      Takes "enums" (some []) (Decoder.list enumeration) ms n.enumerations := by
  simp only [namespaceDecl, object_eq_valid_iff, seqLeft_eq_valid_iff, seq_eq_valid_iff, functor_map_eq_valid_iff,
    onlyKeys_eq_valid_iff, required_eq_valid_iff, optional_eq_valid_iff]
  constructor
  · rintro ⟨ms, rfl, ⟨_, ⟨_, ⟨name, hname, rfl⟩, messages, hmessages, rfl⟩, enumerations, henumerations, rfl⟩, hkeys⟩
    exact ⟨ms, rfl, hkeys, hname, hmessages, henumerations⟩
  · rintro ⟨ms, rfl, hkeys, hname, hmessages, henumerations⟩
    exact ⟨ms, rfl, ⟨_, ⟨_, ⟨_, hname, rfl⟩, _, hmessages, rfl⟩, _, henumerations, rfl⟩, hkeys⟩

theorem program_eq_valid_iff {j : Json} {p : Program} :
    program j = .valid p ↔ ∃ ms, j = .object ms ∧ (∀ member ∈ ms, member.1 ∈ ["namespaces"]) ∧
      Takes "namespaces" (some []) (Decoder.list namespaceDecl) ms p.namespaces := by
  simp only [program, object_eq_valid_iff, seqLeft_eq_valid_iff, functor_map_eq_valid_iff, onlyKeys_eq_valid_iff,
    optional_eq_valid_iff]
  constructor
  · rintro ⟨ms, rfl, ⟨namespaces, hnamespaces, rfl⟩, hkeys⟩
    exact ⟨ms, rfl, hkeys, hnamespaces⟩
  · rintro ⟨ms, rfl, hkeys, hnamespaces⟩
    exact ⟨ms, rfl, ⟨_, hnamespaces, rfl⟩, hkeys⟩

end Schema

end ProtoEmit
