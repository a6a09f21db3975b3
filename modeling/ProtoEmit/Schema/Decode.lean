/-
  Programs out of JSON documents.

  An object is read field by field, and the issues of its fields come in the order of the fields, those of
  unknown keys last. What a field is allowed to be beyond its shape is looked at only if there is no other issue.
-/

import ProtoEmit.Json.Reader
import ProtoEmit.Json.Spelling
import ProtoEmit.Schema.Basic
import ProtoEmit.Schema.Coercion

namespace ProtoEmit

/-- Reads a part of a document. -/
abbrev Decoder (α : Type) := Json → Checked α

namespace Decoder

variable {α : Type}

def string : Decoder String
  | .string s => .valid s
  | _ => .fail .notString

/-- A text that is not empty. -/
def name : Decoder String
  | .string s => if s.isEmpty then .fail .emptyString else .valid s
  | _ => .fail .notString

def integer : Decoder Int
  | .integer n => .valid n
  | .bool b => .valid (if b then 1 else 0)
  | .number x => Coercion.integerOfNumber x
  | .string s => Coercion.integerOfText s
  | _ => .fail .notInteger

def bool : Decoder Bool
  | .bool b => .valid b
  | .integer n => Coercion.boolOfInteger n
  | .number x => Coercion.boolOfNumber x
  | .string s => Coercion.boolOfText s
  | _ => .fail .notBoolean

/-- One of the given words, and what it stands for. -/
def choice (choices : List (String × α)) : Decoder α
  | .string s =>
    match choices.lookup s with
    | some a => .valid a
    | none => .fail (.notAmong (choices.map (·.1)))
  | _ => .fail (.notAmong (choices.map (·.1)))

/-- Null, or what another decoder reads. -/
def nullable (d : Decoder α) : Decoder (Option α)
  | .null => .valid none
  | j => (d j).map some

def list (d : Decoder α) : Decoder (List α)
  | .array items => Checked.itemsFrom d 0 items
  | _ => .fail .notArray

/-- The members of an object. -/
abbrev Members := List (String × Json)

def object (read : Members → Checked α) : Decoder α
  | .object members => read members
  | _ => .fail .notObject

/-- A member that must be there. -/
def required (key : String) (d : Decoder α) (members : Members) : Checked α :=
  match Json.lookup key members with
  | some v => (d v).under (.key key)
  | none => .invalid [⟨[.key key], .missing⟩]

/-- A member with a value to fall back on. -/
def optional (key : String) (fallback : α) (d : Decoder α) (members : Members) : Checked α :=
  match Json.lookup key members with
  | some v => (d v).under (.key key)
  | none => .valid fallback

/-- There are no members with other keys than these. -/
def onlyKeys (keys : List String) (members : Members) : Checked Unit :=
  match (Json.distinctKeys members).filter fun k => !keys.contains k with
  | [] => .valid ()
  | unknown => .invalid (unknown.map fun k => ⟨[.key k], .unknownKey⟩)

/-- The member that names the kind of a type has that one value, if it is there. -/
def kind (expected : String) (members : Members) : Checked Unit :=
  optional "kind" () (fun
    | .string s => if s = expected then .valid () else .fail (.wrongKind expected)
    | _ => .fail (.wrongKind expected)) members

end Decoder

namespace Schema

def reference : Decoder Reference :=
  Decoder.object fun ms =>
    Reference.mk <$> Decoder.required "namespace" Decoder.string ms
      <*> Decoder.required "path" Decoder.string ms
      <* Decoder.onlyKeys ["namespace", "path"] ms

def label : Decoder Label :=
  Decoder.choice [("singular", .singular), ("repeated", .repeated)]

def fieldOptions : Decoder FieldOptions :=
  Decoder.object fun ms =>
    FieldOptions.mk <$> Decoder.optional "label" .singular label ms
      <*> Decoder.required "property_order" Decoder.integer ms
      <*> Decoder.optional "is_packed" true Decoder.bool ms
      <* Decoder.onlyKeys ["label", "property_order", "is_packed"] ms

/-- The word for the type of a field that refers to another type. -/
def referenceWord : String := "type_reference"

/-- The word of a field's type: a scalar, or none for a reference. -/
def typeWord : Decoder (Option Scalar) :=
  Decoder.choice (Scalar.all.map (fun s => (s.keyword, some s)) ++ [(referenceWord, none)])

/-- A field refers to a type exactly if its type says so. -/
def fieldType (field : String) : Option Scalar → Option Reference → Checked FieldType
  | none, some r => .valid (.reference r)
  | none, none => .fail (.noReference field)
  | some s, none => .valid (.scalar s)
  | some s, some _ => .fail (.scalarReference field s.keyword)

def field : Decoder Field :=
  Decoder.object fun ms =>
    let parts : Checked (String × Option Scalar × Option Reference × FieldOptions) :=
      (fun n t r o => (n, t, r, o)) <$> Decoder.required "name" Decoder.name ms
        <*> Decoder.required "type" typeWord ms
        <*> Decoder.optional "referenced_type" none (Decoder.nullable reference) ms
        <*> Decoder.required "options" fieldOptions ms
        <* Decoder.onlyKeys ["name", "type", "referenced_type", "options"] ms
    parts.bind fun (n, t, r, o) => (fieldType n t r).map fun type => ⟨n, type, o⟩

def enumValue : Decoder EnumValue :=
  Decoder.object fun ms =>
    EnumValue.mk <$> Decoder.required "name" Decoder.string ms
      <*> Decoder.required "value" Decoder.integer ms
      <* Decoder.onlyKeys ["name", "value"] ms

/-- An enumeration out of the members of its object. -/
def enumerationOf (ms : Decoder.Members) : Checked Enumeration :=
  (fun _ name origin values isPrivate => ⟨name, origin, values, isPrivate⟩)
    <$> Decoder.kind "enum" ms
    <*> Decoder.required "short_name" Decoder.string ms
    <*> Decoder.optional "original_name" "" Decoder.string ms
    <*> Decoder.optional "properties" [] (Decoder.list enumValue) ms
    <*> Decoder.optional "is_private" false Decoder.bool ms
    <* Decoder.onlyKeys ["kind", "short_name", "original_name", "properties", "is_private"] ms

def enumeration : Decoder Enumeration :=
  Decoder.object enumerationOf

/-- A message out of the members of its object and its nested declarations. -/
def messageOf (ms : Decoder.Members) (nested : Checked (List Declaration)) : Checked Message :=
  (fun _ name origin fields nested isPrivate => ⟨name, origin, fields, nested, isPrivate⟩)
    <$> Decoder.kind "class" ms
    <*> Decoder.required "short_name" Decoder.string ms
    <*> Decoder.optional "original_name" "" Decoder.string ms
    <*> Decoder.optional "properties" [] (Decoder.list field) ms
    <*> nested.under (.key "private_types")
    <*> Decoder.optional "is_private" false Decoder.bool ms
    <* Decoder.onlyKeys ["kind", "short_name", "original_name", "properties", "private_types", "is_private"] ms

mutual

/-- The nested declarations of a message: what its last member of that key holds. -/
def nestedMember : List (String × Json) → Option (Checked (List Declaration))
  | [] => none
  | (k, v) :: rest =>
    match nestedMember rest with
    | some found => some found
    | none => if k = "private_types" then some (declarations v) else none
termination_by structural ms => ms

def declarations : Decoder (List Declaration)
  | .array items => declarationsFrom 0 items
  | _ => .fail .notArray
termination_by structural j => j

def declarationsFrom (i : Nat) : List Json → Checked (List Declaration)
  | [] => .valid []
  | v :: rest => List.cons <$> (declaration v).under (.index i) <*> declarationsFrom (i + 1) rest
termination_by structural vs => vs

/-- A declaration is read as the kind of type that its tag names. -/
def declaration : Decoder Declaration
  | .object ms =>
    match Json.lookup "kind" ms with
    | none => .fail .noTag
    | some tag =>
      if tag.isText "class" then
        ((messageOf ms ((nestedMember ms).getD (.valid []))).map .message).under (.key "class")
      else if tag.isText "enum" then
        ((enumerationOf ms).map .enumeration).under (.key "enum")
      else .fail (.unknownTag tag.spelling)
  | _ => .fail .notNode
termination_by structural j => j

end

def message : Decoder Message :=
  Decoder.object fun ms => messageOf ms ((nestedMember ms).getD (.valid []))

def namespaceDecl : Decoder Namespace :=
  Decoder.object fun ms =>
    Namespace.mk <$> Decoder.required "name" Decoder.name ms
      <*> Decoder.optional "classes" [] (Decoder.list message) ms
      <*> Decoder.optional "enums" [] (Decoder.list enumeration) ms
      <* Decoder.onlyKeys ["name", "classes", "enums"] ms

def program : Decoder Program :=
  Decoder.object fun ms =>
    Program.mk <$> Decoder.optional "namespaces" [] (Decoder.list namespaceDecl) ms
      <* Decoder.onlyKeys ["namespaces"] ms

/-- Reads a text as a document of some kind. -/
def ofText {α : Type} (d : Decoder α) (text : String) : Checked α :=
  match Json.read? text with
  | some j => d j
  | none => .fail .invalidJson

end Schema

end ProtoEmit
