/-
  JSON documents of programs, with every member written out.
-/

import ProtoEmit.Json.Basic
import ProtoEmit.Schema.Decode

namespace ProtoEmit

def Reference.toJson (r : Reference) : Json :=
  .object [("namespace", .string r.owner), ("path", .string r.path)]

def FieldOptions.toJson (o : FieldOptions) : Json :=
  .object
    [("label", .string o.label.keyword), ("property_order", .integer o.tag), ("is_packed", .bool o.packed)]

namespace FieldType

/-- The word for a type. -/
def word : FieldType → String
  | .scalar s => s.keyword
  | .reference _ => Schema.referenceWord

/-- The reference of a type, null for a scalar. -/
def referenceJson : FieldType → Json
  | .scalar _ => .null
  | .reference r => r.toJson

end FieldType

def Field.toJson (f : Field) : Json :=
  .object
    [("name", .string f.name), ("type", .string f.type.word), ("referenced_type", f.type.referenceJson),
      ("options", f.options.toJson)]

def EnumValue.toJson (v : EnumValue) : Json :=
  .object [("name", .string v.name), ("value", .integer v.number)]

def Enumeration.toJson (e : Enumeration) : Json :=
  .object
    [("kind", .string "enum"), ("short_name", .string e.name), ("original_name", .string e.origin),
      ("properties", .array (e.values.map EnumValue.toJson)), ("is_private", .bool e.isPrivate)]

mutual

def Message.toJson : Message → Json
  | ⟨name, origin, fields, nested, isPrivate⟩ =>
    .object
      [("kind", .string "class"), ("short_name", .string name), ("original_name", .string origin),
        ("properties", .array (fields.map Field.toJson)), ("private_types", .array (Declaration.toJsons nested)),
        ("is_private", .bool isPrivate)]
termination_by structural m => m

def Declaration.toJson : Declaration → Json
  | .message m => m.toJson
  | .enumeration e => e.toJson
termination_by structural d => d

def Declaration.toJsons : List Declaration → List Json
  | [] => []
  | d :: rest => d.toJson :: Declaration.toJsons rest
termination_by structural ds => ds

end

def Namespace.toJson (n : Namespace) : Json :=
  .object
    [("name", .string n.name), ("classes", .array (n.messages.map Message.toJson)),
      ("enums", .array (n.enumerations.map Enumeration.toJson))]

def Program.toJson (p : Program) : Json :=
  .object [("namespaces", .array (p.namespaces.map Namespace.toJson))]

end ProtoEmit
