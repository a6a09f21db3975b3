/-
  Programs: namespaces of messages and enumerations, as they are declared.

  A message holds fields and further declarations, nested to any depth. Everything keeps the order of its
  declaration; the emitter decides on the order of the output.
-/

namespace ProtoEmit

/-- The types of a field that hold a plain value. -/
inductive Scalar where
  | double
  | float
  | int32
  | int64
  | uint32
  | uint64
  | sint32
  | sint64
  | fixed32
  | fixed64
  | sfixed32
  | sfixed64
  | bool
  | string
  | bytes
deriving DecidableEq, Repr

/-- A link to a message or an enumeration: the namespace that owns it, and its dotted path there. -/
structure Reference where
  owner : String
  path : String
deriving DecidableEq, Repr

/-- The type of a field. -/
inductive FieldType where
  | scalar (s : Scalar)
  | reference (r : Reference)
deriving DecidableEq, Repr

/-- How many values a field holds. -/
inductive Label where
  | singular
  | repeated
deriving DecidableEq, Repr

/-- How a field is encoded. -/
structure FieldOptions where
  label : Label := .singular
  tag : Int
  packed : Bool := true
deriving DecidableEq, Repr

/-- A field of a message. -/
structure Field where
  name : String
  type : FieldType
  options : FieldOptions
deriving DecidableEq, Repr

/-- A named number of an enumeration. Two values with one number are aliases. -/
structure EnumValue where
  name : String
  number : Int
deriving DecidableEq, Repr

/-- An enumeration, with the full name of the type that it stands for. -/
structure Enumeration where
  name : String
  origin : String := ""
  values : List EnumValue := []
  isPrivate : Bool := false
deriving DecidableEq, Repr

mutual

/-- A message, with the full name of the type that it stands for. -/
structure Message where
  name : String
  origin : String := ""
  fields : List Field := []
  nested : List Declaration := []
  isPrivate : Bool := false

/-- A declaration of a type. -/
inductive Declaration where
  | message (m : Message)
  | enumeration (e : Enumeration)

end

/-- A group of types that go into one file and one package. -/
structure Namespace where
  name : String
  messages : List Message := []
  enumerations : List Enumeration := []

/-- A whole program. -/
structure Program where
  namespaces : List Namespace := []

namespace Scalar

/-- All scalar types, in the order in which they are listed. -/
def all : List Scalar :=
  [.double, .float, .int32, .int64, .uint32, .uint64, .sint32, .sint64, .fixed32, .fixed64, .sfixed32,
    .sfixed64, .bool, .string, .bytes]

/-- The keyword of a scalar type. -/
def keyword : Scalar → String
  | double => "double"
  | float => "float"
  | int32 => "int32"
  | int64 => "int64"
  | uint32 => "uint32"
  | uint64 => "uint64"
  | sint32 => "sint32"
  | sint64 => "sint64"
  | fixed32 => "fixed32"
  | fixed64 => "fixed64"
  | sfixed32 => "sfixed32"
  | sfixed64 => "sfixed64"
  | bool => "bool"
  | string => "string"
  | bytes => "bytes"

end Scalar

/-- The word for a label. -/
def Label.keyword : Label → String
  | .singular => "singular"
  | .repeated => "repeated"

namespace Declaration

def isEnumeration : Declaration → Bool
  | .message _ => false
  | .enumeration _ => true

def name : Declaration → String
  | .message m => m.name
  | .enumeration e => e.name

def origin : Declaration → String
  | .message m => m.origin
  | .enumeration e => e.origin

def isPrivate : Declaration → Bool
  | .message m => m.isPrivate
  | .enumeration e => e.isPrivate

end Declaration

/-- The types of a namespace that are not private: the enumerations, then the messages. -/
def Namespace.publicTypes (n : Namespace) : List Declaration :=
  (n.enumerations.map Declaration.enumeration ++ n.messages.map Declaration.message).filter fun d => !d.isPrivate

/-- The first namespace of a name. -/
def Program.get? (p : Program) (name : String) : Option Namespace :=
  p.namespaces.find? fun n => n.name == name

end ProtoEmit
