/-
  What can be wrong with a document, and where.

  Every issue has a place, as the keys and indexes that lead to it, and a cause with its code and its wording.
-/

namespace ProtoEmit

/-- One step into a document. -/
inductive Step where
  | key (k : String)
  | index (i : Nat)
deriving DecidableEq, Repr

/-- Why a part of a document is not acceptable. -/
inductive Cause where
  | invalidJson
  /-- Something else stands where an object is read field by field. -/
  | notObject
  /-- Something else stands where a tagged object is expected. -/
  | notNode
  | missing
  | unknownKey
  | notString
  | emptyString
  | notArray
  | wrongKind (expected : String)
  | notAmong (choices : List String)
  | noTag
  | unknownTag (tag : String)
  /-- A field of reference type without a reference. -/
  | noReference (field : String)
  /-- A field of scalar type with a reference. -/
  | scalarReference (field : String) (scalar : String)
  | notInteger
  | unreadableInteger
  | fractional
  | hugeInteger
  | notFinite
  | notBoolean
  | unreadableBoolean
  | notPath
deriving DecidableEq, Repr

/-- A cause and the place where it was found. -/
structure Issue where
  place : List Step
  cause : Cause
deriving DecidableEq, Repr

namespace Cause

/-- The code of a cause. -/
def code : Cause → String
  | invalidJson => "json_invalid"
  | notObject => "model_type"
  | notNode => "dict_type"
  | missing => "missing"
  | unknownKey => "extra_forbidden"
  | notString => "string_type"
  | emptyString => "string_too_short"
  | notArray => "list_type"
  | wrongKind _ => "literal_error"
  | notAmong _ => "enum"
  | noTag => "union_tag_not_found"
  | unknownTag _ => "union_tag_invalid"
  | noReference _ => "value_error"
  | scalarReference _ _ => "value_error"
  | notInteger => "int_type"
  | unreadableInteger => "int_parsing"
  | fractional => "int_from_float"
  | hugeInteger => "int_parsing_size"
  | notFinite => "finite_number"
  | notBoolean => "bool_type"
  | unreadableBoolean => "bool_parsing"
  | notPath => "path_type"

/-- Texts in apostrophes, with commas between them and `or` before the last. -/
def alternatives : List String → String
  | [] => ""
  | [a] => "'" ++ a ++ "'"
  | [a, b] => "'" ++ a ++ "' or '" ++ b ++ "'"
  | a :: rest => "'" ++ a ++ "', " ++ alternatives rest

/-- The wording of a cause; a text that is no JSON at all has none. -/
def message? : Cause → Option String
  | invalidJson => none
  | notObject => some "Input should be an object"
  | notNode => some "Input should be an object"
  | missing => some "Field required"
  | unknownKey => some "Extra inputs are not permitted"
  | notString => some "Input should be a valid string"
  | emptyString => some "String should have at least 1 character"
  | notArray => some "Input should be a valid array"
  | wrongKind expected => some ("Input should be " ++ alternatives [expected])
  | notAmong choices => some ("Input should be " ++ alternatives choices)
  | noTag => some "Unable to extract tag using discriminator 'kind'"
  | unknownTag tag =>
    some ("Input tag '" ++ tag ++ "' found using 'kind' does not match any of the expected tags: 'class', 'enum'")
  | noReference field => some ("Value error, Field '" ++ field ++ "' references no type")
  | scalarReference field scalar =>
    some ("Value error, Field '" ++ field ++ "' of scalar type '" ++ scalar ++ "' cannot reference another type")
  | notInteger => some "Input should be a valid integer"
  | unreadableInteger => some "Input should be a valid integer, unable to parse string as an integer"
  | fractional => some "Input should be a valid integer, got a number with a fractional part"
  | hugeInteger => some "Unable to parse input string as an integer, exceeded maximum size"
  | notFinite => some "Input should be a finite number"
  | notBoolean => some "Input should be a valid boolean"
  | unreadableBoolean => some "Input should be a valid boolean, unable to interpret input"
  | notPath => some "Input is not a valid path for <class 'pathlib.Path'>"

end Cause

end ProtoEmit
