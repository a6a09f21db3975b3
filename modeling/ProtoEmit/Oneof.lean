/-
  The alternatives of a message.

  A nested enumeration of a fixed name lists the fields that exclude each other. It is a mark and not a type of
  its own: the fields that it names form the group, in its order, and it is left out. Of several such marks only
  the first one names fields.
-/

import ProtoEmit.Schema.Basic

namespace ProtoEmit

/-- The name of the enumeration that marks a group. -/
def oneofMark : String := "MessageOneofCase"

/-- Whether a declaration is a mark. -/
def Declaration.isMark (d : Declaration) : Bool :=
  d.isEnumeration && d.name == oneofMark

/-- Takes the first field of a name out of a list. -/
def takeField (name : String) : List Field → Option (Field × List Field)
  | [] => none
  | f :: rest =>
    if f.name = name then some (f, rest)
    else (takeField name rest).map fun (g, others) => (g, f :: others)

/-- Takes one field for each name, as long as there is one: the fields taken, and the fields left. -/
def takeFields : List String → List Field → List Field × List Field
  | [], fields => ([], fields)
  | name :: names, fields =>
    match takeField name fields with
    | some (f, rest) =>
      let (taken, left) := takeFields names rest
      (f :: taken, left)
    | none => takeFields names fields

/-- The fields of a message, those of its group apart, and its nested types without marks. -/
structure Grouping where
  flat : List Field
  group : List Field
  types : List Declaration

/-- The names that the first mark among some declarations lists. -/
def markedNames : List Declaration → List String
  | [] => []
  | .message _ :: rest => markedNames rest
  | .enumeration e :: rest => if e.name = oneofMark then e.values.map (·.name) else markedNames rest

/-- The fields and types of a message as they are emitted. -/
def Message.grouping (m : Message) : Grouping :=
  let (group, flat) := takeFields (markedNames m.nested) m.fields
  ⟨flat, group, m.nested.filter fun d => !d.isMark⟩

end ProtoEmit
