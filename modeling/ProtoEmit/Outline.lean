/-
  From declarations to blocks: what is emitted of a declaration, and in which order.
-/

import ProtoEmit.Block
import ProtoEmit.Oneof
import ProtoEmit.TypeName

namespace ProtoEmit

/-! ## Enumerations -/

/-- Whether a number occurs twice. -/
def hasRepetition : List Int → Bool
  | [] => false
  | n :: rest => rest.contains n || hasRepetition rest

/-- Takes the first value with number zero out of a list. -/
def takeZero : List EnumValue → Option (EnumValue × List EnumValue)
  | [] => none
  | v :: rest =>
    if v.number = 0 then some (v, rest)
    else (takeZero rest).map fun (z, others) => (z, v :: others)

namespace Enumeration

/-- Whether two values have one number. -/
def aliased (e : Enumeration) : Bool :=
  hasRepetition (e.values.map (·.number))

/-- The value that is added if no declared one is zero. -/
def extraZero (e : Enumeration) : EnumValue :=
  ⟨e.name ++ "_AUTO_INVALID", 0⟩

/-- The value that comes first, the other values as declared, and whether the first one was added. -/
def splitZero (e : Enumeration) : EnumValue × List EnumValue × Bool :=
  match takeZero e.values with
  | some (zero, rest) => (zero, rest, false)
  | none => (e.extraZero, e.values, true)

/-- The block of an enumeration: zero first, then the other values by number. -/
def outline (e : Enumeration) : EnumBlock :=
  let (zero, rest, added) := e.splitZero
  ⟨e.origin, e.name, e.aliased, zero :: Text.sortByNumber (·.number) rest, added⟩

end Enumeration

/-! ## Fields -/

/-- The line of a field of a message. Only a repeated alternative says that it is not packed. -/
def Field.line (scope : Scope) (inGroup : Bool) (f : Field) : FieldLine where
  repeated := f.options.label == .repeated
  type := f.type.text scope
  name := Text.lowerFirst f.name
  tag := f.options.tag
  unpacked := inGroup && f.options.label == .repeated && !f.options.packed

def Field.tag (f : Field) : Int :=
  f.options.tag

/-- How many fields come before a group: as many as have a tag below every tag of the group. -/
def countBelow (group fields : List Field) : Nat :=
  match (group.map Field.tag).min? with
  | none => fields.length
  | some least => fields.countP (·.tag < least)

/-- Fields by their tags, cut where a group goes. -/
def splitAtGroup (group fields : List Field) : List Field × List Field :=
  fields.splitAt (countBelow group fields)

/-! ## Messages -/

/-- Whether a block stands for a mark. -/
def Block.isMark (b : Block) : Bool :=
  b.isEnumeration && b.name == oneofMark

/-- The block of a message, given the blocks of everything nested in it. -/
def messageBlock (scope : Scope) (origin name : String) (fields : List Field) (marked : List String)
    (nested : List Block) : Block :=
  let inside := scope.enter name
  let (group, flat) := takeFields marked fields
  let (before, after) := splitAtGroup group (Text.sortByNumber Field.tag flat)
  .message origin name (enumerationsFirst Block.isEnumeration Block.name (nested.filter fun b => !b.isMark))
    (before.map (Field.line inside false))
    ((Text.sortByNumber Field.tag group).map (Field.line inside true))
    (after.map (Field.line inside false))

mutual

/-- The block of a message declared in a scope. -/
def Message.outline (scope : Scope) : Message → Block
  | ⟨name, origin, fields, nested, _⟩ =>
    messageBlock scope origin name fields (markedNames nested) (Declaration.outlines (scope.enter name) nested)
termination_by structural m => m

/-- The block of a declaration in a scope. -/
def Declaration.outline (scope : Scope) : Declaration → Block
  | .message m => m.outline scope
  | .enumeration e => .enumeration e.outline
termination_by structural d => d

/-- The blocks of declarations in the given order. -/
def Declaration.outlines (scope : Scope) : List Declaration → List Block
  | [] => []
  | d :: rest => d.outline scope :: Declaration.outlines scope rest
termination_by structural ds => ds

end

/-- Declarations, enumerations first and by name. -/
def Declaration.grouped (ds : List Declaration) : List Declaration :=
  enumerationsFirst Declaration.isEnumeration Declaration.name ds

/-- Declarations by name. -/
def Declaration.interleaved (ds : List Declaration) : List Declaration :=
  Text.sortByName Declaration.name ds

end ProtoEmit
