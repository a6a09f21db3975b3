/-
  What a namespace needs from others.
-/

import ProtoEmit.Schema.Basic

namespace ProtoEmit

mutual

/-- A message and all messages inside it, outer ones first. -/
def Message.all : Message → List Message
  | ⟨name, origin, fields, nested, isPrivate⟩ =>
    ⟨name, origin, fields, nested, isPrivate⟩ :: Declaration.allMessages nested
termination_by structural m => m

/-- The messages of a declaration. -/
def Declaration.messages : Declaration → List Message
  | .message m => m.all
  | .enumeration _ => []
termination_by structural d => d

/-- The messages of a list of declarations. -/
def Declaration.allMessages : List Declaration → List Message
  | [] => []
  | d :: rest => d.messages ++ Declaration.allMessages rest
termination_by structural ds => ds

end

/-- The namespace that a type refers to. -/
def FieldType.owner? : FieldType → Option String
  | .scalar _ => none
  | .reference r => some r.owner

/-- Every message of a namespace, nested ones included. -/
def Namespace.allMessages (n : Namespace) : List Message :=
  n.messages.flatMap Message.all

/-- The namespaces that the fields of a namespace refer to, in the order of the fields, with repetitions. -/
def Namespace.referredOwners (n : Namespace) : List String :=
  n.allMessages.flatMap fun m => m.fields.filterMap fun f => f.type.owner?

/-- The other namespaces that a namespace refers to, each once. They are a set, so their order is a choice made here;
    it shows only where they are sorted by keys that are the same for some of them. -/
def Namespace.imports (n : Namespace) : List String :=
  (n.referredOwners.filter (· != n.name)).eraseDups

end ProtoEmit
