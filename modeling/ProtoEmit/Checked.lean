/-
  Results of checks that go on after the first issue.

  Checks of independent parts are combined so that the issues of all of them are reported, in the order of the
  parts.
-/

import ProtoEmit.Issue

namespace ProtoEmit

/-- A value, or the issues that stand in its way. -/
inductive Checked (α : Type) where
  | valid (a : α)
  | invalid (issues : List Issue)
deriving Repr

namespace Checked

variable {α β : Type}

/-- One issue at the place where the check started. -/
def fail (cause : Cause) : Checked α :=
  .invalid [⟨[], cause⟩]

def map (f : α → β) : Checked α → Checked β
  | .valid a => .valid (f a)
  | .invalid issues => .invalid issues

/-- Applies a checked function to a checked argument, the issues of the function first. -/
def seq : Checked (α → β) → (Unit → Checked α) → Checked β
  | .valid f, x => (x ()).map f
  | .invalid issues, x =>
    match x () with
    | .valid _ => .invalid issues
    | .invalid more => .invalid (issues ++ more)

instance : Functor Checked := ⟨map, fun a => map fun _ => a⟩

instance : Applicative Checked where
  pure := .valid
  seq := seq

/-- A check that needs the value of another one. -/
def bind (x : Checked α) (f : α → Checked β) : Checked β :=
  match x with
  | .valid a => f a
  | .invalid issues => .invalid issues

/-- The check of a part, one step below the whole. -/
def under (step : Step) : Checked α → Checked α
  | .valid a => .valid a
  | .invalid issues => .invalid (issues.map fun i => ⟨step :: i.place, i.cause⟩)

/-- The checks of the items of a list that starts at an index. -/
def itemsFrom (check : β → Checked α) : Nat → List β → Checked (List α)
  | _, [] => .valid []
  | i, x :: rest => List.cons <$> (check x).under (.index i) <*> itemsFrom check (i + 1) rest

end Checked

end ProtoEmit
