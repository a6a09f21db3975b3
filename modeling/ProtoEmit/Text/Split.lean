/-
  Cutting text at a separator and joining it again.

  A text with `n` separators has `n + 1` pieces, so the empty text has one, empty, piece.
-/

namespace ProtoEmit.Text

/-- The pieces of `cs` between the occurrences of `sep`. -/
def pieces (sep : Char) : List Char → List (List Char)
  | [] => [[]]
  | c :: cs =>
    if c = sep then [] :: pieces sep cs
    else match pieces sep cs with
      | [] => [[c]]
      | p :: ps => (c :: p) :: ps

/-- The pieces of a text between the occurrences of `sep`, in order. -/
def split (sep : Char) (s : String) : List String :=
  (pieces sep s.toList).map String.ofList

/-- Pieces joined with a dot between neighbours. -/
def joinDots (parts : List String) : String :=
  ".".intercalate parts

/-- There is always a first piece. -/
theorem pieces_ne_nil (sep : Char) (cs : List Char) : pieces sep cs ≠ [] := by
  cases cs with
  | nil => simp [pieces]
  | cons c cs =>
    unfold pieces
    split
    · simp
    · split <;> simp

end ProtoEmit.Text
