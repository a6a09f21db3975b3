/-
  The order in which names are listed.

  Names are compared by a key of ASCII characters in which every other character has become a question mark,
  so the order does not depend on a locale. Sorting by it is stable.
-/

namespace ProtoEmit.Text

/-- The character that stands for `c` in a sort key. -/
def keyChar (c : Char) : Char :=
  if c.toNat ≤ 127 then c else '?'

/-- The key by which a name is ordered. -/
def sortKey (s : String) : List Char :=
  s.toList.map keyChar

/-- Keys compare character by character; a key that runs out first is the smaller one. -/
def cmpKeys : List Char → List Char → Ordering
  | [], [] => .eq
  | [], _ :: _ => .lt
  | _ :: _, [] => .gt
  | a :: as, b :: bs => (Ord.compare a.toNat b.toNat).then (cmpKeys as bs)

/-- The order of two names. -/
def cmp (a b : String) : Ordering :=
  cmpKeys (sortKey a) (sortKey b)

/-- `items` in ascending order of their names; items whose names have one key keep their places. -/
def sortByName {α : Type} (name : α → String) (items : List α) : List α :=
  items.mergeSort fun a b => (cmp (name a) (name b)).isLE

/-- `items` in ascending order of a number; items with one number keep their places. -/
def sortByNumber {α : Type} (number : α → Int) (items : List α) : List α :=
  items.mergeSort fun a b => decide (number a ≤ number b)

end ProtoEmit.Text
