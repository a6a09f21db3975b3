/-
  The order of names decides every sort by name.

  Two names compare as equal although they differ where their characters have one key: all characters outside ASCII
  and the question mark look the same to a sort. So the order of names is a total preorder and no more, and an ascending
  list of items is not fixed by the items alone. A sort by name also keeps tied items as they were given, and with that
  there is one order of places that it can follow, whatever the list.
-/

import Mathlib.Data.Fin.Tuple.Sort
import Mathlib.Data.List.Forall2
import Mathlib.Logic.Equiv.Fin.Rotate
import ProtoEmit.Proofs.Order

namespace ProtoEmit.Text

variable {α : Type}

/-! ## The preorder -/

theorem cmpKeys_swap (a b : List Char) : cmpKeys a b = (cmpKeys b a).swap := by
  fun_induction cmpKeys a b with
  | case1 => rfl
  | case2 => rfl
  | case3 => rfl
  | case4 x as y bs ih => rw [cmpKeys, Ordering.swap_then, Nat.compare_swap, ← ih]

instance : Std.TransCmp cmp where
  eq_swap := cmpKeys_swap _ _
  isLE_trans := le_trans_of_key cmp_isLE_iff _ _ _

/-- A key comes before all that go on where it ends. -/
theorem cmpKeys_append_eq_lt (a : List Char) {rest : List Char} (hrest : rest ≠ []) : cmpKeys a (a ++ rest) = .lt := by
  induction a with
  | nil =>
    obtain ⟨x, rest, rfl⟩ := List.exists_cons_of_ne_nil hrest
    rfl
  | cons x a ih => simp [cmpKeys, ih]

theorem cmp_eq_lt_of_isPrefix {a b : String} (h : a.toList <+: b.toList) (hne : a ≠ b) : cmp a b = .lt := by
  obtain ⟨rest, hb⟩ := h
  have hrest : rest ≠ [] := by
    rintro rfl
    exact hne (String.toList_inj.1 (by rw [← hb, List.append_nil]))
  rw [cmp, sortKey, sortKey, ← hb, List.map_append]
  exact cmpKeys_append_eq_lt _ (by simpa using hrest)

/-! ## Ties -/

/-- Characters that a sort does not tell apart: the same one of ASCII, or any two out of the question mark and the
    characters beyond ASCII. -/
def Alike (x y : Char) : Prop :=
  x = y ∧ x.toNat < 128 ∨ (128 ≤ x.toNat ∨ x = '?') ∧ (128 ≤ y.toNat ∨ y = '?')

instance : DecidableRel Alike := fun x y =>
  inferInstanceAs (Decidable (x = y ∧ x.toNat < 128 ∨ (128 ≤ x.toNat ∨ x = '?') ∧ (128 ≤ y.toNat ∨ y = '?')))

theorem keyChar_eq_iff {x y : Char} : keyChar x = keyChar y ↔ Alike x y := by
  have hmark : '?'.toNat = 63 := rfl
  unfold keyChar Alike
  split <;> split <;> grind

theorem cmp_eq_iff_sortKey (a b : String) : cmp a b = .eq ↔ sortKey a = sortKey b := by
  constructor
  · intro h
    have hswap : cmp b a = .eq := Std.OrientedCmp.eq_comm.1 h
    have hab := (cmp_isLE_iff a b).1 (Ordering.isLE_of_eq_eq h)
    have hba := (cmp_isLE_iff b a).1 (Ordering.isLE_of_eq_eq hswap)
    exact le_antisymm hab hba
  · intro h
    exact Std.OrientedCmp.isLE_antisymm ((cmp_isLE_iff a b).2 h.le) ((cmp_isLE_iff b a).2 h.ge)

theorem sortKey_eq_iff {a b : String} : sortKey a = sortKey b ↔ List.Forall₂ Alike a.toList b.toList := by
  rw [sortKey, sortKey, ← List.forall₂_eq_eq_eq, List.forall₂_map_left_iff, List.forall₂_map_right_iff]
  simp only [keyChar_eq_iff]

/-! ## Places -/

/-- A stable order of the places of `items`. Each place of the sorted list is led to the one from which its item comes:
    the names ascend, and of two items whose names compare as equal the one given first stays first. -/
structure IsStableOrder (name : α → String) (items : List α) (source : Equiv.Perm (Fin items.length)) : Prop where
  ascending : ∀ i j, i < j → (cmp (name (items.get (source i))) (name (items.get (source j)))).isLE = true
  ties : ∀ i j, i < j → cmp (name (items.get (source i))) (name (items.get (source j))) = .eq → source i < source j

/-- The key of the item in each place. -/
def keyAt (name : α → String) (items : List α) (i : Fin items.length) : List Char :=
  sortKey (name (items.get i))

theorem isStableOrder_iff {name : α → String} {items : List α} {source : Equiv.Perm (Fin items.length)} :
    IsStableOrder name items source ↔ source = Tuple.sort (keyAt name items) := by
  rw [Tuple.eq_sort_iff, monotone_iff_forall_lt]
  constructor
  · intro h
    refine ⟨fun i j hij => (cmp_isLE_iff _ _).1 (h.ascending i j hij), fun i j hij hkey => ?_⟩
    exact h.ties i j hij ((cmp_eq_iff_sortKey _ _).2 hkey)
  · rintro ⟨hascending, hties⟩
    refine ⟨fun i j hij => (cmp_isLE_iff _ _).2 (hascending hij), fun i j hij htie => ?_⟩
    exact hties i j hij ((cmp_eq_iff_sortKey _ _).1 htie)

/-- Sorting items is sorting their places. -/
theorem sortByName_eq_map_places (name : α → String) (items : List α) :
    sortByName name items =
      (sortByName (fun i => name (items.get i)) (List.finRange items.length)).map items.get := by
  rw [← sortByName_map fun _ => rfl, List.map_get_finRange]

/-- A sort of places by the names of their items follows any stable order of them. -/
theorem sortByName_places {name : α → String} {items : List α} {source : Equiv.Perm (Fin items.length)}
    (h : IsStableOrder name items source) :
    sortByName (fun i => name (items.get i)) (List.finRange items.length) = List.ofFn source := by
  have hle (i j : Fin items.length) :
      (cmp (name (items.get i)) (name (items.get j))).isLE = true ↔ keyAt name items i ≤ keyAt name items j :=
    cmp_isLE_iff _ _
  have hsorted := (mergeSort_pairwise_key hle (List.finRange items.length)).and
    (mergeSort_pairwise_of_key_eq hle (List.pairwise_lt_finRange _))
  obtain ⟨hmono, hties⟩ := Tuple.eq_sort_iff.1 (isStableOrder_iff.1 h)
  have hsource : (List.ofFn source).Perm (List.finRange items.length) := by
    rw [← List.ofFn_id]
    exact source.ofFn_comp_perm id
  -- places are told apart by their keys and then by their numbers, so only one list of them is in order
  refine List.Perm.eq_of_pairwise ?_ hsorted (List.pairwise_ofFn.2 fun i j hij => ⟨hmono hij.le, hties i j hij⟩)
    ((sortByName_perm _ _).trans hsource.symm)
  rintro i j - - ⟨hij, htie⟩ ⟨hji, htie'⟩
  have hkey := le_antisymm hij hji
  exact absurd (htie hkey) (htie' hkey.symm).asymm

/-- The order of names is a total preorder, in which a name comes before every longer one that starts with it, and names
    tie exactly if they have alike characters in all places. Every list has one stable order of its places under it, and
    a sort by name puts the items in that order. -/
theorem order_of_names_decides_sort (name : α → String) (items : List α) (a b c : String) :
    cmp a b = (cmp b a).swap ∧
      ((cmp a b).isLE = true → (cmp b c).isLE = true → (cmp a c).isLE = true) ∧
      ((cmp a b).isLE = true ∨ (cmp b a).isLE = true) ∧
      (a.toList <+: b.toList → a ≠ b → cmp a b = .lt) ∧
      (cmp a b = .eq ↔ a.toList.length = b.toList.length ∧
        ∀ i (ha : i < a.toList.length) (hb : i < b.toList.length),
          Alike (a.toList.get ⟨i, ha⟩) (b.toList.get ⟨i, hb⟩)) ∧
      (∃! source, IsStableOrder name items source) ∧
      ∀ source, IsStableOrder name items source → sortByName name items = List.ofFn (items.get ∘ source) := by
  refine ⟨Std.OrientedCmp.eq_swap, Std.TransCmp.isLE_trans, ?_, cmp_eq_lt_of_isPrefix, ?_, ?_, fun source h => ?_⟩
  · exact Bool.or_eq_true_iff.1 (le_total_of_key cmp_isLE_iff a b)
  · rw [cmp_eq_iff_sortKey, sortKey_eq_iff, List.forall₂_iff_get]
  · -- the permutation that sorts the keys is the stable order, since it takes tied places by their numbers
    exact ⟨Tuple.sort (keyAt name items), isStableOrder_iff.2 rfl, fun _ h => isStableOrder_iff.1 h⟩
  · rw [sortByName_eq_map_places, sortByName_places h, List.map_ofFn]

/-- Items that all tie but for the first. -/
def tiedItems : List (String × Nat) :=
  [("b", 0), ("é", 1), ("?", 2), ("é", 3)]

/-- Items that tie stay in the order in which they are given, also around one of another name. -/
theorem tiedItems_stay_in_order :
    cmp "é" "?" = .eq ∧ (cmp "é" "b").isLE = true ∧ cmp "b" "bé" = .lt ∧
      IsStableOrder Prod.fst tiedItems (finRotate 4) ∧
      sortByName Prod.fst tiedItems = [("é", 1), ("?", 2), ("é", 3), ("b", 0)] := by
  have horder : IsStableOrder Prod.fst tiedItems (finRotate 4) := ⟨by decide, by decide⟩
  obtain ⟨-, htrans, -, -, htie, -, hsort⟩ := order_of_names_decides_sort Prod.fst tiedItems "é" "?" "b"
  obtain ⟨-, -, -, hbefore, -⟩ := order_of_names_decides_sort Prod.fst tiedItems "b" "bé" "b"
  exact ⟨htie.2 (by decide), htrans (by decide) (by decide), hbefore (by decide) (by decide), horder, hsort _ horder⟩

end ProtoEmit.Text
