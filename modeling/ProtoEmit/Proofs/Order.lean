/-
  Sorting by name and by number.

  The order of names is the lexicographic order of their keys, so it is total and transitive, and a sort by it
  is an ascending rearrangement of what it is given. Where no two items share a key, the result depends on the
  items alone and not on the order in which they come: this is what makes the output canonical.
-/

import Mathlib.Data.Char
import Mathlib.Data.Int.Order.Basic
import Mathlib.Data.List.Lex
import Mathlib.Order.Lattice
import ProtoEmit.Text.Order

namespace ProtoEmit.Text

/-! ## Sorting by a key in a linear order -/

section Key

variable {α κ : Type} [LinearOrder κ] {le : α → α → Bool} {key : α → κ}

theorem le_trans_of_key (hle : ∀ a b, le a b = true ↔ key a ≤ key b) (a b c : α) (hab : le a b = true)
    (hbc : le b c = true) : le a c = true := by
  rw [hle] at hab hbc ⊢
  exact hab.trans hbc

theorem le_total_of_key (hle : ∀ a b, le a b = true ↔ key a ≤ key b) (a b : α) : (le a b || le b a) = true := by
  rw [Bool.or_eq_true, hle, hle]
  exact le_total _ _

/-- A sort whose test compares keys gives an ascending list. -/
theorem mergeSort_pairwise_key (hle : ∀ a b, le a b = true ↔ key a ≤ key b) (items : List α) :
    (items.mergeSort le).Pairwise fun a b => key a ≤ key b :=
  (List.pairwise_mergeSort (le_trans_of_key hle) (le_total_of_key hle) items).imp fun hab => (hle _ _).1 hab

/-- Items without a shared key come out in one order, however they are given. -/
theorem mergeSort_eq_of_perm (hle : ∀ a b, le a b = true ↔ key a ≤ key b) {items others : List α}
    (h : items.Perm others) (hkeys : ∀ a ∈ items, ∀ b ∈ items, key a = key b → a = b) :
    items.mergeSort le = others.mergeSort le := by
  have hperm := (List.mergeSort_perm items le).trans (h.trans (List.mergeSort_perm others le).symm)
  refine hperm.eq_of_pairwise ?_ (mergeSort_pairwise_key hle items) (mergeSort_pairwise_key hle others)
  intro a b ha hb hab hba
  rw [List.mem_mergeSort] at ha hb
  exact hkeys a ha b (h.mem_iff.2 hb) (le_antisymm hab hba)

/-- The first item comes right before the sorted items that may follow it, so before all items with its key. -/
theorem mergeSort_cons_eq_filter (hle : ∀ a b, le a b = true ↔ key a ≤ key b) (a : α) (items : List α) :
    (a :: items).mergeSort le =
      (items.mergeSort le).filter (fun b => !le a b) ++ a :: (items.mergeSort le).filter (le a) := by
  obtain ⟨smaller, others, hcons, hitems, hsmaller⟩ :=
    List.mergeSort_cons (le_trans_of_key hle) (le_total_of_key hle) a items
  have hothers : ∀ b ∈ others, le a b = true := by
    have hsorted := mergeSort_pairwise_key hle (a :: items)
    rw [hcons, List.pairwise_append, List.pairwise_cons] at hsorted
    exact fun b hb => (hle a b).2 (hsorted.2.1.1 b hb)
  have hbefore : (smaller ++ others).filter (fun b => !le a b) = smaller := by
    rw [List.filter_append, List.filter_eq_self.2 hsmaller, List.filter_eq_nil_iff.2, List.append_nil]
    intro b hb
    simp [hothers b hb]
  have hafter : (smaller ++ others).filter (le a) = others := by
    rw [List.filter_append, List.filter_eq_self.2 hothers, List.filter_eq_nil_iff.2, List.nil_append]
    intro b hb
    simpa using hsmaller b hb
  rw [hcons, hitems, hbefore, hafter]

/-- A relation between earlier and later items holds after a sort as well, where the items have one key. -/
theorem mergeSort_pairwise_of_key_eq (hle : ∀ a b, le a b = true ↔ key a ≤ key b) {r : α → α → Prop}
    {items : List α} (h : items.Pairwise r) : (items.mergeSort le).Pairwise fun a b => key a = key b → r a b := by
  induction items with
  | nil => simp
  | cons a items ih =>
    obtain ⟨hfirst, hrest⟩ := List.pairwise_cons.1 h
    have hsorted := ih hrest
    rw [mergeSort_cons_eq_filter hle, List.pairwise_append, List.pairwise_cons]
    refine ⟨hsorted.filter _, ⟨fun b hb _ => ?_, hsorted.filter _⟩, fun b hb c hc heq => ?_⟩
    · exact hfirst b (List.mem_mergeSort.1 (List.mem_filter.1 hb).1)
    · -- what stands before `a` has a smaller key than `a` and all behind it
      have hbefore : key b < key a := by
        have hnot := (List.mem_filter.1 hb).2
        rw [Bool.not_eq_true', ← Bool.not_eq_true, hle] at hnot
        exact not_le.1 hnot
      have hbehind : key a ≤ key c := by
        rcases List.mem_cons.1 hc with rfl | hc
        · exact le_rfl
        · exact (hle a c).1 (List.mem_filter.1 hc).2
      exact absurd heq (hbefore.trans_le hbehind).ne

/-- A stable sort may be done before or after some items are taken out. -/
theorem filter_mergeSort (hle : ∀ a b, le a b = true ↔ key a ≤ key b) (test : α → Bool) (items : List α) :
    (items.mergeSort le).filter test = (items.filter test).mergeSort le := by
  induction items with
  | nil => simp
  | cons a items ih =>
    by_cases ha : test a = true
    · -- `a` stays between the same items, of which those that fail the test go
      rw [List.filter_cons_of_pos ha, mergeSort_cons_eq_filter hle a items, mergeSort_cons_eq_filter hle a, ← ih,
        List.filter_append, List.filter_cons_of_pos ha, List.filter_comm, List.filter_comm test (le a)]
    · -- `a` goes, and around it are the sorted items
      obtain ⟨smaller, others, hcons, hitems, -⟩ :=
        List.mergeSort_cons (le_trans_of_key hle) (le_total_of_key hle) a items
      rw [List.filter_cons_of_neg ha, ← ih, hcons, hitems, List.filter_append, List.filter_cons_of_neg ha,
        List.filter_append]

end Key

/-! ## Names -/

variable {α : Type}

/-- A key comes after another exactly if it does so lexicographically. -/
theorem cmpKeys_eq_gt_iff (a b : List Char) : cmpKeys a b = .gt ↔ b < a := by
  induction a generalizing b with
  | nil => cases b <;> simp [cmpKeys]
  | cons x as ih =>
    cases b with
    | nil => simp [cmpKeys]
    | cons y bs =>
      rw [List.cons_lt_cons_iff, ← ih bs, cmpKeys]
      rcases Nat.lt_trichotomy x.toNat y.toNat with h | h | h
      · have hxy : x < y := h
        simp [Nat.compare_eq_lt.2 h, hxy.ne', hxy.le]
      · have hxy : x = y := Char.toNat_inj.1 h
        simp [hxy]
      · have hyx : y < x := h
        simp [Nat.compare_eq_gt.2 h, hyx]

/-- Names are in order exactly if their keys are so lexicographically. -/
theorem cmp_isLE_iff (a b : String) : (cmp a b).isLE = true ↔ sortKey a ≤ sortKey b := by
  rw [← not_lt, ← cmpKeys_eq_gt_iff, cmp]
  cases cmpKeys (sortKey a) (sortKey b) <;> simp

theorem sortByName_perm (name : α → String) (items : List α) : (sortByName name items).Perm items :=
  List.mergeSort_perm _ _

@[simp] theorem mem_sortByName {name : α → String} {items : List α} {a : α} :
    a ∈ sortByName name items ↔ a ∈ items :=
  List.mem_mergeSort

/-- A sort by name is ascending. -/
theorem sortByName_pairwise (name : α → String) (items : List α) :
    (sortByName name items).Pairwise fun a b => sortKey (name a) ≤ sortKey (name b) :=
  mergeSort_pairwise_key (fun a b => cmp_isLE_iff (name a) (name b)) items

theorem sortByName_eq_of_perm {name : α → String} {items others : List α} (h : items.Perm others)
    (hkeys : ∀ a ∈ items, ∀ b ∈ items, sortKey (name a) = sortKey (name b) → a = b) :
    sortByName name items = sortByName name others :=
  mergeSort_eq_of_perm (fun a b => cmp_isLE_iff (name a) (name b)) h hkeys

/-- Some items of a sorted list stand there as if they had been sorted alone. -/
theorem filter_sortByName (name : α → String) (test : α → Bool) (items : List α) :
    (sortByName name items).filter test = sortByName name (items.filter test) :=
  filter_mergeSort (fun a b => cmp_isLE_iff (name a) (name b)) test items

/-- Sorting looks at names only, so it commutes with any map that keeps them. -/
theorem sortByName_map {β : Type} {name : α → String} {name' : β → String} {g : α → β}
    (hname : ∀ a, name' (g a) = name a) (items : List α) :
    sortByName name' (items.map g) = (sortByName name items).map g := by
  refine (List.map_mergeSort ?_).symm
  intro a _ b _
  rw [hname, hname]

/-! ## Numbers -/

theorem sortByNumber_perm (number : α → Int) (items : List α) : (sortByNumber number items).Perm items :=
  List.mergeSort_perm _ _

theorem sortByNumber_eq_of_perm {number : α → Int} {items others : List α} (h : items.Perm others)
    (hnumbers : ∀ a ∈ items, ∀ b ∈ items, number a = number b → a = b) :
    sortByNumber number items = sortByNumber number others :=
  mergeSort_eq_of_perm (fun _ _ => decide_eq_true_iff) h hnumbers

theorem filter_sortByNumber (number : α → Int) (test : α → Bool) (items : List α) :
    (sortByNumber number items).filter test = sortByNumber number (items.filter test) :=
  filter_mergeSort (fun _ _ => decide_eq_true_iff) test items

/-- `sorted` holds `items` in ascending order of a number; items with one number stand in the order in which they
    were given. -/
structure IsStableSort (number : α → Int) (items sorted : List α) : Prop where
  perm : sorted.Perm items
  ascending : sorted.Pairwise fun a b => number a ≤ number b
  ties : ∀ n, sorted.filter (fun a => number a = n) = items.filter fun a => number a = n

theorem isStableSort_sortByNumber (number : α → Int) (items : List α) :
    IsStableSort number items (sortByNumber number items) where
  perm := sortByNumber_perm number items
  ascending := mergeSort_pairwise_key (fun _ _ => decide_eq_true_iff) items
  ties n := by
    rw [filter_sortByNumber]
    -- items of one number are in order as they are
    refine List.mergeSort_of_pairwise (List.pairwise_of_forall_mem_list fun a ha b hb => ?_)
    have hn : number a = n := by simpa using (List.mem_filter.1 ha).2
    have hn' : number b = n := by simpa using (List.mem_filter.1 hb).2
    simp [hn, hn']

end ProtoEmit.Text
