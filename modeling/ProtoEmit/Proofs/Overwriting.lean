/-
  Overwriting files.

  A file that is written with the content that it has leaves the tree as it is. Of two contents for one file the
  later one stays, and files at different places can be overwritten in either order. All of this holds of the tree as
  a value, and not only of what it shows, since an entry keeps its position in the folder.
-/

import ProtoEmit.Proofs.TreeChanges

namespace ProtoEmit

/-! ## Names of a folder -/

namespace Entries

theorem set_of_lookup {es : Entries} {name : String} {e : Entry} (h : es.lookup name = some e) :
    es.set name e = es := by
  induction es with
  | nil => cases h
  | cons first es ih =>
    obtain ⟨n, x⟩ := first
    rw [set]
    by_cases hn : n = name
    · rw [if_pos hn]
      rw [hn, List.lookup_cons_self, Option.some.injEq] at h
      rw [h]
    · rw [if_neg hn]
      rw [List.lookup_cons, beq_false_of_ne (Ne.symm hn)] at h
      rw [ih h]

theorem set_set (es : Entries) (name : String) (e e' : Entry) : (es.set name e).set name e' = es.set name e' := by
  induction es with
  | nil => simp [set]
  | cons first es ih =>
    obtain ⟨n, x⟩ := first
    by_cases hn : n = name
    · simp [set, hn]
    · simp [set, hn, ih]

/-- If one of two names is there already, it does not matter which is given its entry first. -/
theorem set_comm {es : Entries} {a b : String} (hne : a ≠ b) {x : Entry} (ha : es.lookup a = some x) (e e' : Entry) :
    (es.set a e).set b e' = (es.set b e').set a e := by
  induction es with
  | nil => cases ha
  | cons first es ih =>
    obtain ⟨n, y⟩ := first
    by_cases hna : n = a
    · simp [set, hna, hne]
    · rw [List.lookup_cons, beq_false_of_ne (Ne.symm hna)] at ha
      by_cases hnb : n = b
      · simp [set, hnb, Ne.symm hne]
      · simp [set, hna, hnb, ih ha]

/-- Putting an entry puts it there, or does nothing where the folder around it is missing. -/
theorem put_eq_self_or_kind? (e : Entry) (place : Place) (es : Entries) :
    es.put e place = es ∨ (es.put e place).kind? place = some e.kind := by
  fun_induction put e place es with
  | case1 es => exact .inl rfl
  | case2 name es =>
    refine .inr ?_
    rw [kind?_set_self, Entry.get?_nil]
    rfl
  | case3 name next rest es inner hlookup ih =>
    rcases ih with hsame | hkind
    · refine .inl ?_
      rw [hsame, set_of_lookup hlookup]
    · refine .inr ?_
      rw [kind?_set_self]
      exact hkind
  | case4 name next rest es hother => exact .inl rfl

end Entries

/-! ## Places below an entry -/

namespace Entry

/-- Puts an entry at a place below another, or in its stead. -/
def put : Entry → Place → Entry → Entry
  | _, [], e => e
  | .folder es, name :: rest, e => .folder (Entries.put e (name :: rest) es)
  | .file content, _ :: _, _ => .file content

end Entry

theorem Entries.put_of_lookup {es : Entries} {name : String} {x : Entry} (h : es.lookup name = some x) (e : Entry)
    (rest : Place) : es.put e (name :: rest) = es.set name (x.put rest e) := by
  cases rest with
  | nil => rfl
  | cons next rest =>
    rw [Entries.put, h]
    cases x with
    | folder inner => rfl
    | file content => exact (set_of_lookup h).symm

namespace Entry

/-- Something stands at a place with a first name only in a folder, below what has this name there. -/
theorem get?_cons_eq_some {x y : Entry} {name : String} {rest : Place} (h : x.get? (name :: rest) = some y) :
    ∃ (es : Entries) (inner : Entry), x = .folder es ∧ es.lookup name = some inner ∧ inner.get? rest = some y := by
  cases x with
  | file content => cases h
  | folder es =>
    have hbind : (es.lookup name).bind (Entry.get? · rest) = some y := (Entries.get?_cons es name rest).symm.trans h
    obtain ⟨inner, hlookup, hinner⟩ := Option.bind_eq_some_iff.1 hbind
    exact ⟨es, inner, rfl, hlookup, hinner⟩

theorem put_of_get? {x e : Entry} {place : Place} (h : x.get? place = some e) : x.put place e = x := by
  induction place generalizing x with
  | nil =>
    rw [get?_nil, Option.some.injEq] at h
    exact h.symm
  | cons name rest ih =>
    obtain ⟨es, inner, rfl, hlookup, hinner⟩ := get?_cons_eq_some h
    rw [put, Entries.put_of_lookup hlookup, ih hinner, Entries.set_of_lookup hlookup]

theorem get?_put {x y : Entry} {place : Place} (h : x.get? place = some y) (e : Entry) :
    (x.put place e).get? place = some e := by
  induction place generalizing x with
  | nil => exact get?_nil e
  | cons name rest ih =>
    obtain ⟨es, inner, rfl, hlookup, hinner⟩ := get?_cons_eq_some h
    rw [put, Entries.put_of_lookup hlookup, get?, Entries.get?_cons, Entries.lookup_set, if_pos rfl]
    exact ih hinner

theorem put_put {x y : Entry} {place : Place} (h : x.get? place = some y) (e e' : Entry) :
    (x.put place e).put place e' = x.put place e' := by
  induction place generalizing x with
  | nil => rfl
  | cons name rest ih =>
    obtain ⟨es, inner, rfl, hlookup, hinner⟩ := get?_cons_eq_some h
    have hset : (es.set name (inner.put rest e)).lookup name = some (inner.put rest e) := by
      rw [Entries.lookup_set, if_pos rfl]
    rw [put, put, put, Entries.put_of_lookup hlookup, Entries.put_of_lookup hset, Entries.put_of_lookup hlookup,
      Entries.set_set, ih hinner]

/-- Files at two places are overwritten in either order. -/
theorem put_comm {x : Entry} {p q : Place} (hne : p ≠ q) {c d : ByteArray} (hp : x.get? p = some (.file c))
    (hq : x.get? q = some (.file d)) (e e' : Entry) : (x.put p e).put q e' = (x.put q e').put p e := by
  induction p generalizing x q with
  | nil =>
    -- the entry is a file itself, so nothing stands below it
    rw [get?_nil, Option.some.injEq] at hp
    rw [hp, isBare_file c q (Ne.symm hne)] at hq
    cases hq
  | cons a p ih =>
    obtain ⟨es, x, rfl, hx, hxp⟩ := get?_cons_eq_some hp
    cases q with
    | nil =>
      rw [get?_nil] at hq
      cases hq
    | cons b q =>
      obtain ⟨es', y, hes, hy, hyq⟩ := get?_cons_eq_some hq
      cases hes
      simp only [put]
      congr 1
      rw [Entries.put_of_lookup hx, Entries.put_of_lookup hy]
      by_cases hab : a = b
      · subst hab
        have hxy : x = y := Option.some.inj (hx.symm.trans hy)
        subst hxy
        have hpq : p ≠ q := fun heq => hne (by rw [heq])
        have hset : ∀ z, (es.set a z).lookup a = some z := fun z => by rw [Entries.lookup_set, if_pos rfl]
        rw [Entries.put_of_lookup (hset _), Entries.put_of_lookup (hset _), Entries.set_set, Entries.set_set,
          ih hpq hxp hyq]
      · have hxb : (es.set b (y.put q e')).lookup a = some x := by rw [Entries.lookup_set, if_neg hab, hx]
        have hya : (es.set a (x.put p e)).lookup b = some y := by rw [Entries.lookup_set, if_neg (Ne.symm hab), hy]
        rw [Entries.put_of_lookup hya, Entries.put_of_lookup hxb, Entries.set_comm hab hx]

end Entry

/-! ## Trees -/

namespace FileTree

variable {t : FileTree} {q : Place}

theorem kind?_eq_file_iff {content : ByteArray} :
    t.kind? q = some (.file content) ↔ t.get? q = some (.file content) := by
  rw [kind?]
  cases t.get? q with
  | none => simp
  | some e => cases e <;> simp [Entry.kind]

theorem get?_root_of_file {content : ByteArray} (h : t.kind? q = some (.file content)) :
    (Entry.folder t.entries).get? q = some (.file content) :=
  kind?_eq_file_iff.1 h

/-- Where a file stands, an entry is put below the root. -/
theorem folder_entries_insert {content : ByteArray} (h : t.kind? q = some (.file content)) (e : Entry) :
    Entry.folder (t.insert q e).entries = (Entry.folder t.entries).put q e := by
  cases q with
  | nil => cases h
  | cons name rest => rfl

theorem ext_of_folder {t u : FileTree} (hcurrent : t.current = u.current) (hlimits : t.limits = u.limits)
    (hentries : Entry.folder t.entries = Entry.folder u.entries) : t = u := by
  cases t
  cases u
  cases hcurrent
  cases hlimits
  cases hentries
  rfl

theorem insert_eq_self {content : ByteArray} (h : t.kind? q = some (.file content)) :
    t.insert q (.file content) = t :=
  ext_of_folder rfl rfl ((folder_entries_insert h _).trans (Entry.put_of_get? (get?_root_of_file h)))

theorem kind?_insert_self {content : ByteArray} (h : t.kind? q = some (.file content)) (content' : ByteArray) :
    (t.insert q (.file content')).kind? q = some (.file content') := by
  refine kind?_eq_file_iff.2 ?_
  show (Entry.folder (t.insert q (.file content')).entries).get? q = some (.file content')
  rw [folder_entries_insert h]
  exact Entry.get?_put (get?_root_of_file h) _

/-- Of two contents the later one stays. -/
theorem insert_insert {content : ByteArray} (h : t.kind? q = some (.file content)) (c d : ByteArray) :
    (t.insert q (.file c)).insert q (.file d) = t.insert q (.file d) := by
  refine ext_of_folder rfl rfl ?_
  rw [folder_entries_insert (kind?_insert_self h c), folder_entries_insert h, folder_entries_insert h]
  exact Entry.put_put (get?_root_of_file h) _ _

/-- A file that stands at another place stays as it is. -/
theorem kind?_insert_of_ne {content : ByteArray} (h : t.kind? q = some (.file content)) {r : Place} (hne : r ≠ q)
    (content' : ByteArray) : (t.insert q (.file content')).kind? r = t.kind? r := by
  have hfree : t.kind? q ≠ some .folder := by simp [h]
  rcases Entries.kind?_put (Entry.isBare_file content') hfree r with hsame | ⟨heq, -⟩
  · exact hsame
  · exact absurd heq hne

/-- Files at two places are overwritten in either order. -/
theorem insert_comm {r : Place} (hne : q ≠ r) {content content' : ByteArray} (hq : t.kind? q = some (.file content))
    (hr : t.kind? r = some (.file content')) (c d : ByteArray) :
    (t.insert q (.file c)).insert r (.file d) = (t.insert r (.file d)).insert q (.file c) := by
  have hq' := (kind?_insert_of_ne hr hne d).trans hq
  have hr' := (kind?_insert_of_ne hq (Ne.symm hne) c).trans hr
  refine ext_of_folder rfl rfl ?_
  rw [folder_entries_insert hr', folder_entries_insert hq, folder_entries_insert hq', folder_entries_insert hr]
  exact Entry.put_comm hne (get?_root_of_file hq) (get?_root_of_file hr) _ _

/-- Overwriting a file keeps the folders. -/
theorem keepsFolders_overwrite {content : ByteArray} (h : t.kind? q = some (.file content)) (content' : ByteArray) :
    t.KeepsFolders (t.insert q (.file content')) :=
  keepsFolders_insert (Entry.isBare_file content') (by simp [h])

end FileTree

end ProtoEmit
