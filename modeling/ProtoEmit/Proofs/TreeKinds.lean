/-
  What stands where in a tree.

  Seen from one place, a tree shows nothing, a folder or a file with its content: this is the `Kind` at the place,
  and what a folder holds shows at the places below it. Putting an entry where no folder is changes the kind of
  that place only. A path that leads to a place goes through folders, so it leads to the same place in every tree
  that keeps them.
-/

import Mathlib.Data.List.Basic
import ProtoEmit.FileTree

namespace ProtoEmit

/-! ## Kinds -/

/-- What an entry is, without what a folder holds. -/
inductive Kind where
  | file (content : ByteArray)
  | folder

namespace Entry

def kind : Entry → Kind
  | .file content => .file content
  | .folder _ => .folder

/-- What there is at a place below an entry. -/
def get? : Entry → Place → Option Entry
  | .folder es, place => Entries.get? es place
  | .file content, place => if place.isEmpty then some (.file content) else none

/-- Nothing stands below the entry. -/
def IsBare (e : Entry) : Prop :=
  ∀ place ≠ [], e.get? place = none

@[simp] theorem get?_nil (e : Entry) : e.get? [] = some e := by
  cases e with
  | file content => rfl
  | folder es => rfl

theorem isBare_file (content : ByteArray) : (Entry.file content).IsBare := by
  intro place hne
  simp [get?, hne]

theorem isBare_folder : (Entry.folder []).IsBare := by
  intro place hne
  obtain ⟨name, rest, rfl⟩ := List.exists_cons_of_ne_nil hne
  rfl

end Entry

/-! ## Entries -/

namespace Entries

@[simp] theorem get?_nil (es : Entries) : es.get? [] = some (.folder es) := by
  cases es <;> rfl

/-- A look-up goes on from the entry of the first name. -/
theorem get?_cons (es : Entries) (name : String) (rest : Place) :
    es.get? (name :: rest) = (es.lookup name).bind (Entry.get? · rest) := by
  rw [get?]
  cases es.lookup name with
  | none => rfl
  | some e =>
    cases e with
    | file content => rfl
    | folder inner => rfl

/-- A look-up can be cut in two. -/
theorem get?_append (es : Entries) (place rest : Place) :
    es.get? (place ++ rest) = (es.get? place).bind (Entry.get? · rest) := by
  induction place generalizing es with
  | nil =>
    rw [List.nil_append, get?_nil]
    rfl
  | cons name place ih =>
    rw [List.cons_append, get?_cons, get?_cons]
    cases es.lookup name with
    | none => rfl
    | some e =>
      cases e with
      | folder inner => exact ih inner
      | file content =>
        cases place with
        | nil => rfl
        | cons => rfl

theorem lookup_set (es : Entries) (name : String) (e : Entry) (other : String) :
    (es.set name e).lookup other = if other = name then some e else es.lookup other := by
  induction es with
  | nil =>
    by_cases h : other = name
    · simp [set, h]
    · simp [set, List.lookup_cons, beq_false_of_ne h, h]
  | cons first es ih =>
    obtain ⟨n, x⟩ := first
    rw [set]
    by_cases hn : n = name
    · subst hn
      by_cases h : other = n
      · simp [h]
      · simp [List.lookup_cons, beq_false_of_ne h, h]
    · rw [if_neg hn]
      by_cases h : other = n
      · simp [h, hn]
      · rw [List.lookup_cons, List.lookup_cons, beq_false_of_ne h]
        exact ih

/-- The kind at a place below a folder. -/
def kind? (es : Entries) (place : Place) : Option Kind :=
  (es.get? place).map Entry.kind

theorem kind?_nil (es : Entries) : es.kind? [] = some .folder := by
  rw [kind?, get?_nil]
  rfl

theorem kind?_cons_of_lookup {es : Entries} {name : String} {e : Entry} (h : es.lookup name = some e) (rest : Place) :
    es.kind? (name :: rest) = (e.get? rest).map Entry.kind := by
  rw [kind?, get?_cons, h]
  rfl

/-- Below a name that was given its entry stands what that entry holds. -/
theorem kind?_set_self (es : Entries) (name : String) (e : Entry) (rest : Place) :
    (es.set name e).kind? (name :: rest) = (e.get? rest).map Entry.kind :=
  kind?_cons_of_lookup (by rw [lookup_set, if_pos rfl]) rest

/-- Giving a name its entry changes nothing below other names. -/
theorem kind?_set_of_ne {es : Entries} {name other : String} (h : other ≠ name) (e : Entry) (rest : Place) :
    (es.set name e).kind? (other :: rest) = es.kind? (other :: rest) := by
  rw [kind?, kind?, get?_cons, get?_cons, lookup_set, if_neg h]

/-- Below a place without a folder there is nothing. -/
theorem kind?_append_of_not_folder {es : Entries} {place : Place} (h : es.kind? place ≠ some .folder) {rest : Place}
    (hne : rest ≠ []) : es.kind? (place ++ rest) = none := by
  rw [kind?, get?_append]
  rw [kind?] at h
  cases hget : es.get? place with
  | none => rfl
  | some e =>
    cases e with
    | file content => simp [Entry.isBare_file content rest hne]
    | folder inner =>
      rw [hget] at h
      exact absurd rfl h

/-- Around everything that is there stand folders. -/
theorem kind?_of_append {es : Entries} {place rest : Place} (h : es.kind? (place ++ rest) = some .folder) :
    es.kind? place = some .folder := by
  by_contra hnot
  by_cases hne : rest = []
  · rw [hne, List.append_nil] at h
    exact hnot h
  · rw [kind?_append_of_not_folder hnot hne] at h
    cases h

/-- Putting an entry where no folder is changes at most the kind of that place. -/
theorem kind?_put {e : Entry} (hbare : e.IsBare) {place : Place} {es : Entries}
    (hfree : es.kind? place ≠ some .folder) (q : Place) :
    (es.put e place).kind? q = es.kind? q ∨ q = place ∧ (es.put e place).kind? q = some e.kind := by
  fun_induction put e place es generalizing q with
  | case1 es => exact .inl rfl
  | case2 name es =>
    cases q with
    | nil => exact .inl (by rw [kind?_nil, kind?_nil])
    | cons other rest =>
      by_cases hother : other = name
      · subst hother
        by_cases hrest : rest = []
        · subst hrest
          exact .inr ⟨rfl, by rw [kind?_set_self, Entry.get?_nil]; rfl⟩
        · -- nothing stood below the name, and nothing stands below the new entry
          refine .inl ?_
          have hold : es.kind? (other :: rest) = none := kind?_append_of_not_folder hfree hrest
          rw [kind?_set_self, hbare rest hrest, hold]
          rfl
      · exact .inl (kind?_set_of_ne hother e rest)
  | case3 name next rest es inner hlookup ih =>
    cases q with
    | nil => exact .inl (by rw [kind?_nil, kind?_nil])
    | cons other q =>
      by_cases hother : other = name
      · subst hother
        have hinner : ∀ q, es.kind? (other :: q) = Entries.kind? inner q := kind?_cons_of_lookup hlookup
        rw [hinner] at hfree
        rw [kind?_set_self, hinner]
        rcases ih hfree q with h | ⟨rfl, h⟩
        · exact .inl h
        · exact .inr ⟨rfl, h⟩
      · exact .inl (kind?_set_of_ne hother _ q)
  | case4 name next rest es hother => exact .inl rfl

/-- An entry that is put into a folder stands there. -/
theorem kind?_put_self (e : Entry) {around : Place} (name : String) {es : Entries}
    (haround : es.kind? around = some .folder) :
    (es.put e (around ++ [name])).kind? (around ++ [name]) = some e.kind := by
  induction around generalizing es with
  | nil =>
    rw [List.nil_append, put, kind?_set_self, Entry.get?_nil]
    rfl
  | cons first around ih =>
    have hfirst : es.kind? [first] = some .folder :=
      kind?_of_append (show es.kind? ([first] ++ around) = some .folder from haround)
    cases hlookup : es.lookup first with
    | none =>
      rw [kind?, get?_cons, hlookup] at hfirst
      cases hfirst
    | some x =>
      rw [kind?_cons_of_lookup hlookup, Entry.get?_nil] at hfirst
      cases x with
      | file content => cases hfirst
      | folder inner =>
        rw [kind?_cons_of_lookup hlookup] at haround
        -- the place below the first name is not empty, so the entry is put into its folder
        obtain ⟨next, rest, hnext⟩ := List.exists_cons_of_ne_nil (List.concat_ne_nil name around)
        have hput : es.put e (first :: (around ++ [name])) =
            es.set first (.folder (Entries.put e (around ++ [name]) inner)) := by
          rw [hnext, put, hlookup]
        rw [List.cons_append, hput, kind?_set_self]
        exact ih haround

end Entries

/-! ## Following names -/

namespace FileTree

/-- The kind at a place. -/
def kind? (t : FileTree) (place : Place) : Option Kind :=
  (t.get? place).map Entry.kind

theorem kind?_dropLast {t : FileTree} {place : Place} (h : t.kind? place = some .folder) :
    t.kind? place.dropLast = some .folder := by
  by_cases hne : place = []
  · rw [hne] at h ⊢
    exact h
  · rw [← List.dropLast_append_getLast hne] at h
    exact Entries.kind?_of_append h

/-- A name is followed from a folder only: back to the folder around it, or on to what has the name there. -/
theorem follow_cons_eq_ok_iff {t : FileTree} {place : Place} {name : String} {rest : List String} {q : Place} :
    t.follow place (name :: rest) = .ok q ↔
      t.kind? place = some .folder ∧
        (name = ".." ∧ t.follow place.dropLast rest = .ok q ∨
          name ≠ ".." ∧ name.utf8ByteSize ≤ maxNameBytes ∧ t.follow (place ++ [name]) rest = .ok q) := by
  rw [follow, kind?]
  cases t.get? place with
  | none => simp
  | some e =>
    cases e with
    | file content => simp [Entry.kind]
    | folder es =>
      by_cases hup : name = ".."
      · simp [Entry.kind, hup]
      · by_cases hlong : maxNameBytes < name.utf8ByteSize
        · simp [Entry.kind, hup, hlong, Nat.not_le.2 hlong]
        · simp [Entry.kind, hup, hlong, Nat.not_lt.1 hlong]

/-- Names can be followed in two stretches. -/
theorem follow_append_eq_ok_iff {t : FileTree} {place : Place} {names rest : List String} {q : Place} :
    t.follow place (names ++ rest) = .ok q ↔
      ∃ between, t.follow place names = .ok between ∧ t.follow between rest = .ok q := by
  induction names generalizing place with
  | nil => simp [follow]
  | cons name names ih =>
    simp only [List.cons_append, follow_cons_eq_ok_iff, ih]
    constructor
    · rintro ⟨hfolder, ⟨hup, between, hnames, hrest⟩ | ⟨hup, hshort, between, hnames, hrest⟩⟩
      · exact ⟨between, ⟨hfolder, .inl ⟨hup, hnames⟩⟩, hrest⟩
      · exact ⟨between, ⟨hfolder, .inr ⟨hup, hshort, hnames⟩⟩, hrest⟩
    · rintro ⟨between, ⟨hfolder, ⟨hup, hnames⟩ | ⟨hup, hshort, hnames⟩⟩, hrest⟩
      · exact ⟨hfolder, .inl ⟨hup, between, hnames, hrest⟩⟩
      · exact ⟨hfolder, .inr ⟨hup, hshort, between, hnames, hrest⟩⟩

/-- Names that never lead back lead straight down. -/
theorem eq_append_of_follow {t : FileTree} {place : Place} {names : List String} {q : Place} (hup : ".." ∉ names)
    (h : t.follow place names = .ok q) : q = place ++ names := by
  induction names generalizing place with
  | nil =>
    rw [follow, Except.ok.injEq] at h
    rw [List.append_nil, h]
  | cons name names ih =>
    obtain ⟨hname, hnames⟩ := not_or.1 (mt List.mem_cons.2 hup)
    obtain ⟨-, ⟨heq, -⟩ | ⟨-, -, hrest⟩⟩ := follow_cons_eq_ok_iff.1 h
    · exact absurd heq.symm hname
    · rw [ih hnames hrest, List.append_assoc]
      rfl

/-- The folder around the place that names lead to is there. -/
theorem kind?_dropLast_of_follow {t : FileTree} {place : Place} {names : List String} {q : Place} (hne : names ≠ [])
    (h : t.follow place names = .ok q) : t.kind? q.dropLast = some .folder := by
  induction names generalizing place with
  | nil => exact absurd rfl hne
  | cons name names ih =>
    rw [follow_cons_eq_ok_iff] at h
    obtain ⟨hfolder, hnext⟩ := h
    by_cases hlast : names = []
    · subst hlast
      simp only [follow, Except.ok.injEq] at hnext
      rcases hnext with ⟨-, rfl⟩ | ⟨-, -, rfl⟩
      · exact kind?_dropLast (kind?_dropLast hfolder)
      · rw [List.dropLast_concat]
        exact hfolder
    · rcases hnext with ⟨-, hrest⟩ | ⟨-, -, hrest⟩
      · exact ih hlast hrest
      · exact ih hlast hrest

/-! ## Keeping folders -/

/-- Every folder of `t` is a folder of `t'`, and the current one is the same. -/
structure KeepsFolders (t t' : FileTree) : Prop where
  current : t'.current = t.current
  limits : t'.limits = t.limits
  kept : ∀ q, t.kind? q = some .folder → t'.kind? q = some .folder

theorem KeepsFolders.refl (t : FileTree) : t.KeepsFolders t :=
  ⟨rfl, rfl, fun _ h => h⟩

theorem KeepsFolders.trans {t t' t'' : FileTree} (h : t.KeepsFolders t') (h' : t'.KeepsFolders t'') :
    t.KeepsFolders t'' :=
  ⟨h'.current.trans h.current, h'.limits.trans h.limits, fun q hq => h'.kept q (h.kept q hq)⟩

theorem KeepsFolders.follow {t t' : FileTree} (h : t.KeepsFolders t') {place : Place} {names : List String} {q : Place}
    (hfollow : t.follow place names = .ok q) : t'.follow place names = .ok q := by
  induction names generalizing place with
  | nil => exact hfollow
  | cons name names ih =>
    rw [follow_cons_eq_ok_iff] at hfollow ⊢
    obtain ⟨hfolder, hnext⟩ := hfollow
    refine ⟨h.kept place hfolder, ?_⟩
    rcases hnext with ⟨hup, hrest⟩ | ⟨hup, hshort, hrest⟩
    · exact .inl ⟨hup, ih hrest⟩
    · exact .inr ⟨hup, hshort, ih hrest⟩

/-- The place from which a path is followed. -/
def start (t : FileTree) (p : Path) : Place :=
  if p.isAbsolute then [] else t.current

theorem locate_eq_ok_iff {t : FileTree} {p : Path} {q : Place} :
    t.locate p = .ok q ↔
      p.parts.any (·.contains '\x00') = false ∧ p.toString.utf8ByteSize ≤ maxPathBytes ∧
        t.follow (t.start p) p.parts = .ok q := by
  rw [locate, start]
  cases p.parts.any (·.contains '\x00') with
  | true => simp
  | false =>
    by_cases hlong : maxPathBytes < p.toString.utf8ByteSize
    · simp [hlong, Nat.not_le.2 hlong]
    · simp [hlong, Nat.not_lt.1 hlong]

/-- A path leads to the same place in a tree that keeps the folders. -/
theorem KeepsFolders.locate {t t' : FileTree} (h : t.KeepsFolders t') {p : Path} {q : Place}
    (hlocate : t.locate p = .ok q) : t'.locate p = .ok q := by
  rw [locate_eq_ok_iff] at hlocate ⊢
  obtain ⟨hzero, hlong, hfollow⟩ := hlocate
  refine ⟨hzero, hlong, ?_⟩
  have hstart : t'.start p = t.start p := by rw [start, start, h.current]
  rw [hstart]
  exact h.follow hfollow

/-- A file is read where its path leads. -/
theorem read_eq_ok_iff {t : FileTree} {p : Path} {content : ByteArray} :
    t.read p = .ok content ↔ ∃ q, t.locate p = .ok q ∧ t.kind? q = some (.file content) := by
  rw [read]
  cases t.locate p with
  | error why => simp
  | ok q =>
    simp only [Except.ok.injEq, exists_eq_left', kind?]
    cases t.get? q with
    | none => simp
    | some e => cases e <;> simp [Entry.kind]

end FileTree

end ProtoEmit
