/-
  Making folders a second time.

  Making the folders of a path makes those that are missing, the outermost first. Whatever came of it, making them
  again changes nothing: if all could be made they are there, and if one was refused it is refused again. Only the
  reason may differ: a file that stood in the way of one folder stands in the way of all folders below it when these
  are tried first.
-/

import ProtoEmit.Proofs.Overwriting

namespace ProtoEmit

/-! ## Paths that can be followed -/

namespace Path

/-- A path that is not refused before its first name is followed. -/
structure Fits (p : Path) : Prop where
  noZero : p.parts.any (·.contains '\x00') = false
  notLong : p.toString.utf8ByteSize ≤ maxPathBytes

/-- A path is too long only if every longer one is. -/
theorem utf8ByteSize_toString_le_of_concat {root : Root} {names : List String} {name : String}
    (h : (⟨root, names ++ [name]⟩ : Path).toString.utf8ByteSize ≤ maxPathBytes) :
    (⟨root, names⟩ : Path).toString.utf8ByteSize ≤ maxPathBytes := by
  by_cases hne : names = []
  · subst hne
    cases root with
    | here => decide
    | slash => decide
    | twoSlashes => decide
  · have htext : "/".intercalate (names ++ [name]) = "/".intercalate names ++ "/" ++ name := by
      rw [String.intercalate_append_of_ne_nil hne (List.cons_ne_nil name []), String.intercalate_singleton]
    have hlength : ("/".intercalate names).utf8ByteSize ≤ ("/".intercalate (names ++ [name])).utf8ByteSize := by
      rw [htext, String.utf8ByteSize_append, String.utf8ByteSize_append]
      omega
    cases root with
    | here =>
      have hconcat : names ++ [name] ≠ [] := List.append_ne_nil_of_left_ne_nil hne _
      simp only [toString, isAbsolute, bne_self_eq_false, Bool.false_eq_true, if_false, List.isEmpty_iff, hne,
        hconcat] at h ⊢
      omega
    | slash =>
      simp [toString, isAbsolute] at h ⊢
      omega
    | twoSlashes =>
      simp [toString, isAbsolute] at h ⊢
      omega

theorem Fits.of_concat {root : Root} {names : List String} {name : String}
    (h : (⟨root, names ++ [name]⟩ : Path).Fits) : (⟨root, names⟩ : Path).Fits := by
  have hzero := h.noZero
  rw [List.any_append, Bool.or_eq_false_iff] at hzero
  exact ⟨hzero.1, utf8ByteSize_toString_le_of_concat h.notLong⟩

end Path

namespace FileTree

variable {t t' : FileTree}

theorem locate_of_fits {p : Path} (h : p.Fits) : t.locate p = t.follow (t.start p) p.parts := by
  rw [locate, h.noZero, if_neg (Nat.not_lt.2 h.notLong)]
  rfl

theorem fits_of_locate {p : Path} {q : Place} (h : t.locate p = .ok q) : p.Fits := by
  obtain ⟨hzero, hlong, -⟩ := locate_eq_ok_iff.1 h
  exact ⟨hzero, hlong⟩

/-- Something is found to be missing only by following names. -/
theorem fits_of_missing {p : Path} (h : t.locate p = .error .missing) : p.Fits := by
  rw [locate] at h
  split at h
  · cases h
  · rename_i hzero
    split at h
    · cases h
    · rename_i hlong
      exact ⟨by simpa using hzero, Nat.not_lt.1 hlong⟩

/-- If a path leads somewhere, the path before its last name leads to a folder. -/
theorem exists_locate_of_concat {root : Path.Root} {names : List String} {name : String} {q : Place}
    (h : t.locate ⟨root, names ++ [name]⟩ = .ok q) :
    ∃ around, t.locate ⟨root, names⟩ = .ok around ∧ t.kind? around = some .folder := by
  have hfits := fits_of_locate h
  rw [locate_of_fits hfits] at h
  obtain ⟨around, hnames, hname⟩ := follow_append_eq_ok_iff.1 h
  exact ⟨around, (locate_of_fits hfits.of_concat).trans hnames, (follow_cons_eq_ok_iff.1 hname).1⟩

/-- Names are followed in two stretches, and a refusal in the first ends it. -/
theorem follow_append (t : FileTree) (place : Place) (names rest : List String) :
    t.follow place (names ++ rest) = (t.follow place names).bind (t.follow · rest) := by
  induction names generalizing place with
  | nil => rfl
  | cons name names ih =>
    rw [List.cons_append, follow, follow]
    split
    · rfl
    · rfl
    · split
      · exact ih _
      · split
        · rfl
        · exact ih _

theorem follow_of_file {place : Place} {content : ByteArray} (h : t.kind? place = some (.file content)) (name : String)
    (rest : List String) : t.follow place (name :: rest) = .error .notFolder := by
  rw [follow, kind?_eq_file_iff.1 h]

/-! ## One folder -/

/-- What comes of making one folder, by what its path leads to. -/
theorem openFolder_cases (t : FileTree) (p : Path) :
    (∃ why, t.locate p = .error why ∧ t.openFolder p = (t, some why)) ∨
      (∃ q, t.locate p = .ok q ∧ t.kind? q = none ∧ t.openFolder p = (t.insert q (.folder []), none)) ∨
      (∃ q, t.locate p = .ok q ∧ t.kind? q = some .folder ∧ t.openFolder p = (t, none)) ∨
      (∃ q content, t.locate p = .ok q ∧ t.kind? q = some (.file content) ∧ t.openFolder p = (t, some .exists)) := by
  cases hlocate : t.locate p with
  | error why => exact .inl ⟨why, rfl, by simp [openFolder, createFolder, isFolder, find?, hlocate]⟩
  | ok q =>
    cases hget : t.get? q with
    | none =>
      refine .inr (.inl ⟨q, rfl, kind?_eq_none_iff.2 hget, ?_⟩)
      simp [openFolder, createFolder, hlocate, hget]
    | some e =>
      cases e with
      | folder es =>
        refine .inr (.inr (.inl ⟨q, rfl, by simp [kind?, hget, Entry.kind], ?_⟩))
        simp [openFolder, createFolder, isFolder, find?, hlocate, hget]
      | file content =>
        refine .inr (.inr (.inr ⟨q, content, rfl, by simp [kind?, hget, Entry.kind], ?_⟩))
        simp [openFolder, createFolder, isFolder, find?, hlocate, hget]

theorem openFolder_of_error {p : Path} {why : Refusal} (h : t.locate p = .error why) :
    t.openFolder p = (t, some why) := by
  rcases openFolder_cases t p with ⟨_, h', heq⟩ | ⟨_, h', -⟩ | ⟨_, h', -⟩ | ⟨_, _, h', -⟩
  · cases h.symm.trans h'
    exact heq
  · cases h.symm.trans h'
  · cases h.symm.trans h'
  · cases h.symm.trans h'

theorem openFolder_of_folder {p : Path} {q : Place} (hlocate : t.locate p = .ok q) (hfolder : t.kind? q = some .folder) :
    t.openFolder p = (t, none) := by
  rcases openFolder_cases t p with ⟨_, h, -⟩ | ⟨_, h, hkind, -⟩ | ⟨_, -, -, h⟩ | ⟨_, _, h, hkind, -⟩
  · cases hlocate.symm.trans h
  · cases hlocate.symm.trans h
    cases hfolder.symm.trans hkind
  · exact h
  · cases hlocate.symm.trans h
    cases hfolder.symm.trans hkind

/-- A folder is found missing because its path leads nowhere. -/
theorem locate_of_openFolder_missing {p : Path} (h : t.openFolder p = (t', some .missing)) :
    t.locate p = .error .missing := by
  rcases openFolder_cases t p with ⟨why, herror, heq⟩ | ⟨_, -, -, heq⟩ | ⟨_, -, -, heq⟩ | ⟨_, _, -, -, heq⟩
  · cases (Prod.mk.inj (h.symm.trans heq)).2
    exact herror
  · cases (Prod.mk.inj (h.symm.trans heq)).2
  · cases (Prod.mk.inj (h.symm.trans heq)).2
  · cases (Prod.mk.inj (h.symm.trans heq)).2

theorem eq_of_openFolder_refused {p : Path} {why : Refusal} (h : t.openFolder p = (t', some why)) : t' = t := by
  rcases openFolder_cases t p with ⟨_, -, heq⟩ | ⟨_, -, -, heq⟩ | ⟨_, -, -, heq⟩ | ⟨_, _, -, -, heq⟩
  · exact (Prod.mk.inj (h.symm.trans heq)).1
  · cases (Prod.mk.inj (h.symm.trans heq)).2
  · exact (Prod.mk.inj (h.symm.trans heq)).1
  · exact (Prod.mk.inj (h.symm.trans heq)).1

/-- A folder that could be made can be made again, which changes nothing. -/
theorem openFolder_again {p : Path} (h : t.openFolder p = (t', none)) : t'.openFolder p = (t', none) := by
  rcases openFolder_cases t p with ⟨_, -, heq⟩ | ⟨q, hlocate, hnone, heq⟩ | ⟨q, hlocate, hfolder, heq⟩ | ⟨_, _, -, -, heq⟩
  · cases (Prod.mk.inj (h.symm.trans heq)).2
  · obtain rfl := (Prod.mk.inj (h.symm.trans heq)).1
    rcases Entries.put_eq_self_or_kind? (.folder []) q t.entries with hsame | hfolder
    · have hinsert : t.insert q (.folder []) = t := by rw [insert, hsame]
      rw [hinsert] at h ⊢
      exact h
    · have hkeeps : t.KeepsFolders (t.insert q (.folder [])) :=
        keepsFolders_insert Entry.isBare_folder (by simp [hnone])
      exact openFolder_of_folder (hkeeps.locate hlocate) hfolder
  · obtain rfl := (Prod.mk.inj (h.symm.trans heq)).1
    exact h
  · cases (Prod.mk.inj (h.symm.trans heq)).2

end FileTree

/-! ## Refused again -/

/-- What is refused again is refused for the same reason, or for a file that now stands further out. -/
def Refusal.Again (why why' : Refusal) : Prop :=
  why' = why ∨ why = .exists ∧ why' = .notFolder

theorem Refusal.Again.trans {why why' why'' : Refusal} (h : why.Again why') (h' : why'.Again why'') :
    why.Again why'' := by
  rcases h' with rfl | ⟨rfl, rfl⟩
  · exact h
  · rcases h with rfl | ⟨-, hno⟩
    · exact .inr ⟨rfl, rfl⟩
    · cases hno

namespace FileTree

variable {t t' : FileTree} {root : Path.Root} {room : Nat} {name : String} {names outer : List String} {why : Refusal}

/-- Where a folder is refused, every folder in it is. -/
theorem openFolder_concat_refused (h : t.openFolder ⟨root, names⟩ = (t', some why))
    (hfits : (⟨root, names ++ [name]⟩ : Path).Fits) :
    ∃ why', t.openFolder ⟨root, names ++ [name]⟩ = (t, some why') ∧ why.Again why' := by
  have hlocate : t.locate ⟨root, names ++ [name]⟩ = (t.locate ⟨root, names⟩).bind (t.follow · [name]) := by
    rw [locate_of_fits hfits, locate_of_fits hfits.of_concat, ← follow_append]
    rfl
  rcases openFolder_cases t ⟨root, names⟩ with ⟨why₀, herror, heq⟩ | ⟨_, -, -, heq⟩ | ⟨_, -, -, heq⟩ |
    ⟨q, content, hq, hfile, heq⟩
  · cases (Prod.mk.inj (h.symm.trans heq)).2
    rw [herror] at hlocate
    exact ⟨why, openFolder_of_error hlocate, .inl rfl⟩
  · cases (Prod.mk.inj (h.symm.trans heq)).2
  · cases (Prod.mk.inj (h.symm.trans heq)).2
  · -- a file stands where the folder would have to be
    cases (Prod.mk.inj (h.symm.trans heq)).2
    rw [hq] at hlocate
    exact ⟨.notFolder, openFolder_of_error (hlocate.trans (follow_of_file hfile name [])), .inr ⟨rfl, rfl⟩⟩

/-! ## Many folders -/

theorem openFoldersFrom_zero (t : FileTree) (root : Path.Root) (names : List String) :
    t.openFoldersFrom root 0 names = (t, some .tooDeep) := by
  rw [openFoldersFrom]

/-- If there is room, a path whose last folder is not found missing is settled by that folder. -/
theorem openFoldersFrom_of_not_missing (hroom : room ≠ 0)
    (h : (t.openFolder ⟨root, names.reverse⟩).2 ≠ some .missing) :
    t.openFoldersFrom root room names = t.openFolder ⟨root, names.reverse⟩ := by
  obtain ⟨room, rfl⟩ := Nat.exists_eq_succ_of_ne_zero hroom
  cases names with
  | nil => rfl
  | cons name outer =>
    rw [openFoldersFrom]
    split
    · rename_i heq
      rw [heq] at h
      exact absurd rfl h
    · rfl

/-- Nothing is made for a folder that is there. -/
theorem openFoldersFrom_of_folder (hroom : room ≠ 0) {q : Place}
    (hlocate : t.locate ⟨root, names.reverse⟩ = .ok q) (hfolder : t.kind? q = some .folder) :
    t.openFoldersFrom root room names = (t, none) := by
  have hopen := openFolder_of_folder hlocate hfolder
  rw [openFoldersFrom_of_not_missing hroom (by rw [hopen]; simp), hopen]

/-- A folder that is missing is made after those around it. -/
theorem openFoldersFrom_of_missing (h : t.openFolder ⟨root, (name :: outer).reverse⟩ = (t, some .missing)) :
    (∃ t₁, t.openFoldersFrom root room outer = (t₁, none) ∧
        t.openFoldersFrom root (room + 1) (name :: outer) = t₁.openFolder ⟨root, (name :: outer).reverse⟩) ∨
      ∃ t₁ why, t.openFoldersFrom root room outer = (t₁, some why) ∧
        t.openFoldersFrom root (room + 1) (name :: outer) = (t₁, some why) := by
  cases hround : t.openFoldersFrom root room outer with
  | mk t₁ refusal =>
    cases refusal with
    | none =>
      refine .inl ⟨t₁, rfl, ?_⟩
      rw [openFoldersFrom, h]
      simp only [hround]
    | some why =>
      refine .inr ⟨t₁, why, rfl, ?_⟩
      rw [openFoldersFrom, h]
      simp only [hround]

/-- There was room for folders if something came of them. -/
theorem room_of_openFoldersFrom {refusal : Option Refusal} (h : t.openFoldersFrom root room names = (t', refusal))
    (hmade : refusal = none ∨ t' ≠ t) : room ≠ 0 := by
  rintro rfl
  rw [openFoldersFrom_zero] at h
  obtain ⟨rfl, rfl⟩ := Prod.mk.inj h
  simp at hmade

/-- Folders that could be made can be made again, which changes nothing. -/
theorem openFoldersFrom_again (h : t.openFoldersFrom root room names = (t', none)) :
    t'.openFoldersFrom root room names = (t', none) := by
  have hroom := room_of_openFoldersFrom h (.inl rfl)
  have hlast : t'.openFolder ⟨root, names.reverse⟩ = (t', none) := by
    by_cases hmissing : (t.openFolder ⟨root, names.reverse⟩).2 = some .missing
    · -- the folders around it were made, and then the last one was tried once more
      have hopen : t.openFolder ⟨root, names.reverse⟩ = (t, some .missing) :=
        Prod.ext (eq_of_openFolder_refused (Prod.ext rfl hmissing)) hmissing
      obtain ⟨room, rfl⟩ := Nat.exists_eq_succ_of_ne_zero hroom
      cases names with
      | nil => cases hopen.symm.trans h
      | cons name outer =>
        rcases openFoldersFrom_of_missing hopen with ⟨t₁, -, heq⟩ | ⟨t₁, why, -, heq⟩
        · exact openFolder_again (heq.symm.trans h)
        · cases (Prod.mk.inj (heq.symm.trans h)).2
    · exact openFolder_again ((openFoldersFrom_of_not_missing hroom hmissing).symm.trans h)
  rw [openFoldersFrom_of_not_missing hroom (by rw [hlast]; simp), hlast]

/-- Where the folders around it are refused without a change, the last folder is. -/
theorem openFoldersFrom_cons_refused (hroom : room ≠ 0) (hfits : (⟨root, (name :: outer).reverse⟩ : Path).Fits)
    (h : t.openFoldersFrom root room outer = (t, some why)) :
    ∃ why', t.openFoldersFrom root (room + 1) (name :: outer) = (t, some why') ∧ why.Again why' := by
  cases houter : t.openFolder ⟨root, outer.reverse⟩ with
  | mk u refusal =>
    cases refusal with
    | none =>
      rw [openFoldersFrom_of_not_missing hroom (by rw [houter]; simp), houter] at h
      cases (Prod.mk.inj h).2
    | some why₀ =>
      rw [List.reverse_cons] at hfits
      obtain ⟨why₁, hlast, hagain⟩ := openFolder_concat_refused houter hfits
      rw [← List.reverse_cons] at hlast
      by_cases hmissing : why₁ = .missing
      · -- the last folder is found missing, so those around it are tried before it
        subst hmissing
        refine ⟨why, ?_, .inl rfl⟩
        rcases openFoldersFrom_of_missing hlast with ⟨t₁, hround, -⟩ | ⟨t₁, why₂, hround, heq⟩
        · cases (Prod.mk.inj (h.symm.trans hround)).2
        · rw [heq, ← hround, h]
      · -- the last folder is refused at once, by what refuses the one around it
        have hnot : why₀ ≠ .missing := by
          rintro rfl
          rcases hagain with heq | ⟨hno, -⟩
          · exact hmissing heq
          · cases hno
        rw [openFoldersFrom_of_not_missing hroom (by rw [houter]; simpa using hnot), houter] at h
        cases (Prod.mk.inj h).2
        refine ⟨why₁, ?_, hagain⟩
        rw [openFoldersFrom_of_not_missing (Nat.succ_ne_zero room) (by rw [hlast]; simpa using hmissing), hlast]

/-- Folders that were refused are refused again, without a change. -/
theorem openFoldersFrom_refused_again (h : t.openFoldersFrom root room names = (t', some why)) :
    ∃ why', t'.openFoldersFrom root room names = (t', some why') ∧ why.Again why' := by
  induction room generalizing t t' names why with
  | zero =>
    rw [openFoldersFrom_zero] at h
    obtain ⟨rfl, hwhy⟩ := Prod.mk.inj h
    exact ⟨.tooDeep, openFoldersFrom_zero t root names, .inl (Option.some.inj hwhy)⟩
  | succ room ih =>
    by_cases hsame : t' = t
    · subst hsame
      exact ⟨why, h, .inl rfl⟩
    -- folders were made, so the last one was missing at first
    have hmissing : (t.openFolder ⟨root, names.reverse⟩).2 = some .missing := by
      by_contra hnot
      rw [openFoldersFrom_of_not_missing (Nat.succ_ne_zero room) hnot] at h
      exact hsame (eq_of_openFolder_refused h)
    have hopen : t.openFolder ⟨root, names.reverse⟩ = (t, some .missing) :=
      Prod.ext (eq_of_openFolder_refused (Prod.ext rfl hmissing)) hmissing
    cases names with
    | nil => exact absurd (eq_of_openFolder_refused h) hsame
    | cons name outer =>
      rcases openFoldersFrom_of_missing hopen with ⟨t₁, hround, heq⟩ | ⟨t₁, why₁, hround, heq⟩
      · -- the folders around it could be made, and the last one is refused by the tree that they left
        have hlast : t₁.openFolder ⟨root, (name :: outer).reverse⟩ = (t', some why) := heq.symm.trans h
        obtain rfl := eq_of_openFolder_refused hlast
        refine ⟨why, ?_, .inl rfl⟩
        by_cases hwhy : why = .missing
        · subst hwhy
          have hagain := openFoldersFrom_again hround
          rcases openFoldersFrom_of_missing hlast with ⟨t₂, hround₂, heq₂⟩ | ⟨t₂, why₂, hround₂, -⟩
          · obtain rfl := (Prod.mk.inj (hagain.symm.trans hround₂)).1
            exact heq₂.trans hlast
          · cases (Prod.mk.inj (hagain.symm.trans hround₂)).2
        · rw [openFoldersFrom_of_not_missing (Nat.succ_ne_zero room) (by rw [hlast]; simpa using hwhy), hlast]
      · obtain ⟨rfl, hwhy⟩ := Prod.mk.inj (heq.symm.trans h)
        cases hwhy
        obtain ⟨why', hround', hagain⟩ := ih hround
        have hfits := fits_of_missing (locate_of_openFolder_missing hopen)
        obtain ⟨why'', hcons, hagain'⟩ :=
          openFoldersFrom_cons_refused (room_of_openFoldersFrom hround (.inr hsame)) hfits hround'
        exact ⟨why'', hcons, hagain.trans hagain'⟩

theorem limits_openFolders {p : Path} {refusal : Option Refusal} (h : t.openFolders p = (t', refusal)) :
    t'.limits = t.limits := by
  have hlimits := (change_openFolders t p).keeps.limits
  rwa [h] at hlimits

theorem openFolders_again {p : Path} (h : t.openFolders p = (t', none)) : t'.openFolders p = (t', none) := by
  rw [openFolders, limits_openFolders h]
  exact openFoldersFrom_again h

theorem openFolders_refused_again {p : Path} (h : t.openFolders p = (t', some why)) :
    ∃ why', t'.openFolders p = (t', some why') ∧ why.Again why' := by
  rw [openFolders, limits_openFolders h]
  exact openFoldersFrom_refused_again h

end FileTree

end ProtoEmit
