/-
  Files whose way is free.

  Names that lead straight down from a folder, past no file, can all be made folders, unless more of them are missing
  around one another than are made at once. A file at the end of such names is written, and leaves the way free to
  every other file of which it is no folder and which is none of its own folders. So files below one folder, none of
  which lies on the way to another, can be written one after the other.
-/

import Mathlib.Data.List.Induction
import ProtoEmit.Compiler
import ProtoEmit.Proofs.OpenFolders

namespace ProtoEmit

/-! ## Names that lead straight down -/

namespace Path

/-- The path that goes on from another one. -/
def extend (p : Path) (names : List String) : Path :=
  ⟨p.root, p.parts ++ names⟩

theorem extend_extend (p : Path) (names more : List String) : (p.extend names).extend more = p.extend (names ++ more) := by
  simp [extend]

theorem Fits.of_extend {p : Path} {names : List String} (h : (p.extend names).Fits) : p.Fits := by
  induction names using List.reverseRecOn with
  | nil => simpa [extend] using h
  | append_singleton names name ih =>
    refine ih ?_
    rw [← extend_extend] at h
    exact h.of_concat

theorem Fits.of_extend_append {p : Path} {names more : List String} (h : (p.extend (names ++ more)).Fits) :
    (p.extend names).Fits := by
  rw [← extend_extend] at h
  exact h.of_extend

theorem parent_extend_concat (p : Path) (names : List String) (name : String) :
    (p.extend (names ++ [name])).parent = p.extend names := by
  simp [extend, parent, ← List.append_assoc]

/-- Names that lead straight down, none of which is too long. -/
def AreDown (names : List String) : Prop :=
  ∀ name ∈ names, name ≠ ".." ∧ name.utf8ByteSize ≤ maxNameBytes

theorem AreDown.of_append_left {names more : List String} (h : AreDown (names ++ more)) : AreDown names :=
  fun name hname => h name (List.mem_append_left _ hname)

theorem AreDown.of_append_right {names more : List String} (h : AreDown (names ++ more)) : AreDown more :=
  fun name hname => h name (List.mem_append_right _ hname)

/-- Names that lead from a folder straight down to a file, by a path that is not refused as such. -/
structure LeadsDown (folder : Path) (names : List String) : Prop where
  ne_nil : names ≠ []
  down : AreDown names
  fits : (folder.extend names).Fits

end Path

namespace FileTree

variable {t t' : FileTree} {base : Place} {names : List String} {folder : Path}

/-- No file stands at the folders that names lead to from a place. -/
def Passable (t : FileTree) (base : Place) (names : List String) : Prop :=
  ∀ r, r <+: names → ∀ content, t.kind? (base ++ r) ≠ some (.file content)

theorem Passable.of_append {more : List String} (h : t.Passable base (names ++ more)) : t.Passable base names :=
  fun r hr => h r (hr.trans (List.prefix_append names more))

/-- Names that lead straight down past no file lead there, or something on the way is missing. -/
theorem follow_down {name : String} (hdown : Path.AreDown (names ++ [name])) (hpass : t.Passable base names) :
    t.follow base (names ++ [name]) = .ok (base ++ (names ++ [name])) ∧ t.kind? (base ++ names) = some .folder ∨
      t.follow base (names ++ [name]) = .error .missing ∧ t.kind? (base ++ names) = none := by
  induction names generalizing base with
  | nil =>
    obtain ⟨hup, hlong⟩ := hdown name List.mem_cons_self
    have hnot := hpass [] List.prefix_rfl
    rw [List.append_nil] at hnot ⊢
    rw [List.nil_append, follow]
    unfold kind? at hnot ⊢
    cases hget : t.get? base with
    | none => exact .inr ⟨rfl, rfl⟩
    | some e =>
      cases e with
      | file content => exact absurd (by rw [hget]; rfl) (hnot content)
      | folder es =>
        refine .inl ⟨?_, rfl⟩
        simp [hup, Nat.not_lt.2 hlong, follow]
  | cons first rest ih =>
    obtain ⟨hup, hlong⟩ := hdown first List.mem_cons_self
    have hnot := hpass [] List.nil_prefix
    rw [List.append_nil] at hnot
    have hrest : t.Passable (base ++ [first]) rest := by
      intro r hr content
      rw [List.append_assoc]
      exact hpass (first :: r) ((List.prefix_cons_inj first).2 hr) content
    have hnext := ih (Path.AreDown.of_append_right (show Path.AreDown ([first] ++ (rest ++ [name])) from hdown)) hrest
    rw [List.append_assoc, List.append_assoc] at hnext
    rw [List.cons_append, follow]
    cases hget : t.get? base with
    | none =>
      refine .inr ⟨rfl, ?_⟩
      have hnone : t.kind? base ≠ some .folder := by simp [kind?, hget]
      exact Entries.kind?_append_of_not_folder hnone (List.cons_ne_nil first rest)
    | some e =>
      cases e with
      | file content => exact absurd (by rw [kind?, hget]; rfl) (hnot content)
      | folder es =>
        simp only [if_neg hup, if_neg (Nat.not_lt.2 hlong)]
        exact hnext

/-- Below a folder that is there, one more name can be followed. -/
theorem follow_of_folder {name : String} (hdown : Path.AreDown (names ++ [name]))
    (h : t.kind? (base ++ names) = some .folder) :
    t.follow base (names ++ [name]) = .ok (base ++ (names ++ [name])) := by
  have hpass : t.Passable base names := by
    intro r hr content
    obtain ⟨more, rfl⟩ := hr
    rw [← List.append_assoc] at h
    have hfolder : t.kind? (base ++ r) = some .folder := Entries.kind?_of_append h
    simp [hfolder]
  rcases follow_down hdown hpass with ⟨hfollow, -⟩ | ⟨-, hnone⟩
  · exact hfollow
  · rw [h] at hnone
    cases hnone

/-- A path is followed from where its first part leads. -/
theorem locate_extend (hbase : t.locate folder = .ok base) (hfits : (folder.extend names).Fits) :
    t.locate (folder.extend names) = t.follow base names := by
  rw [locate_of_fits hfits.of_extend] at hbase
  have hfollow : t.follow (t.start folder) (folder.parts ++ names) = t.follow base names := by
    rw [follow_append, hbase]
    rfl
  rw [locate_of_fits hfits]
  exact hfollow

/-! ## Making folders downwards -/

/-- `t'` comes from `t` by making the folders that are missing from a place down to where names lead. -/
structure Opened (t t' : FileTree) (base : Place) (names : List String) : Prop where
  keeps : t.KeepsFolders t'
  there : t'.kind? (base ++ names) = some .folder
  elsewhere : ∀ q, t'.kind? q = t.kind? q ∨ t'.kind? q = some .folder ∧ ∃ r, r <+: names ∧ q = base ++ r

theorem Opened.refl (h : t.kind? (base ++ names) = some .folder) : t.Opened t base names :=
  ⟨.refl t, h, fun _ => .inl rfl⟩

theorem Opened.trans {t'' : FileTree} {more : List String} (h : t.Opened t' base names)
    (h' : t'.Opened t'' base (names ++ more)) : t.Opened t'' base (names ++ more) := by
  refine ⟨h.keeps.trans h'.keeps, h'.there, fun q => ?_⟩
  rcases h'.elsewhere q with hsame' | hnew
  · rcases h.elsewhere q with hsame | ⟨hfolder, r, hr, hq⟩
    · exact .inl (hsame'.trans hsame)
    · exact .inr ⟨hsame'.trans hfolder, r, hr.trans (List.prefix_append names more), hq⟩
  · exact .inr hnew

/-- Folders that are made stand in the way of no other folder. -/
theorem Opened.passable (h : t.Opened t' base names) {other : List String} (hpass : t.Passable base other) :
    t'.Passable base other := by
  intro r hr content
  rcases h.elsewhere (base ++ r) with hsame | ⟨hfolder, -⟩
  · rw [hsame]
    exact hpass r hr content
  · simp [hfolder]

/-- One more folder is made in a folder that is there. -/
theorem exists_openFolder_of_folder {p : Path} {name : String} (hlocate : t.locate p = .ok (base ++ (names ++ [name])))
    (haround : t.kind? (base ++ names) = some .folder)
    (hnot : ∀ content, t.kind? (base ++ (names ++ [name])) ≠ some (.file content)) :
    ∃ t', t.openFolder p = (t', none) ∧ t.Opened t' base (names ++ [name]) := by
  rcases openFolder_cases t p with ⟨_, h, -⟩ | ⟨q, h, hnone, heq⟩ | ⟨q, h, hfolder, heq⟩ | ⟨q, content, h, hfile, -⟩
  · cases hlocate.symm.trans h
  · -- nothing is there, so the folder is made, and nothing else changes
    cases hlocate.symm.trans h
    have hfree : t.kind? (base ++ (names ++ [name])) ≠ some .folder := by simp [hnone]
    have hmade : (t.insert (base ++ (names ++ [name])) (.folder [])).kind? (base ++ (names ++ [name])) = some .folder := by
      rw [← List.append_assoc]
      exact Entries.kind?_put_self (.folder []) name haround
    refine ⟨_, heq, keepsFolders_insert Entry.isBare_folder hfree, hmade, fun q => ?_⟩
    rcases Entries.kind?_put Entry.isBare_folder hfree q with hsame | ⟨rfl, -⟩
    · exact .inl hsame
    · exact .inr ⟨hmade, names ++ [name], List.prefix_rfl, rfl⟩
  · cases hlocate.symm.trans h
    exact ⟨t, heq, .refl hfolder⟩
  · cases hlocate.symm.trans h
    exact absurd hfile (hnot content)

section Steps

variable {room : Nat} {name : String}

theorem reverse_parts_concat (folder : Path) (names : List String) (name : String) :
    (folder.parts ++ (names ++ [name])).reverse = name :: (folder.parts ++ names).reverse := by
  simp

theorem path_reverse_reverse (folder : Path) (names : List String) :
    (⟨folder.root, (folder.parts ++ names).reverse.reverse⟩ : Path) = folder.extend names := by
  rw [List.reverse_reverse, Path.extend]

/-- If there is room, nothing more is made than a folder that can be made at once. -/
theorem openFoldersFrom_extend_of_done (hroom : room ≠ 0) (h : t.openFolder (folder.extend names) = (t', none)) :
    t.openFoldersFrom folder.root room (folder.parts ++ names).reverse = (t', none) := by
  rw [← path_reverse_reverse] at h
  rw [openFoldersFrom_of_not_missing hroom (by rw [h]; simp), h]

/-- If there is room, what comes of a folder that is missing follows from what comes of the one around it. -/
theorem openFoldersFrom_extend_of_missing
    (hmissing : t.locate (folder.extend (names ++ [name])) = .error .missing) {t₁ : FileTree} {refusal : Option Refusal}
    (haround : t.openFoldersFrom folder.root room (folder.parts ++ names).reverse = (t₁, refusal)) :
    t.openFoldersFrom folder.root (room + 1) (folder.parts ++ (names ++ [name])).reverse =
      if refusal = none then t₁.openFolder (folder.extend (names ++ [name])) else (t₁, refusal) := by
  have hopen := openFolder_of_error hmissing
  rw [← path_reverse_reverse, reverse_parts_concat] at hopen ⊢
  rcases openFoldersFrom_of_missing hopen with ⟨t₂, hround, heq⟩ | ⟨t₂, why, hround, heq⟩
  · obtain ⟨rfl, rfl⟩ := Prod.mk.inj (haround.symm.trans hround)
    rw [heq, if_pos rfl]
  · obtain ⟨rfl, rfl⟩ := Prod.mk.inj (haround.symm.trans hround)
    rw [heq, if_neg (by simp)]

end Steps

/-- Folders past no file can be made, unless too many are missing around one another. -/
theorem openFoldersFrom_down (hbase : t.locate folder = .ok base) (hfolder : t.kind? base = some .folder)
    (hdown : Path.AreDown names) (hfits : (folder.extend names).Fits) (hpass : t.Passable base names) (room : Nat) :
    (∃ t', t.openFoldersFrom folder.root room (folder.parts ++ names).reverse = (t', none) ∧
        t.Opened t' base names) ∨
      t.openFoldersFrom folder.root room (folder.parts ++ names).reverse = (t, some .tooDeep) ∧
        (room = 0 ∨ room < names.length) := by
  -- from the innermost folder outwards, as they are tried
  induction names using List.reverseRecOn generalizing room with
  | nil =>
    rw [List.append_nil]
    by_cases hroom : room = 0
    · rw [hroom, openFoldersFrom_zero]
      exact .inr ⟨rfl, .inl rfl⟩
    · refine .inl ⟨t, ?_, .refl (by rwa [List.append_nil])⟩
      exact openFoldersFrom_of_folder hroom (by rw [List.reverse_reverse]; exact hbase) hfolder
  | append_singleton names name ih =>
    by_cases hroom : room = 0
    · rw [hroom]
      exact .inr ⟨openFoldersFrom_zero t folder.root _, .inl rfl⟩
    obtain ⟨room, rfl⟩ := Nat.exists_eq_succ_of_ne_zero hroom
    have hlocate := locate_extend hbase hfits
    rcases follow_down hdown hpass.of_append with ⟨hfollow, haround⟩ | ⟨hfollow, hnone⟩
    · -- the folder around it is there
      obtain ⟨t', hopen, hopened⟩ :=
        exists_openFolder_of_folder (hlocate.trans hfollow) haround (hpass _ List.prefix_rfl)
      exact .inl ⟨t', openFoldersFrom_extend_of_done hroom hopen, hopened⟩
    · -- the folders around it are made first, for which there is less room
      have hmissing := hlocate.trans hfollow
      rcases ih hdown.of_append_left hfits.of_extend_append hpass.of_append room with
        ⟨t₁, haround, hopened⟩ | ⟨haround, hlittle⟩
      · have hpass₁ := hopened.passable hpass
        have hlocate₁ : t₁.locate (folder.extend (names ++ [name])) = .ok (base ++ (names ++ [name])) := by
          rw [locate_extend (hopened.keeps.locate hbase) hfits]
          exact follow_of_folder hdown hopened.there
        obtain ⟨t', hopen, hopened'⟩ := exists_openFolder_of_folder hlocate₁ hopened.there (hpass₁ _ List.prefix_rfl)
        refine .inl ⟨t', ?_, hopened.trans hopened'⟩
        rw [openFoldersFrom_extend_of_missing hmissing haround, if_pos rfl, hopen]
      · have hne : names ≠ [] := by
          rintro rfl
          rw [List.append_nil, hfolder] at hnone
          cases hnone
        have hlength : 0 < names.length := List.length_pos_of_ne_nil hne
        refine .inr ⟨?_, .inr ?_⟩
        · rw [openFoldersFrom_extend_of_missing hmissing haround, if_neg (by simp)]
        · rw [List.length_append, List.length_singleton]
          omega

/-! ## Too many folders -/

section TooDeep

variable {first : String} {more : List String}

/-- Below nothing there is nothing. -/
theorem kind?_cons_of_none (h : t.kind? (base ++ [first]) = none) (rest : List String) :
    t.kind? (base ++ first :: rest) = none := by
  by_cases hrest : rest = []
  · rw [hrest]
    exact h
  · have hnot : t.kind? (base ++ [first]) ≠ some .folder := by simp [h]
    have hbelow : t.kind? (base ++ [first] ++ rest) = none := Entries.kind?_append_of_not_folder hnot hrest
    rwa [List.append_assoc] at hbelow

/-- If more folders are missing around one another than there is room for, none of them is made. -/
theorem openFoldersFrom_tooDeep (hbase : t.locate folder = .ok base) (hfolder : t.kind? base = some .folder)
    (hdown : Path.AreDown (first :: more)) (hfits : (folder.extend (first :: more)).Fits)
    (hnone : t.kind? (base ++ [first]) = none) {room : Nat} (hroom : room ≤ more.length) :
    t.openFoldersFrom folder.root room (folder.parts ++ first :: more).reverse = (t, some .tooDeep) := by
  induction more using List.reverseRecOn generalizing room with
  | nil =>
    obtain rfl : room = 0 := Nat.le_zero.1 hroom
    exact openFoldersFrom_zero t folder.root _
  | append_singleton more name ih =>
    have hcons : first :: (more ++ [name]) = (first :: more) ++ [name] := rfl
    rw [hcons] at hdown hfits ⊢
    by_cases hzero : room = 0
    · rw [hzero]
      exact openFoldersFrom_zero t folder.root _
    obtain ⟨room, rfl⟩ := Nat.exists_eq_succ_of_ne_zero hzero
    have hpass : t.Passable base (first :: more) := by
      intro r hr content
      rcases List.prefix_cons_iff.1 hr with rfl | ⟨rest, rfl, -⟩
      · rw [List.append_nil, hfolder]
        simp
      · rw [kind?_cons_of_none hnone]
        simp
    -- the folder around the last one is missing, so it is tried next, with less room
    have hmissing : t.locate (folder.extend ((first :: more) ++ [name])) = .error .missing := by
      refine (locate_extend hbase hfits).trans ?_
      rcases follow_down hdown hpass with ⟨-, hthere⟩ | ⟨hfollow, -⟩
      · rw [kind?_cons_of_none hnone] at hthere
        cases hthere
      · exact hfollow
    have hroom' : room ≤ more.length := by
      rw [List.length_append, List.length_singleton] at hroom
      exact Nat.le_of_succ_le_succ hroom
    have haround := ih hdown.of_append_left hfits.of_extend_append hroom'
    rw [openFoldersFrom_extend_of_missing hmissing haround, if_neg (by simp)]

/-- If more folders are missing than are made at once, writing a file in them is refused without a change. -/
theorem write_tooDeep (hbase : t.locate folder = .ok base) (hfolder : t.kind? base = some .folder) {name : String}
    (hleads : folder.LeadsDown (first :: more ++ [name])) (hnone : t.kind? (base ++ [first]) = none)
    (hroom : t.limits.newFolders ≤ more.length) (content : ByteArray) :
    t.write (folder.extend (first :: more ++ [name])) content = (t, some .tooDeep) := by
  have hopen : t.openFolders (folder.extend (first :: more)) = (t, some .tooDeep) :=
    openFoldersFrom_tooDeep hbase hfolder hleads.down.of_append_left hleads.fits.of_extend_append hnone hroom
  rw [write, Path.parent_extend_concat, hopen]

end TooDeep

/-! ## Files that stand in no other's way -/

/-- Nothing stands in the way of a file below a place, and no folder stands where it goes. -/
structure Free (t : FileTree) (base : Place) (names : List String) : Prop where
  way : ∀ r, r <+: names → r ≠ names → ∀ content, t.kind? (base ++ r) ≠ some (.file content)
  spot : t.kind? (base ++ names) ≠ some .folder

/-- `t'` comes from `t` by writing one file, which may need new folders on its way. -/
structure Added (t t' : FileTree) (base : Place) (names : List String) : Prop where
  keeps : t.KeepsFolders t'
  elsewhere : ∀ q, t'.kind? q = t.kind? q ∨ q = base ++ names ∧ t'.kind? q ≠ some .folder ∨
    t'.kind? q = some .folder ∧ ∃ r, r <+: names ∧ q = base ++ r

/-- A file that is written leaves the way free to others, unless one of the two lies on the way to the other. -/
theorem Free.of_added {other : List String} (h : t.Free base other) (hadded : t.Added t' base names)
    (hapart : ¬ names <+: other ∧ ¬ other <+: names) : t'.Free base other := by
  constructor
  · intro r hr hne content
    rcases hadded.elsewhere (base ++ r) with hsame | ⟨hq, -⟩ | ⟨hfolder, -⟩
    · rw [hsame]
      exact h.way r hr hne content
    · -- the written file would be a folder of the other one
      rw [List.append_cancel_left_eq] at hq
      rw [hq] at hr
      exact absurd hr hapart.1
    · simp [hfolder]
  · rcases hadded.elsewhere (base ++ other) with hsame | ⟨-, hnot⟩ | ⟨-, r, hr, hq⟩
    · rw [hsame]
      exact h.spot
    · exact hnot
    · -- the other file would be a folder of the written one
      rw [List.append_cancel_left_eq] at hq
      rw [← hq] at hr
      exact absurd hr hapart.2

theorem writeFile_of_not_folder {p : Path} {q : Place} (hlocate : t.locate p = .ok q)
    (hnot : t.kind? q ≠ some .folder) (content : ByteArray) :
    t.writeFile p content = (t.insert q (.file content), none) := by
  rw [writeFile, hlocate]
  rw [kind?] at hnot
  cases hget : t.get? q with
  | none => simp only [hget]
  | some e =>
    cases e with
    | file old => simp only [hget]
    | folder es =>
      rw [hget] at hnot
      exact absurd rfl hnot

/-- A file whose way is free can be written, unless it lies too deep. -/
theorem write_of_free (hbase : t.locate folder = .ok base) (hfolder : t.kind? base = some .folder)
    (hleads : folder.LeadsDown names) (hfree : t.Free base names) (content : ByteArray) :
    (∃ t', t.write (folder.extend names) content = (t', none) ∧ t.Added t' base names) ∨
      t.write (folder.extend names) content = (t, some .tooDeep) ∧
        (t.limits.newFolders = 0 ∨ t.limits.newFolders + 1 < names.length) := by
  obtain ⟨hne, hdown, hfits⟩ := hleads
  obtain ⟨folders, name, rfl⟩ : ∃ folders name, names = folders ++ [name] :=
    ⟨_, _, (List.dropLast_append_getLast hne).symm⟩
  have hopens : t.openFolders (folder.extend (folders ++ [name])).parent =
      t.openFoldersFrom folder.root t.limits.newFolders (folder.parts ++ folders).reverse := by
    rw [Path.parent_extend_concat]
    rfl
  -- no folder of the file is the file's own place
  have hshorter : ∀ r, r <+: folders → r ≠ folders ++ [name] := by
    rintro r hr rfl
    have hlength := hr.length_le
    rw [List.length_append, List.length_singleton] at hlength
    omega
  have hpass : t.Passable base folders := fun r hr =>
    hfree.way r (hr.trans (List.prefix_append _ _)) (hshorter r hr)
  rcases openFoldersFrom_down hbase hfolder hdown.of_append_left hfits.of_extend_append hpass
      t.limits.newFolders with
    ⟨t₁, hopen, hopened⟩ | ⟨hopen, hlittle⟩
  · -- the folders are there, and none of them is the place of the file
    have hlocate : t₁.locate (folder.extend (folders ++ [name])) = .ok (base ++ (folders ++ [name])) := by
      rw [locate_extend (hopened.keeps.locate hbase) hfits]
      exact follow_of_folder hdown hopened.there
    have hspot : t₁.kind? (base ++ (folders ++ [name])) ≠ some .folder := by
      rcases hopened.elsewhere (base ++ (folders ++ [name])) with hsame | ⟨-, r, hr, hq⟩
      · rw [hsame]
        exact hfree.spot
      · rw [List.append_cancel_left_eq] at hq
        exact absurd hq.symm (hshorter r hr)
    refine .inl ⟨t₁.insert (base ++ (folders ++ [name])) (.file content), ?_, ?_, fun q => ?_⟩
    · rw [write, hopens, hopen]
      exact writeFile_of_not_folder hlocate hspot content
    · exact hopened.keeps.trans (keepsFolders_insert (Entry.isBare_file content) hspot)
    · rcases Entries.kind?_put (Entry.isBare_file content) hspot q with hsame | ⟨rfl, hfile⟩
      · rcases hopened.elsewhere q with hsame' | ⟨hmade, r, hr, hq⟩
        · exact .inl (hsame.trans hsame')
        · exact .inr (.inr ⟨hsame.trans hmade, r, hr.trans (List.prefix_append _ _), hq⟩)
      · refine .inr (.inl ⟨rfl, fun hno => ?_⟩)
        cases hfile.symm.trans hno
  · refine .inr ⟨?_, ?_⟩
    · rw [write, hopens, hopen]
    · rw [List.length_append, List.length_singleton, Nat.add_lt_add_iff_right]
      exact hlittle

end FileTree

/-- Files below a folder, none of which lies on the way to another, are all written if their ways are free at first,
    or one of them lies too deep. -/
theorem writeOutputs_of_free {α : Type} {t : FileTree} {folder : Path} {base : Place} {items : List α}
    {names : α → List String} (content : α → Rendered) (hbase : t.locate folder = .ok base)
    (hfolder : t.kind? base = some .folder) (hleads : ∀ a ∈ items, folder.LeadsDown (names a))
    (hapart : items.Pairwise fun a b => ¬ names a <+: names b ∧ ¬ names b <+: names a)
    (hfree : ∀ a ∈ items, t.Free base (names a)) :
    (writeOutputs t (items.map fun a => ⟨folder.extend (names a), content a⟩)).result =
        .ok (items.map fun a => folder.extend (names a)) ∨
      ∃ a ∈ items, (t.limits.newFolders = 0 ∨ t.limits.newFolders + 1 < (names a).length) ∧
        (writeOutputs t (items.map fun a => ⟨folder.extend (names a), content a⟩)).result =
          .error (.cannotWrite (folder.extend (names a)) .tooDeep) := by
  induction items generalizing t with
  | nil => exact .inl rfl
  | cons a rest ih =>
    obtain ⟨hleads_a, hleads_rest⟩ := List.forall_mem_cons.1 hleads
    obtain ⟨hfree_a, hfree_rest⟩ := List.forall_mem_cons.1 hfree
    obtain ⟨hapart_a, hapart_rest⟩ := List.pairwise_cons.1 hapart
    rw [List.map_cons, writeOutputs]
    rcases FileTree.write_of_free hbase hfolder hleads_a hfree_a (content a).text.toUTF8 with
      ⟨t', hwrite, hadded⟩ | ⟨hwrite, hdeep⟩
    · -- the first file is there, and the ways of the others are as free as before
      rw [hwrite]
      have hfree' : ∀ b ∈ rest, t'.Free base (names b) := fun b hb => (hfree_rest b hb).of_added hadded (hapart_a b hb)
      have hlater := ih (hadded.keeps.locate hbase) (hadded.keeps.kept base hfolder) hleads_rest hapart_rest hfree'
      rw [hadded.keeps.limits] at hlater
      rcases hlater with hok | ⟨b, hb, hdeep, herror⟩
      · refine .inl ?_
        simp only [hok]
        rfl
      · refine .inr ⟨b, List.mem_cons_of_mem _ hb, hdeep, ?_⟩
        simp only [herror]
        rfl
    · rw [hwrite]
      exact .inr ⟨a, List.mem_cons_self, hdeep, rfl⟩

end ProtoEmit
