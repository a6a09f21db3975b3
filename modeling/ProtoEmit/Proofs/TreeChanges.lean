/-
  What writing changes in a tree.

  Making folders adds folders where nothing was, at places that the first names of the path lead to. Writing a
  file does that for the folder of the file, and then changes one more place. A `Change` says what was written and
  on whose way folders were made; changes add up as long as the later one writes to other places.
-/

import ProtoEmit.Proofs.TreeKinds

namespace ProtoEmit.FileTree

/-- The first names of a path, or all of them, lead to a place. -/
def OnTheWay (t : FileTree) (q : Place) (p : Path) : Prop :=
  ∃ k ≤ p.parts.length, t.locate ⟨p.root, p.parts.take k⟩ = .ok q

/-- Nothing changed at a place, or a folder was made there on the way to one of the folders `ways`. -/
def Unchanged (t t' : FileTree) (ways : List Path) (q : Place) : Prop :=
  t'.kind? q = t.kind? q ∨ t.kind? q = none ∧ t'.kind? q = some .folder ∧ ∃ p ∈ ways, t'.OnTheWay q p

/-- `t'` comes from `t` by writing the files `done` and making folders on the way to the folders `ways`. -/
structure Change (t t' : FileTree) (done : List (Path × ByteArray)) (ways : List Path) : Prop where
  /-- No folder is lost. -/
  keeps : t.KeepsFolders t'
  /-- The files hold what was written, whatever they held before. -/
  holds : ∀ f ∈ done, t'.read f.1 = .ok f.2
  /-- Everywhere else there is what there was, or a new folder on the way. -/
  elsewhere : ∀ q, (∀ f ∈ done, t'.locate f.1 ≠ .ok q) → t.Unchanged t' ways q

theorem OnTheWay.of_keepsFolders {t t' : FileTree} (h : t.KeepsFolders t') {q : Place} {p : Path}
    (hq : t.OnTheWay q p) : t'.OnTheWay q p := by
  obtain ⟨k, hk, hlocate⟩ := hq
  exact ⟨k, hk, h.locate hlocate⟩

/-- The way to a path goes on to every longer one. -/
theorem OnTheWay.append {t : FileTree} {q : Place} {root : Path.Root} {names : List String}
    (h : t.OnTheWay q ⟨root, names⟩) (rest : List String) : t.OnTheWay q ⟨root, names ++ rest⟩ := by
  obtain ⟨k, hk, hlocate⟩ := h
  simp only at hk hlocate
  refine ⟨k, ?_, ?_⟩
  · rw [List.length_append]
    omega
  · rw [List.take_append_of_le_length hk]
    exact hlocate

/-- Where nothing but folders may be new, the files are those that were there. -/
theorem Unchanged.file_iff {t t' : FileTree} {ways : List Path} {q : Place} (h : t.Unchanged t' ways q)
    (content : ByteArray) : t'.kind? q = some (.file content) ↔ t.kind? q = some (.file content) := by
  rcases h with hsame | ⟨hnone, hfolder, -⟩
  · rw [hsame]
  · simp [hnone, hfolder]

/-! ## Changes one after the other -/

/-- What a later change leaves alone stays as the earlier change left it. -/
theorem Unchanged.trans {t t' t'' : FileTree} {ways ways' : List Path} {q : Place} (h : t.Unchanged t' ways q)
    (h' : t'.Unchanged t'' ways' q) (hkeeps : t'.KeepsFolders t'') : t.Unchanged t'' (ways ++ ways') q := by
  rcases h' with hsame' | ⟨hnone', hfolder', p, hp, hway⟩
  · rcases h with hsame | ⟨hnone, hfolder, p, hp, hway⟩
    · exact .inl (hsame'.trans hsame)
    · exact .inr ⟨hnone, hsame'.trans hfolder, p, List.mem_append_left _ hp, hway.of_keepsFolders hkeeps⟩
  · rcases h with hsame | ⟨-, hfolder, -⟩
    · exact .inr ⟨hsame ▸ hnone', hfolder', p, List.mem_append_right _ hp, hway⟩
    · rw [hfolder] at hnone'
      cases hnone'

namespace Change

variable {t t' t'' : FileTree} {done later : List (Path × ByteArray)} {ways ways' : List Path}

theorem refl (t : FileTree) (ways : List Path) : t.Change t [] ways :=
  ⟨.refl t, fun _ hf => absurd hf List.not_mem_nil, fun _ _ => .inl rfl⟩

/-- Folders may be on the way to more than was asked for. -/
theorem widen (h : t.Change t' done ways)
    (hways : ∀ p ∈ ways, ∀ q, t'.OnTheWay q p → ∃ p' ∈ ways', t'.OnTheWay q p') : t.Change t' done ways' := by
  refine ⟨h.keeps, h.holds, fun q hq => ?_⟩
  rcases h.elsewhere q hq with hsame | ⟨hnone, hfolder, p, hp, hway⟩
  · exact .inl hsame
  · exact .inr ⟨hnone, hfolder, hways p hp q hway⟩

theorem mono (h : t.Change t' done ways) (hways : ways ⊆ ways') : t.Change t' done ways' :=
  h.widen fun p hp _ hq => ⟨p, hways hp, hq⟩

/-- Changes add up if the later one writes to other places than the earlier one. -/
theorem trans (h : t.Change t' done ways) (h' : t'.Change t'' later ways')
    (hapart : ∀ f ∈ done, ∀ g ∈ later, ∀ q, t''.locate f.1 = .ok q → t''.locate g.1 ≠ .ok q) :
    t.Change t'' (done ++ later) (ways ++ ways') := by
  refine ⟨h.keeps.trans h'.keeps, ?_, ?_⟩
  · intro f hf
    rcases List.mem_append.1 hf with hf | hf
    · obtain ⟨q, hlocate, hfile⟩ := read_eq_ok_iff.1 (h.holds f hf)
      have hlocate' := h'.keeps.locate hlocate
      refine read_eq_ok_iff.2 ⟨q, hlocate', ?_⟩
      rcases h'.elsewhere q (fun g hg => hapart f hf g hg q hlocate') with hsame | ⟨hnone, -⟩
      · rw [hsame, hfile]
      · rw [hfile] at hnone
        cases hnone
    · exact h'.holds f hf
  · -- places are compared in the last tree, to which all paths of the earlier ones carry over
    intro q hq
    have hlater := h'.elsewhere q fun g hg => hq g (List.mem_append_right _ hg)
    have hdone := h.elsewhere q fun f hf hlocate => hq f (List.mem_append_left _ hf) (h'.keeps.locate hlocate)
    exact hdone.trans hlater h'.keeps

end Change

/-! ## Making folders -/

theorem kind?_eq_none_iff {t : FileTree} {q : Place} : t.kind? q = none ↔ t.get? q = none :=
  Option.map_eq_none_iff

/-- Putting an entry where no folder is keeps the folders. -/
theorem keepsFolders_insert {t : FileTree} {place : Place} {e : Entry} (hbare : e.IsBare)
    (hfree : t.kind? place ≠ some .folder) : t.KeepsFolders (t.insert place e) := by
  refine ⟨rfl, rfl, fun q hq => ?_⟩
  rcases Entries.kind?_put hbare hfree q with hsame | ⟨rfl, -⟩
  · exact hsame.trans hq
  · exact absurd hq hfree

theorem change_createFolder {t t' : FileTree} {p : Path} (h : t.createFolder p = .ok t') : t.Change t' [] [p] := by
  rw [createFolder] at h
  cases hlocate : t.locate p with
  | error why =>
    rw [hlocate] at h
    cases h
  | ok place =>
    rw [hlocate] at h
    cases hget : t.get? place with
    | some e => simp [hget] at h
    | none =>
      simp only [hget, Except.ok.injEq] at h
      subst h
      have hnone : t.kind? place = none := kind?_eq_none_iff.2 hget
      have hfree : t.kind? place ≠ some .folder := by simp [hnone]
      have hkeeps := keepsFolders_insert Entry.isBare_folder hfree
      refine ⟨hkeeps, fun _ hf => absurd hf List.not_mem_nil, fun q _ => ?_⟩
      rcases Entries.kind?_put Entry.isBare_folder hfree q with hsame | ⟨rfl, hfolder⟩
      · exact .inl hsame
      · refine .inr ⟨hnone, hfolder, p, List.mem_singleton_self p, p.parts.length, Nat.le_refl _, ?_⟩
        rw [List.take_length]
        exact hkeeps.locate hlocate

theorem change_openFolder (t : FileTree) (p : Path) : t.Change (t.openFolder p).1 [] [p] := by
  rw [openFolder]
  cases hcreate : t.createFolder p with
  | ok t' => exact change_createFolder hcreate
  | error why =>
    by_cases hfolder : t.isFolder p = true
    · simp only [hfolder, if_true]
      exact .refl t [p]
    · simp only [hfolder]
      exact .refl t [p]

/-- Whether or not all of them can be made, folders are made on the way to the asked one. -/
theorem change_openFoldersFrom (t : FileTree) (root : Path.Root) (room : Nat) (names : List String) :
    t.Change (t.openFoldersFrom root room names).1 [] [⟨root, names.reverse⟩] := by
  induction room generalizing t names with
  | zero =>
    rw [openFoldersFrom]
    exact .refl t _
  | succ room ih =>
    cases names with
    | nil => exact change_openFolder t _
    | cons name outer =>
      have hopen := change_openFolder t ⟨root, (name :: outer).reverse⟩
      rw [openFoldersFrom]
      split
      · rename_i t₁ heq
        rw [heq] at hopen
        -- the folders around it are made first, and these are on its way
        have haround : t₁.Change (t₁.openFoldersFrom root room outer).1 [] [⟨root, (name :: outer).reverse⟩] := by
          refine (ih t₁ outer).widen fun p hp q hq => ⟨_, List.mem_singleton_self _, ?_⟩
          rw [List.mem_singleton.1 hp] at hq
          rw [List.reverse_cons]
          exact hq.append [name]
        have htwo : t.Change (t₁.openFoldersFrom root room outer).1 [] [⟨root, (name :: outer).reverse⟩] :=
          (hopen.trans haround (by simp)).mono (by simp)
        split
        · rename_i t₂ heq₂
          rw [heq₂] at htwo
          exact (htwo.trans (change_openFolder t₂ _) (by simp)).mono (by simp)
        · exact htwo
      · exact hopen

theorem change_openFolders (t : FileTree) (p : Path) : t.Change (t.openFolders p).1 [] [p] := by
  simpa [openFolders] using change_openFoldersFrom t p.root t.limits.newFolders p.parts.reverse

/-! ## Writing a file -/

/-- A file is written where its path leads, if no folder is there. -/
theorem exists_of_writeFile_done {t t' : FileTree} {p : Path} {content : ByteArray}
    (h : t.writeFile p content = (t', none)) :
    ∃ place, t.locate p = .ok place ∧ t.kind? place ≠ some .folder ∧ t' = t.insert place (.file content) := by
  rw [writeFile] at h
  cases hlocate : t.locate p with
  | error why => simp [hlocate] at h
  | ok place =>
    refine ⟨place, rfl, ?_⟩
    rw [kind?]
    cases hget : t.get? place with
    | none => simpa [hlocate, hget] using h.symm
    | some e =>
      cases e with
      | file old => simpa [hlocate, hget, Entry.kind] using h.symm
      | folder es => simp [hlocate, hget] at h

theorem eq_of_writeFile_refused {t t' : FileTree} {p : Path} {content : ByteArray} {why : Refusal}
    (h : t.writeFile p content = (t', some why)) : t' = t := by
  rw [writeFile] at h
  split at h
  · exact (Prod.mk.inj h).1.symm
  · split at h
    · exact (Prod.mk.inj h).1.symm
    · cases h

theorem change_writeFile {t t' : FileTree} {p : Path} {content : ByteArray} (hne : p.parts ≠ [])
    (h : t.writeFile p content = (t', none)) : t.Change t' [(p, content)] [] := by
  obtain ⟨place, hlocate, hfree, rfl⟩ := exists_of_writeFile_done h
  have hkeeps := keepsFolders_insert (Entry.isBare_file content) hfree
  have hlocate' := hkeeps.locate hlocate
  refine ⟨hkeeps, ?_, ?_⟩
  · intro f hf
    rw [List.mem_singleton.1 hf]
    refine read_eq_ok_iff.2 ⟨place, hlocate', ?_⟩
    have haround := kind?_dropLast_of_follow hne (locate_eq_ok_iff.1 hlocate).2.2
    have hplace : place ≠ [] := by
      rintro rfl
      exact hfree (Entries.kind?_nil _)
    rw [← List.dropLast_append_getLast hplace]
    exact Entries.kind?_put_self _ _ haround
  · intro q hq
    rcases Entries.kind?_put (Entry.isBare_file content) hfree q with hsame | ⟨rfl, -⟩
    · exact .inl hsame
    · exact absurd hlocate' (hq (p, content) (List.mem_singleton_self _))

/-- A file that is written holds its content, and only folders on its way are new. -/
theorem change_of_write_done {t t' : FileTree} {p : Path} {content : ByteArray} (hne : p.parts ≠ [])
    (h : t.write p content = (t', none)) : t.Change t' [(p, content)] [p.parent] := by
  have hfolders := change_openFolders t p.parent
  rw [write] at h
  cases hopen : t.openFolders p.parent with
  | mk t₁ refusal =>
    rw [hopen] at h hfolders
    cases refusal with
    | some why => cases h
    | none => exact hfolders.trans (change_writeFile hne h) (by simp)

/-- A file that is refused changes nothing but folders on its way. -/
theorem change_of_write_refused {t t' : FileTree} {p : Path} {content : ByteArray} {why : Refusal}
    (h : t.write p content = (t', some why)) : t.Change t' [] [p.parent] := by
  have hfolders := change_openFolders t p.parent
  rw [write] at h
  cases hopen : t.openFolders p.parent with
  | mk t₁ refusal =>
    rw [hopen] at h hfolders
    cases refusal with
    | some why' =>
      rw [← (Prod.mk.inj h).1]
      exact hfolders
    | none =>
      rw [eq_of_writeFile_refused h]
      exact hfolders

end ProtoEmit.FileTree
