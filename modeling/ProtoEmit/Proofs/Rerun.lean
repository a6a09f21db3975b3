/-
  Running a second time.

  A run that follows another one of the same program finds the files and folders that this one left. It writes the
  same files again, is refused where the first one was, and leaves the tree as it is, also where the first run was
  refused half-way, and where two namespaces go to one place by different paths.
-/

import ProtoEmit.Proofs.OpenFolders
import ProtoEmit.Proofs.RunChanges

namespace ProtoEmit

namespace FileTree

/-! ## A file that is there -/

/-- A path leads to a file, and the path of the folder around it to a folder, which may be asked for. -/
structure Holds (t : FileTree) (p : Path) (q : Place) : Prop where
  room : t.limits.newFolders ≠ 0
  file : ∃ content, t.kind? q = some (.file content)
  leads : t.locate p = .ok q
  around : ∃ folder, t.locate p.parent = .ok folder ∧ t.kind? folder = some .folder

variable {t t' : FileTree} {p : Path} {q : Place} {content : ByteArray}

/-- A file that is there is overwritten in its place. -/
theorem Holds.write_eq (h : t.Holds p q) (content : ByteArray) :
    t.write p content = (t.insert q (.file content), none) := by
  obtain ⟨folder, hlocate, hfolder⟩ := h.around
  obtain ⟨old, hold⟩ := h.file
  have hfolders : t.openFolders p.parent = (t, none) :=
    openFoldersFrom_of_folder h.room (by rw [List.reverse_reverse]; exact hlocate) hfolder
  rw [write, hfolders]
  simp only [writeFile, h.leads, kind?_eq_file_iff.1 hold]

theorem Holds.of_keepsFolders (h : t.Holds p q) (hkeeps : t.KeepsFolders t')
    (hfile : ∃ content, t'.kind? q = some (.file content)) : t'.Holds p q := by
  obtain ⟨folder, hlocate, hfolder⟩ := h.around
  exact ⟨hkeeps.limits ▸ h.room, hfile, hkeeps.locate h.leads, folder, hkeeps.locate hlocate,
    hkeeps.kept folder hfolder⟩

/-- A file stays where it is while others are overwritten. -/
theorem Holds.insert (h : t.Holds p q) {r : Place} {old : ByteArray} (hr : t.kind? r = some (.file old))
    (content : ByteArray) : (t.insert r (.file content)).Holds p q := by
  refine h.of_keepsFolders (keepsFolders_overwrite hr content) ?_
  by_cases hne : q = r
  · rw [hne]
    exact ⟨content, kind?_insert_self hr content⟩
  · rw [kind?_insert_of_ne hr hne]
    exact h.file

/-- Where a file could be written, its folder could be asked for. -/
theorem room_of_write (h : t.write p content = (t', none)) : t.limits.newFolders ≠ 0 := by
  rw [write] at h
  cases hopen : t.openFolders p.parent with
  | mk t₁ refusal =>
    rw [hopen] at h
    cases refusal with
    | some why => cases h
    | none => exact room_of_openFoldersFrom hopen (.inl rfl)

/-- A file that was written is there. -/
theorem exists_holds_of_write (hne : p.parts ≠ []) (h : t.write p content = (t', none)) :
    ∃ q, t'.Holds p q ∧ t'.kind? q = some (.file content) := by
  have hchange := change_of_write_done hne h
  obtain ⟨q, hlocate, hfile⟩ := read_eq_ok_iff.1 (hchange.holds (p, content) (List.mem_singleton_self _))
  refine ⟨q, ⟨hchange.keeps.limits ▸ room_of_write h, ⟨content, hfile⟩, hlocate, ?_⟩, hfile⟩
  have hconcat : t'.locate ⟨p.root, p.parts.dropLast ++ [p.parts.getLast hne]⟩ = .ok q := by
    rw [List.dropLast_append_getLast hne]
    exact hlocate
  exact exists_locate_of_concat hconcat

/-- A file stays a file while others are written, and keeps its content unless it is written itself. -/
theorem kind?_of_write (hne : p.parts ≠ []) (h : t.write p content = (t', none)) {r : Place} {old : ByteArray}
    (hr : t.kind? r = some (.file old)) :
    t'.kind? r = some (.file old) ∨ t'.locate p = .ok r ∧ t'.kind? r = some (.file content) := by
  have hchange := change_of_write_done hne h
  by_cases hlocate : t'.locate p = .ok r
  · obtain ⟨q, hq, hfile⟩ := read_eq_ok_iff.1 (hchange.holds (p, content) (List.mem_singleton_self _))
    cases hlocate.symm.trans hq
    exact .inr ⟨hlocate, hfile⟩
  · refine .inl (((hchange.elsewhere r ?_).file_iff old).2 hr)
    intro f hf
    rw [List.mem_singleton.1 hf]
    exact hlocate

/-- What is refused is refused again, without a change. -/
theorem write_refused_again {why : Refusal} (h : t.write p content = (t', some why)) :
    ∃ why', t'.write p content = (t', some why') ∧ why.Again why' := by
  rw [write] at h
  cases hopen : t.openFolders p.parent with
  | mk t₁ refusal =>
    rw [hopen] at h
    cases refusal with
    | some why₁ =>
      obtain ⟨rfl, hwhy⟩ := Prod.mk.inj h
      cases hwhy
      obtain ⟨why', hagain, hwhy'⟩ := openFolders_refused_again hopen
      exact ⟨why', by rw [write, hagain], hwhy'⟩
    | none =>
      simp only at h
      -- the folders could be made, and the file itself was refused
      obtain rfl := eq_of_writeFile_refused h
      exact ⟨why, by rw [write, openFolders_again hopen]; exact h, .inl rfl⟩

end FileTree

/-! ## Files one after the other -/

/-- `t'` comes from `t` by writing all of some files. -/
inductive AllWritten : FileTree → List Output → FileTree → Prop where
  | nil (t : FileTree) : AllWritten t [] t
  | cons {t t₁ t' : FileTree} {o : Output} {rest : List Output} :
    t.write o.file o.content.text.toUTF8 = (t₁, none) → AllWritten t₁ rest t' → AllWritten t (o :: rest) t'

/-- Files are written up to the first that is refused. -/
theorem exists_allWritten (t : FileTree) (outputs : List Output) :
    ∃ done t₁, AllWritten t done t₁ ∧
      (outputs = done ∨ ∃ o later t₂ why, outputs = done ++ o :: later ∧
        t₁.write o.file o.content.text.toUTF8 = (t₂, some why)) := by
  induction outputs generalizing t with
  | nil => exact ⟨[], t, .nil t, .inl rfl⟩
  | cons o rest ih =>
    cases hwrite : t.write o.file o.content.text.toUTF8 with
    | mk t₁ refusal =>
      cases refusal with
      | some why => exact ⟨[], t, .nil t, .inr ⟨o, rest, t₁, why, rfl, hwrite⟩⟩
      | none =>
        obtain ⟨done, t₂, hdone, hend⟩ := ih t₁
        refine ⟨o :: done, t₂, .cons hwrite hdone, ?_⟩
        rcases hend with rfl | ⟨o', later, t₃, why, rfl, hrefused⟩
        · exact .inl rfl
        · exact .inr ⟨o', later, t₃, why, rfl, hrefused⟩

namespace AllWritten

variable {t t' : FileTree} {outputs : List Output}

/-- After files that can be written, it goes on with the others in the tree that these left. -/
theorem writeOutputs_append (h : AllWritten t outputs t') (later : List Output) :
    (writeOutputs t (outputs ++ later)).tree = (writeOutputs t' later).tree ∧
      (writeOutputs t (outputs ++ later)).result =
        (writeOutputs t' later).result.map (outputs.map (·.file) ++ ·) := by
  induction h with
  | nil t =>
    refine ⟨rfl, ?_⟩
    rw [List.nil_append]
    cases (writeOutputs t later).result with
    | error e => rfl
    | ok written => rfl
  | cons hwrite hrest ih =>
    obtain ⟨htree, hresult⟩ := ih
    rw [List.cons_append, writeOutputs, hwrite]
    refine ⟨htree, ?_⟩
    simp only [hresult]
    cases (writeOutputs _ later).result with
    | error e => rfl
    | ok written => rfl

theorem keepsFolders (h : AllWritten t outputs t') (hne : ∀ o ∈ outputs, o.file.parts ≠ []) : t.KeepsFolders t' := by
  induction h with
  | nil t => exact .refl t
  | cons hwrite hrest ih =>
    obtain ⟨hne_o, hne_rest⟩ := List.forall_mem_cons.1 hne
    exact (FileTree.change_of_write_done hne_o hwrite).keeps.trans (ih hne_rest)

/-- A file that is there stays there, with its content unless it is one of those that are written. -/
theorem file_kept (h : AllWritten t outputs t') (hne : ∀ o ∈ outputs, o.file.parts ≠ []) {r : Place}
    {content : ByteArray} (hr : t.kind? r = some (.file content)) :
    (∃ content', t'.kind? r = some (.file content')) ∧
      ((∀ o ∈ outputs, t'.locate o.file ≠ .ok r) → t'.kind? r = some (.file content)) := by
  induction h generalizing content with
  | nil t => exact ⟨⟨content, hr⟩, fun _ => hr⟩
  | cons hwrite hrest ih =>
    obtain ⟨hne_o, hne_rest⟩ := List.forall_mem_cons.1 hne
    rcases FileTree.kind?_of_write hne_o hwrite hr with hsame | ⟨hlocate, hnew⟩
    · obtain ⟨hfile, hcontent⟩ := ih hne_rest hsame
      exact ⟨hfile, fun hother => hcontent (List.forall_mem_cons.1 hother).2⟩
    · refine ⟨(ih hne_rest hnew).1, fun hother => ?_⟩
      exact absurd ((hrest.keepsFolders hne_rest).locate hlocate) (List.forall_mem_cons.1 hother).1

/-- All files that were written are there. -/
theorem holds (h : AllWritten t outputs t') (hne : ∀ o ∈ outputs, o.file.parts ≠ []) :
    ∀ o ∈ outputs, ∃ q, t'.Holds o.file q := by
  induction h with
  | nil t => exact fun _ ho => absurd ho List.not_mem_nil
  | cons hwrite hrest ih =>
    obtain ⟨hne_o, hne_rest⟩ := List.forall_mem_cons.1 hne
    obtain ⟨q, hholds, hfile⟩ := FileTree.exists_holds_of_write hne_o hwrite
    refine List.forall_mem_cons.2 ⟨⟨q, ?_⟩, ih hne_rest⟩
    exact hholds.of_keepsFolders (hrest.keepsFolders hne_rest) (hrest.file_kept hne_rest hfile).1

/-- A file that is overwritten later need not be written before. -/
theorem insert (h : AllWritten t outputs t') (hthere : ∀ o ∈ outputs, ∃ q, t.Holds o.file q) {r : Place}
    {old : ByteArray} (hr : t.kind? r = some (.file old)) (hlater : ∃ o ∈ outputs, t.locate o.file = .ok r)
    (content : ByteArray) : AllWritten (t.insert r (.file content)) outputs t' := by
  -- all files are there, so every write is an overwriting, and these are swapped until one hits the same place
  induction h generalizing old with
  | nil t =>
    obtain ⟨o, ho, -⟩ := hlater
    cases ho
  | @cons t t₁ t' o rest hwrite hrest ih =>
    obtain ⟨⟨q, hq⟩, hthere_rest⟩ := List.forall_mem_cons.1 hthere
    obtain ⟨old_q, hold_q⟩ := hq.file
    obtain rfl := (Prod.mk.inj (hwrite.symm.trans (hq.write_eq _))).1
    refine .cons ((hq.insert hr content).write_eq _) ?_
    by_cases hsame : r = q
    · subst hsame
      rw [FileTree.insert_insert hr]
      exact hrest
    · rw [FileTree.insert_comm hsame hr hold_q]
      refine ih (fun o' ho' => ?_) (FileTree.kind?_insert_of_ne hold_q hsame _ ▸ hr) ?_
      · obtain ⟨q', hq'⟩ := hthere_rest o' ho'
        exact ⟨q', hq'.insert hold_q _⟩
      · obtain ⟨o', ho', hlocate⟩ := hlater
        rcases List.mem_cons.1 ho' with rfl | ho'
        · cases hq.leads.symm.trans hlocate
          exact absurd rfl hsame
        · exact ⟨o', ho', (FileTree.keepsFolders_overwrite hold_q _).locate hlocate⟩

/-- Files that were written can be written again, which changes nothing, also after more folders were made. -/
theorem again (h : AllWritten t outputs t') (hne : ∀ o ∈ outputs, o.file.parts ≠ []) {ways : List Path}
    {t'' : FileTree} (hfolders : t'.Change t'' [] ways) : AllWritten t'' outputs t'' := by
  have hfile : ∀ {q : Place} {content : ByteArray}, t'.kind? q = some (.file content) →
      t''.kind? q = some (.file content) := fun {q content} hq =>
    ((hfolders.elsewhere q fun _ hf => absurd hf List.not_mem_nil).file_iff content).2 hq
  -- by induction the later files change nothing in the last tree, so only the first one is in question
  induction h with
  | nil t => exact .nil _
  | @cons t t₁ t' o rest hwrite hrest ih =>
    obtain ⟨hne_o, hne_rest⟩ := List.forall_mem_cons.1 hne
    have hagain := ih hne_rest hfolders hfile
    obtain ⟨q, hholds₁, hfile₁⟩ := FileTree.exists_holds_of_write hne_o hwrite
    obtain ⟨content, hcontent⟩ := (hrest.file_kept hne_rest hfile₁).1
    have hholds : t''.Holds o.file q :=
      (hholds₁.of_keepsFolders (hrest.keepsFolders hne_rest) ⟨content, hcontent⟩).of_keepsFolders hfolders.keeps
        ⟨content, hfile hcontent⟩
    refine .cons (hholds.write_eq _) ?_
    by_cases hlater : ∃ o' ∈ rest, t''.locate o'.file = .ok q
    · -- another path leads to the same file, and what is written to it then is what stays
      refine hagain.insert (fun o' ho' => ?_) (hfile hcontent) hlater _
      obtain ⟨q', hq'⟩ := hrest.holds hne_rest o' ho'
      obtain ⟨content', hcontent'⟩ := hq'.file
      exact ⟨q', hq'.of_keepsFolders hfolders.keeps ⟨content', hfile hcontent'⟩⟩
    · -- the file has the content that it was given first
      have hsame : t'.kind? q = some (.file o.content.text.toUTF8) := by
        refine (hrest.file_kept hne_rest hfile₁).2 fun o' ho' hlocate => hlater ⟨o', ho', ?_⟩
        exact hfolders.keeps.locate hlocate
      rw [FileTree.insert_eq_self (hfile hsame)]
      exact hagain

end AllWritten

/-- One ending of a run repeats another: with the same files, or refused at the same one. -/
def EndsAgain (first second : Except RunError (List Path)) : Prop :=
  second = first ∨
    ∃ file why why', first = .error (.cannotWrite file why) ∧ second = .error (.cannotWrite file why') ∧ why.Again why'

theorem writeOutputs_of_refused {t t' : FileTree} {o : Output} {why : Refusal} {later : List Output}
    (h : t.write o.file o.content.text.toUTF8 = (t', some why)) :
    writeOutputs t (o :: later) = ⟨t', o.content.events, .error (.cannotWrite o.file why)⟩ := by
  rw [writeOutputs, h]

/-- Writing files that have names a second time leaves the tree as it is and ends in the same way. -/
theorem writeOutputs_again {outputs : List Output} (hne : ∀ o ∈ outputs, o.file.parts ≠ []) (t : FileTree) :
    (writeOutputs (writeOutputs t outputs).tree outputs).tree = (writeOutputs t outputs).tree ∧
      EndsAgain (writeOutputs t outputs).result (writeOutputs (writeOutputs t outputs).tree outputs).result := by
  obtain ⟨done, t₁, hdone, rfl | ⟨o, later, t₂, why, rfl, hrefused⟩⟩ := exists_allWritten t outputs
  · -- all files could be written
    obtain ⟨htree, hresult⟩ := hdone.writeOutputs_append []
    obtain ⟨htree', hresult'⟩ := (hdone.again hne (.refl t₁ [])).writeOutputs_append []
    rw [List.append_nil] at htree hresult htree' hresult'
    have hleft : (writeOutputs t outputs).tree = t₁ := htree
    rw [hleft]
    exact ⟨htree', .inl (hresult'.trans hresult.symm)⟩
  · -- the files before the refused one are overwritten in the tree with the folders that were made for it
    have hne_done : ∀ o ∈ done, o.file.parts ≠ [] := fun o ho => hne o (List.mem_append_left _ ho)
    obtain ⟨why', hrefused', hwhy⟩ := FileTree.write_refused_again hrefused
    obtain ⟨htree, hresult⟩ := hdone.writeOutputs_append (o :: later)
    obtain ⟨htree', hresult'⟩ :=
      (hdone.again hne_done (FileTree.change_of_write_refused hrefused)).writeOutputs_append (o :: later)
    rw [writeOutputs_of_refused hrefused] at htree hresult
    rw [writeOutputs_of_refused hrefused'] at htree' hresult'
    have hleft : (writeOutputs t (done ++ o :: later)).tree = t₂ := htree
    rw [hleft]
    exact ⟨htree', .inr ⟨o.file, why, why', hresult, hresult', hwhy⟩⟩

/-! ## A file without a name -/

/-- Where nothing is there and a folder cannot be put, nothing else can. -/
theorem Entries.put_eq_self_of_none {es : Entries} {place : Place} (hnone : es.kind? place = none)
    (hfolder : es.put (.folder []) place = es) (content : ByteArray) : es.put (.file content) place = es := by
  rcases put_eq_self_or_kind? (.file content) place es with hsame | hfile
  · exact hsame
  have hne : place ≠ [] := by
    rintro rfl
    cases (kind?_nil es).symm.trans hnone
  obtain ⟨around, name, rfl⟩ : ∃ around name, place = around ++ [name] :=
    ⟨_, _, (List.dropLast_append_getLast hne).symm⟩
  -- a file could be put, so the folder around it is there, and a folder could be put too
  have haround : es.kind? around = some .folder := by
    by_contra hnot
    have hfree : es.kind? (around ++ [name]) ≠ some .folder := by simp [hnone]
    have hsame : (es.put (.file content) (around ++ [name])).kind? around = es.kind? around := by
      rcases kind?_put (Entry.isBare_file content) hfree around with hsame | ⟨hself, -⟩
      · exact hsame
      · simp at hself
    rw [← hsame] at hnot
    cases (kind?_append_of_not_folder hnot (List.cons_ne_nil name [])).symm.trans hfile
  have hput := kind?_put_self (.folder []) name haround
  rw [hfolder, hnone] at hput
  cases hput

/-- A path without names leads to a folder, so no file is written there. -/
theorem FileTree.eq_of_write_of_parts_nil {t t' : FileTree} {p : Path} {content : ByteArray} (hnil : p.parts = [])
    (h : t.write p content = (t', none)) : t' = t := by
  have hopen : t.openFolders p.parent = t.openFolder p := by
    obtain ⟨room, hroom⟩ := Nat.exists_eq_succ_of_ne_zero (room_of_write h)
    obtain ⟨root, parts⟩ := p
    obtain rfl : parts = [] := hnil
    rw [openFolders, hroom]
    rfl
  rw [write, hopen] at h
  rcases openFolder_cases t p with ⟨_, -, heq⟩ | ⟨q, hlocate, hnone, heq⟩ | ⟨q, hlocate, hfolder, heq⟩ | ⟨_, _, -, -, heq⟩
  · rw [heq] at h
    cases h
  · rw [heq] at h
    have hkeeps : t.KeepsFolders (t.insert q (.folder [])) := keepsFolders_insert Entry.isBare_folder (by simp [hnone])
    obtain ⟨q', hlocate', hfree, rfl⟩ := exists_of_writeFile_done h
    cases (hkeeps.locate hlocate).symm.trans hlocate'
    rcases Entries.put_eq_self_or_kind? (.folder []) q t.entries with hsame | hfolder
    · have hinsert : t.insert q (.folder []) = t := by rw [insert, hsame]
      rw [hinsert, insert, Entries.put_eq_self_of_none hnone hsame]
    · exact absurd hfolder hfree
  · rw [heq] at h
    obtain ⟨q', hlocate', hfree, -⟩ := exists_of_writeFile_done h
    cases hlocate.symm.trans hlocate'
    exact absurd hfolder hfree
  · rw [heq] at h
    cases h

/-- One file is written a second time as it was the first time, whether or not its path has names. -/
theorem writeOutputs_singleton_again (o : Output) (t : FileTree) :
    (writeOutputs (writeOutputs t [o]).tree [o]).tree = (writeOutputs t [o]).tree ∧
      EndsAgain (writeOutputs t [o]).result (writeOutputs (writeOutputs t [o]).tree [o]).result := by
  by_cases hnil : o.file.parts = []
  · cases hwrite : t.write o.file o.content.text.toUTF8 with
    | mk t' refusal =>
      cases refusal with
      | none =>
        obtain rfl := FileTree.eq_of_write_of_parts_nil hnil hwrite
        have htree : (writeOutputs t' [o]).tree = t' := by
          rw [writeOutputs, hwrite]
          rfl
        simp only [htree]
        exact ⟨trivial, .inl rfl⟩
      | some why =>
        obtain ⟨why', hwrite', hwhy⟩ := FileTree.write_refused_again hwrite
        simp only [writeOutputs_of_refused hwrite, writeOutputs_of_refused hwrite']
        exact ⟨trivial, .inr ⟨o.file, why, why', rfl, rfl, hwhy⟩⟩
  · exact writeOutputs_again (by simpa using hnil) t

namespace Program

/-- What a program's run writes has a name, unless it is a dump. -/
theorem parts_ne_nil_of_mem_units (p : Program) (s : Settings) {o : Output} (ho : o ∈ p.units s (p.files s)) :
    o.file.parts ≠ [] := by
  rw [units_files] at ho
  obtain ⟨n, -, rfl⟩ := List.mem_map.1 ho
  exact Path.parts_join_ne_nil _ (Layout.parts_file_ne_nil _ _)

theorem run_ends_again (p : Program) (s : Settings) (t : FileTree) :
    (p.run s (p.run s t).tree).tree = (p.run s t).tree ∧
      EndsAgain (p.run s t).result (p.run s (p.run s t).tree).result := by
  cases hplace : p.place s with
  | error c =>
    -- whether namespaces collide does not depend on the tree
    have hrun : ∀ t, p.run s t = ⟨t, [.writing s.output], .error (.collision c)⟩ := fun t => by rw [run, hplace]
    simp only [hrun]
    exact ⟨trivial, .inl rfl⟩
  | ok files =>
    cases hdump : s.dump with
    | true =>
      have hrun : ∀ t, (p.run s t).tree = (writeOutputs t [p.dumpOutput s]).tree ∧
          (p.run s t).result = (writeOutputs t [p.dumpOutput s]).result := fun t => by simp [run, hplace, hdump]
      simp only [hrun]
      exact writeOutputs_singleton_again _ t
    | false =>
      have hfiles : s.layout.place p.namespaceNames = .ok files := by simpa [place, hdump] using hplace
      obtain ⟨rfl, -⟩ := (Layout.place_eq_ok_iff _ _ _).1 hfiles
      have hrun : ∀ t, (p.run s t).tree = (writeOutputs t (p.units s (p.files s))).tree ∧
          (p.run s t).result = (writeOutputs t (p.units s (p.files s))).result := fun t =>
        ⟨(run_of_placed hdump hplace t).1, (run_of_placed hdump hplace t).2.2⟩
      simp only [hrun]
      exact writeOutputs_again (fun _ ho => p.parts_ne_nil_of_mem_units s ho) t

/-- A second run right after a first one, in either way of writing and in any tree, leaves the tree as it is. It
    returns the same files, reports the same collision, or is refused at the same file; the reason differs at most in
    that a file in the way is met one folder further out. -/
theorem run_again_unchanged (p : Program) (s : Settings) (t : FileTree) :
    (p.run s (p.run s t).tree).tree = (p.run s t).tree ∧
    (∀ written, (p.run s t).result = .ok written → (p.run s (p.run s t).tree).result = .ok written) ∧
    (∀ c, (p.run s t).result = .error (.collision c) → (p.run s (p.run s t).tree).result = .error (.collision c)) ∧
    (∀ file why, (p.run s t).result = .error (.cannotWrite file why) →
      ∃ why', (p.run s (p.run s t).tree).result = .error (.cannotWrite file why') ∧
        (why' = why ∨ why = .exists ∧ why' = .notFolder)) := by
  obtain ⟨htree, hend⟩ := p.run_ends_again s t
  refine ⟨htree, ?_⟩
  rcases hend with hsame | ⟨file, why, why', hfirst, hsecond, hagain⟩
  · rw [hsame]
    exact ⟨fun _ h => h, fun _ h => h, fun _ why h => ⟨why, h, .inl rfl⟩⟩
  · rw [hfirst, hsecond]
    refine ⟨fun _ h => (by cases h), fun _ h => (by cases h), ?_⟩
    rintro _ _ ⟨⟩
    exact ⟨why', rfl, hagain⟩

end Program

/-- The reason can differ. In the first run the folder `x` is missing, so the folders around the last one are tried;
    in the second run `x` is there, and the file is met on the way to the last folder. -/
example (t : FileTree) (ht : t = { entries := [("f", .file "old".toUTF8)] }) (o : Output)
    (ho : o.file = ⟨.here, ["x", "..", "f", "g", "shop.proto"]⟩) :
    (writeOutputs t [o]).result = .error (.cannotWrite o.file .exists) ∧
      (writeOutputs (writeOutputs t [o]).tree [o]).result = .error (.cannotWrite o.file .notFolder) := by
  obtain ⟨file, content⟩ := o
  subst ht
  obtain rfl : file = _ := ho
  constructor
  · cbv
  · cbv

end ProtoEmit
