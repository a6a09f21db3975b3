/-
  What a run changes in the tree.

  Files at places of their own do not overwrite each other, so the writes of a run add up: whichever way it ends, the
  files up to the one that is refused hold their text, and apart from them there are only new folders on the way.
  Files below one folder have places of their own, since none of their paths leads back.
-/

import ProtoEmit.Proofs.BelowOutput
import ProtoEmit.Proofs.TreeChanges

namespace ProtoEmit

/-! ## Writing several files -/

/-- Different paths below one folder lead to different places. -/
theorem FileTree.eq_of_locate_eq {t : FileTree} {p q folder : Path} {place : Place} (hp : p.IsBelow folder)
    (hq : q.IsBelow folder) (h : t.locate p = .ok place) (h' : t.locate q = .ok place) : p = q := by
  obtain ⟨added, -, hup, rfl⟩ := hp
  obtain ⟨added', -, hup', rfl⟩ := hq
  -- both paths lead first to the folder, and from there straight down
  obtain ⟨base, hfolder, hadded⟩ := follow_append_eq_ok_iff.1 (locate_eq_ok_iff.1 h).2.2
  obtain ⟨base', hfolder', hadded'⟩ := follow_append_eq_ok_iff.1 (locate_eq_ok_iff.1 h').2.2
  have hsame : base = base' := Except.ok.inj (hfolder.symm.trans hfolder')
  have heq := (eq_append_of_follow hup hadded).symm.trans (eq_append_of_follow hup' hadded')
  rw [hsame, List.append_cancel_left_eq] at heq
  rw [heq]

/-- No two of the paths lead to one place. -/
def FileTree.Apart (t : FileTree) (files : List Path) : Prop :=
  files.Pairwise fun f g => ∀ q, t.locate f = .ok q → t.locate g ≠ .ok q

theorem FileTree.apart_of_isBelow {files : List Path} {folder : Path} (hbelow : ∀ f ∈ files, f.IsBelow folder)
    (hdistinct : files.Nodup) (t : FileTree) : t.Apart files := by
  refine hdistinct.imp_of_mem fun hf hg hne q hlocate hlocate' => hne ?_
  exact eq_of_locate_eq (hbelow _ hf) (hbelow _ hg) hlocate hlocate'

/-- A file and what is written to it. -/
def Output.entry (o : Output) : Path × ByteArray :=
  (o.file, o.content.text.toUTF8)

/-- The files that are reported as written. -/
def writtenFiles (log : List Event) : List Path :=
  log.filterMap fun e => match e with
    | .wrote file => some file
    | _ => none

theorem writtenFiles_append (log log' : List Event) :
    writtenFiles (log ++ log') = writtenFiles log ++ writtenFiles log' :=
  List.filterMap_append

/-- Writing files to places of their own stops at the first that is refused, after which nothing is written. -/
theorem writeOutputs_change {outputs : List Output} (hparts : ∀ o ∈ outputs, o.file.parts ≠ [])
    (hquiet : ∀ o ∈ outputs, writtenFiles o.content.events = []) {t : FileTree}
    (hapart : (writeOutputs t outputs).tree.Apart (outputs.map (·.file))) :
    ∃ i, t.Change (writeOutputs t outputs).tree ((outputs.take i).map Output.entry)
          ((outputs.take (i + 1)).map (·.file.parent)) ∧
      writtenFiles (writeOutputs t outputs).log = (outputs.take i).map (·.file) ∧
      (i = outputs.length ∧ (writeOutputs t outputs).result = .ok (outputs.map (·.file)) ∨
        ∃ o why, outputs[i]? = some o ∧ (writeOutputs t outputs).result = .error (.cannotWrite o.file why)) := by
  induction outputs generalizing t with
  | nil => exact ⟨0, .refl t _, rfl, .inl ⟨rfl, rfl⟩⟩
  | cons o rest ih =>
    obtain ⟨hparts_o, hparts_rest⟩ := List.forall_mem_cons.1 hparts
    obtain ⟨hquiet_o, hquiet_rest⟩ := List.forall_mem_cons.1 hquiet
    rw [writeOutputs] at hapart ⊢
    cases hwrite : t.write o.file o.content.text.toUTF8 with
    | mk t' refusal =>
      cases refusal with
      | some why => exact ⟨0, FileTree.change_of_write_refused hwrite, hquiet_o, .inr ⟨o, why, rfl, rfl⟩⟩
      | none =>
        rw [hwrite, List.map_cons, FileTree.Apart, List.pairwise_cons] at hapart
        obtain ⟨i, hchange, hlog, hresult⟩ := ih hparts_rest hquiet_rest hapart.2
        have hfirst : t.Change t' [o.entry] [o.file.parent] := FileTree.change_of_write_done hparts_o hwrite
        refine ⟨i + 1, hfirst.trans hchange ?_, ?_, ?_⟩
        · intro f hf g hg q hlocate
          obtain ⟨o', ho', rfl⟩ := List.mem_map.1 hg
          rw [List.mem_singleton.1 hf] at hlocate
          exact hapart.1 o'.file (List.mem_map_of_mem (List.mem_of_mem_take ho')) q hlocate
        · simp only [writtenFiles_append, hquiet_o]
          exact congrArg (o.file :: ·) hlog
        · rcases hresult with ⟨hi, hok⟩ | ⟨o', why, ho', herror⟩
          · refine .inl ⟨by rw [hi]; rfl, ?_⟩
            simp only [hok]
            rfl
          · refine .inr ⟨o', why, ho', ?_⟩
            simp only [herror]
            rfl

/-! ## Runs -/

/-- Where the file of a namespace goes. -/
def Settings.target (s : Settings) (n : Namespace) : Path :=
  s.output.join (s.layout.file n.name)

theorem Settings.parts_target_ne_nil (s : Settings) (n : Namespace) : (s.target n).parts ≠ [] :=
  Path.parts_join_ne_nil _ (Layout.parts_file_ne_nil _ _)

theorem Settings.isBelow_target {s : Settings} {n : Namespace} (h : (s.layout.file n.name).isAbsolute = false) :
    (s.target n).IsBelow s.output :=
  Layout.isBelow_file h s.output

/-- Joined to one folder, relative paths stay apart. -/
theorem Path.join_inj {folder a b : Path} (ha : a.isAbsolute = false) (hb : b.isAbsolute = false)
    (h : folder.join a = folder.join b) : a = b := by
  simp only [join, ha, hb, Bool.false_eq_true, if_false, mk.injEq, true_and, List.append_cancel_left_eq] at h
  simp only [isAbsolute, bne_eq_false_iff_eq] at ha hb
  obtain ⟨root, parts⟩ := a
  obtain ⟨root', parts'⟩ := b
  simp only at h ha hb
  rw [h, ha, hb]

namespace Program

variable {p : Program} {s : Settings}

/-- What is written to the file of a namespace: its lines, each with a line break after it. -/
def fileBytes (p : Program) (s : Settings) (n : Namespace) : ByteArray :=
  (String.join ((n.unit s.references (p.files s)).lines.map (· ++ "\n"))).toUTF8

/-- What is reported on a unit says nothing of written files. -/
theorem writtenFiles_events_unit (n : Namespace) (references : Bool) (files : List (String × Path)) :
    writtenFiles (n.unit references files).events = [] := by
  simp [Namespace.unit, renderBlocks, writtenFiles]

/-- Files of different namespaces go to different paths. -/
theorem nodup_targets (hrelative : ∀ n ∈ p.namespaces, (s.layout.file n.name).isAbsolute = false)
    (hfiles : (p.namespaceNames.map s.layout.file).Nodup) : (p.namespaces.map s.target).Nodup := by
  have htargets : p.namespaces.map s.target = (p.namespaceNames.map s.layout.file).map s.output.join := by
    rw [namespaceNames, List.map_map, List.map_map]
    rfl
  have habsolute : ∀ file ∈ p.namespaceNames.map s.layout.file, file.isAbsolute = false := by
    intro file hfile
    obtain ⟨name, hname, rfl⟩ := List.mem_map.1 hfile
    obtain ⟨n, hn, rfl⟩ := List.mem_map.1 hname
    exact hrelative n hn
  rw [htargets]
  exact hfiles.map_on fun a ha b hb heq => Path.join_inj (habsolute a ha) (habsolute b hb) heq

/-- Relative files of different namespaces go to different places. -/
theorem apart_targets (hrelative : ∀ n ∈ p.namespaces, (s.layout.file n.name).isAbsolute = false)
    (hfiles : (p.namespaceNames.map s.layout.file).Nodup) (t : FileTree) : t.Apart (p.namespaces.map s.target) :=
  FileTree.apart_of_isBelow (List.forall_mem_map.2 fun n hn => Settings.isBelow_target (hrelative n hn))
    (nodup_targets hrelative hfiles) t

/-- A run whose namespaces are placed writes their files one after the other. -/
theorem run_of_placed (hdump : s.dump = false) (hplace : p.place s = .ok (p.files s)) (t : FileTree) :
    (p.run s t).tree = (writeOutputs t (p.units s (p.files s))).tree ∧
      (p.run s t).log = .writing s.output :: (writeOutputs t (p.units s (p.files s))).log ∧
      (p.run s t).result = (writeOutputs t (p.units s (p.files s))).result := by
  simp [run, hplace, hdump]

/-- A run whose namespaces are placed apart writes the files of the first `i` of them, and then it is done or
    refused. -/
theorem exists_change_of_placed {t : FileTree} (hdump : s.dump = false) (hplace : p.place s = .ok (p.files s))
    (hapart : (p.run s t).tree.Apart (p.namespaces.map s.target)) :
    ∃ i, t.Change (p.run s t).tree ((p.namespaces.take i).map fun n => (s.target n, p.fileBytes s n))
          ((p.namespaces.take (i + 1)).map fun n => (s.target n).parent) ∧
      writtenFiles (p.run s t).log = (p.namespaces.take i).map s.target ∧
      (i = p.namespaces.length ∧ (p.run s t).result = .ok (p.namespaces.map s.target) ∨
        ∃ n why, p.namespaces[i]? = some n ∧ (p.run s t).result = .error (.cannotWrite (s.target n) why)) := by
  obtain ⟨htree, hlog, hresult⟩ := run_of_placed hdump hplace t
  have hunits : p.units s (p.files s) =
      p.namespaces.map fun n => ⟨s.target n, n.unit s.references (p.files s)⟩ := units_files p s
  have hparts : ∀ o ∈ p.units s (p.files s), o.file.parts ≠ [] := by
    rw [hunits]
    exact List.forall_mem_map.2 fun n _ => s.parts_target_ne_nil n
  have hquiet : ∀ o ∈ p.units s (p.files s), writtenFiles o.content.events = [] := by
    rw [hunits]
    exact List.forall_mem_map.2 fun n _ => writtenFiles_events_unit n _ _
  have hfiles : (p.units s (p.files s)).map (·.file) = p.namespaces.map s.target := by
    rw [hunits, List.map_map]
    rfl
  rw [htree, ← hfiles] at hapart
  obtain ⟨i, hchange, hwritten, hend⟩ := writeOutputs_change hparts hquiet hapart
  -- from here on the units are listed by their namespaces
  have htake : ∀ k, (p.units s (p.files s)).take k =
      (p.namespaces.take k).map fun n => ⟨s.target n, n.unit s.references (p.files s)⟩ := by
    intro k
    rw [hunits, List.map_take]
  rw [htake, htake, List.map_map, List.map_map] at hchange
  rw [htake, List.map_map] at hwritten
  refine ⟨i, htree ▸ hchange, by rw [hlog]; exact hwritten, ?_⟩
  rw [hresult]
  rcases hend with ⟨hi, hok⟩ | ⟨o, why, ho, herror⟩
  · refine .inl ⟨by rw [hi, hunits, List.length_map], ?_⟩
    rw [hok, hunits, List.map_map]
    rfl
  · rw [hunits, List.getElem?_map, Option.map_eq_some_iff] at ho
    obtain ⟨n, hn, rfl⟩ := ho
    exact .inr ⟨n, why, hn, herror⟩

/-- After a run that returns, the file of every namespace holds its text, if the files are at places of their own. -/
theorem read_target_of_apart {t : FileTree} {written : List Path} (hdump : s.dump = false)
    (hapart : (p.run s t).tree.Apart (p.namespaces.map s.target)) (hrun : (p.run s t).result = .ok written)
    {n : Namespace} (hn : n ∈ p.namespaces) : (p.run s t).tree.read (s.target n) = .ok (p.fileBytes s n) := by
  obtain ⟨-, hplace, -, -⟩ := run_of_ok hdump hrun
  obtain ⟨i, hchange, -, ⟨rfl, -⟩ | ⟨m, why, -, herror⟩⟩ := exists_change_of_placed hdump hplace hapart
  · refine hchange.holds (s.target n, p.fileBytes s n) ?_
    rw [List.take_length]
    exact List.mem_map_of_mem hn
  · cases hrun.symm.trans herror

theorem read_target_of_ok {t : FileTree} {written : List Path} (hdump : s.dump = false)
    (hrelative : ∀ n ∈ p.namespaces, (s.layout.file n.name).isAbsolute = false)
    (hrun : (p.run s t).result = .ok written) {n : Namespace} (hn : n ∈ p.namespaces) :
    (p.run s t).tree.read (s.target n) = .ok (p.fileBytes s n) :=
  read_target_of_apart hdump (apart_targets hrelative (run_of_ok hdump hrun).1 _) hrun hn

/-- Whichever way a run for each namespace ends, the tree that it leaves is known.

    If it returns, the file of every namespace holds its text, and otherwise there are only new folders on the way to
    these files. If two namespaces collide, nothing changes. If a file is refused, the files before it hold their
    text, neither it nor a later file is touched, and the reports name the files before it. -/
theorem run_changes (p : Program) (s : Settings) (t : FileTree) (hdump : s.dump = false)
    (hrelative : ∀ n ∈ p.namespaces, (s.layout.file n.name).isAbsolute = false) :
    (∀ written, (p.run s t).result = .ok written →
      written = p.namespaces.map s.target ∧ written.Nodup ∧
        t.Change (p.run s t).tree (p.namespaces.map fun n => (s.target n, p.fileBytes s n))
          (written.map Path.parent)) ∧
    (∀ c, (p.run s t).result = .error (.collision c) → (p.run s t).tree = t) ∧
    (∀ file why, (p.run s t).result = .error (.cannotWrite file why) →
      ∃ i, (p.namespaces.map s.target)[i]? = some file ∧
        t.Change (p.run s t).tree ((p.namespaces.take i).map fun n => (s.target n, p.fileBytes s n))
          ((p.namespaces.take (i + 1)).map fun n => (s.target n).parent) ∧
        (∀ n ∈ p.namespaces.drop i, ∀ q, (p.run s t).tree.locate (s.target n) = .ok q →
          ∀ content, (p.run s t).tree.kind? q = some (.file content) ↔ t.kind? q = some (.file content)) ∧
        writtenFiles (p.run s t).log = (p.namespaces.take i).map s.target) ∧
    (p.run s t).result ≠ .error .alreadyRan := by
  cases hplace : p.place s with
  | error c =>
    -- collisions are found before anything is written
    have hrun : p.run s t = ⟨t, [.writing s.output], .error (.collision c)⟩ := by rw [run, hplace]
    rw [hrun]
    exact ⟨fun _ h => (by cases h), fun _ _ => rfl, fun _ _ h => (by cases h), fun h => (by cases h)⟩
  | ok files =>
    have hfiles : s.layout.place p.namespaceNames = .ok files := by simpa [place, hdump] using hplace
    obtain ⟨rfl, hnodup⟩ := (Layout.place_eq_ok_iff _ _ _).1 hfiles
    have hdistinct := nodup_targets hrelative hnodup
    obtain ⟨i, hchange, hwritten, ⟨rfl, hok⟩ | ⟨n, why, hn, herror⟩⟩ :=
      exists_change_of_placed hdump hplace (apart_targets hrelative hnodup (p.run s t).tree)
    · rw [hok]
      refine ⟨?_, fun _ h => (by cases h), fun _ _ h => (by cases h), fun h => (by cases h)⟩
      rintro _ ⟨⟩
      refine ⟨rfl, hdistinct, ?_⟩
      rw [List.take_length, List.take_of_length_le (Nat.le_succ _)] at hchange
      rw [List.map_map]
      exact hchange
    · rw [herror]
      refine ⟨fun _ h => (by cases h), fun _ h => (by cases h), ?_, fun h => (by cases h)⟩
      rintro _ _ ⟨⟩
      refine ⟨i, by rw [List.getElem?_map, hn]; rfl, hchange, ?_, hwritten⟩
      intro m hm q hlocate content
      refine (hchange.elsewhere q ?_).file_iff content
      intro f hf hlocate'
      obtain ⟨m', hm', rfl⟩ := List.mem_map.1 hf
      have heq := FileTree.eq_of_locate_eq (Settings.isBelow_target (hrelative m (List.mem_of_mem_drop hm)))
        (Settings.isBelow_target (hrelative m' (List.mem_of_mem_take hm'))) hlocate hlocate'
      -- a namespace before the refused one and one after it share no file
      have hbefore : s.target m ∈ (p.namespaces.map s.target).take i := by
        rw [← List.map_take, heq]
        exact List.mem_map_of_mem hm'
      have hafter : s.target m ∈ (p.namespaces.map s.target).drop i := by
        rw [← List.map_drop]
        exact List.mem_map_of_mem hm
      exact List.disjoint_take_drop hdistinct (Nat.le_refl i) hbefore hafter

end Program

/-! ## A file that is refused -/

/-- Two namespaces of one package. -/
def gameProgram : Program :=
  ⟨[⟨"Game.Core", [⟨"Alpha", "", [], [], false⟩], []⟩, ⟨"Game.Net", [], []⟩]⟩

def gameSettings : Settings :=
  { output := ⟨.here, ["out"]⟩, layout := .nested }

/-- A tree with an old file where the first file goes, and a folder where the second one goes. -/
def blockedTree : FileTree :=
  { entries := [("out", .folder [("game", .folder [("core.proto", .file "old".toUTF8), ("net.proto", .folder [])])])] }

theorem blockedTree_run_changes :
    (gameProgram.run gameSettings blockedTree).result =
        .error (.cannotWrite ⟨.here, ["out", "game", "net.proto"]⟩ .isFolder) ∧
      ∃ i, (gameProgram.namespaces.map gameSettings.target)[i]? = some ⟨.here, ["out", "game", "net.proto"]⟩ ∧
        blockedTree.Change (gameProgram.run gameSettings blockedTree).tree
          ((gameProgram.namespaces.take i).map fun n => (gameSettings.target n, gameProgram.fileBytes gameSettings n))
          ((gameProgram.namespaces.take (i + 1)).map fun n => (gameSettings.target n).parent) ∧
        (∀ n ∈ gameProgram.namespaces.drop i, ∀ q,
          (gameProgram.run gameSettings blockedTree).tree.locate (gameSettings.target n) = .ok q →
          ∀ content, (gameProgram.run gameSettings blockedTree).tree.kind? q = some (.file content) ↔
            blockedTree.kind? q = some (.file content)) ∧
        writtenFiles (gameProgram.run gameSettings blockedTree).log =
          (gameProgram.namespaces.take i).map gameSettings.target := by
  have hplace : gameProgram.place gameSettings =
      .ok [("Game.Core", ⟨.here, ["game", "core.proto"]⟩), ("Game.Net", ⟨.here, ["game", "net.proto"]⟩)] := by
    decide +kernel
  have hrelative : ∀ n ∈ gameProgram.namespaces, (gameSettings.layout.file n.name).isAbsolute = false := by
    decide +kernel
  -- whether a file can be written does not depend on what is to be written
  have hwrite : ∀ core net : Rendered,
      (writeOutputs blockedTree [⟨⟨.here, ["out", "game", "core.proto"]⟩, core⟩,
          ⟨⟨.here, ["out", "game", "net.proto"]⟩, net⟩]).result =
        .error (.cannotWrite ⟨.here, ["out", "game", "net.proto"]⟩ .isFolder) := by
    intro core net
    cbv
  have hrun : (gameProgram.run gameSettings blockedTree).result =
      .error (.cannotWrite ⟨.here, ["out", "game", "net.proto"]⟩ .isFolder) := by
    rw [Program.run, hplace]
    exact hwrite _ _
  obtain ⟨-, -, hrefused, -⟩ := Program.run_changes gameProgram gameSettings blockedTree rfl hrelative
  exact ⟨hrun, hrefused _ _ hrun⟩

end ProtoEmit
