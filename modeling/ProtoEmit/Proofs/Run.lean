/-
  Runs that succeed.

  A run that writes one file for each namespace and returns has placed every namespace, has written its files in
  the order of the program, and has reported on each of them in that order.
-/

import ProtoEmit.Compiler
import ProtoEmit.Proofs.Placement

namespace ProtoEmit

/-- Writing returns only after the last file, and then it has reported on all of them. -/
theorem writeOutputs_of_ok {outputs : List Output} {t : FileTree} {written : List Path}
    (h : (writeOutputs t outputs).result = .ok written) :
    written = outputs.map (·.file) ∧
      (writeOutputs t outputs).log = outputs.flatMap fun o => o.content.events ++ [.wrote o.file] := by
  induction outputs generalizing t written with
  | nil =>
    simp only [writeOutputs, Except.ok.injEq] at h
    exact ⟨h.symm, rfl⟩
  | cons o rest ih =>
    rw [writeOutputs] at h ⊢
    cases hwrite : t.write o.file o.content.text.toUTF8 with
    | mk t' refusal =>
      rw [hwrite] at h
      cases refusal with
      | some why => cases h
      | none =>
        simp only at h ⊢
        cases hrest : (writeOutputs t' rest).result with
        | error e =>
          rw [hrest] at h
          cases h
        | ok later =>
          rw [hrest] at h
          obtain ⟨rfl, hlog⟩ := ih hrest
          simp only [Except.map, Except.ok.injEq] at h
          refine ⟨by simp [← h], ?_⟩
          rw [hlog]
          simp

namespace Program

/-- The file of each namespace of a program. -/
def files (p : Program) (s : Settings) : List (String × Path) :=
  p.namespaceNames.map fun name => (name, s.layout.file name)

theorem lookup_files_of_mem {p : Program} {s : Settings} {name : String} (h : name ∈ p.namespaceNames) :
    (p.files s).lookup name = some (s.layout.file name) :=
  List.lookup_graph _ h

theorem lookup_files_of_not_mem {p : Program} {s : Settings} {name : String} (h : name ∉ p.namespaceNames) :
    (p.files s).lookup name = none := by
  rw [List.lookup_eq_none_iff]
  intro entry hentry
  obtain ⟨other, hother, rfl⟩ := List.mem_map.1 hentry
  simp only [bne_iff_ne]
  rintro rfl
  exact h hother

theorem units_files (p : Program) (s : Settings) :
    p.units s (p.files s) =
      p.namespaces.map fun n => ⟨s.output.join (s.layout.file n.name), n.unit s.references (p.files s)⟩ := by
  -- only the list that is walked is opened; the one that the units look into stays as it is
  have hzip : ∀ g : Namespace → String × Path → Output,
      List.zipWith g p.namespaces (p.files s) = p.namespaces.map fun n => g n (n.name, s.layout.file n.name) := by
    intro g
    rw [files, namespaceNames, List.map_map, List.zipWith_map_right, List.zipWith_self]
    rfl
  exact hzip _

/-- Once the namespaces are placed, the file that stands beside a namespace is the one that is found under its name. -/
theorem map_some_units {p : Program} {s : Settings} {files : List (String × Path)} (hdump : s.dump = false)
    (hplace : p.place s = .ok files) :
    (p.units s files).map some = p.namespaces.map fun n =>
      (files.lookup n.name).map fun file => ⟨s.output.join file, n.unit s.references files⟩ := by
  have hlayout : s.layout.place p.namespaceNames = .ok files := by simpa [place, hdump] using hplace
  obtain ⟨rfl, -⟩ := (Layout.place_eq_ok_iff _ _ _).1 hlayout
  change (p.units s (p.files s)).map some = p.namespaces.map fun n =>
    ((p.files s).lookup n.name).map fun file => ⟨s.output.join file, n.unit s.references (p.files s)⟩
  rw [units_files, List.map_map]
  refine List.map_congr_left fun n hn => ?_
  rw [lookup_files_of_mem (List.mem_map_of_mem hn)]
  rfl

/-- A run for each namespace that returns: the files that it wrote, and what it reported. -/
theorem run_of_ok {p : Program} {s : Settings} {t : FileTree} {written : List Path} (hdump : s.dump = false)
    (h : (p.run s t).result = .ok written) :
    (p.namespaceNames.map s.layout.file).Nodup ∧ p.place s = .ok (p.files s) ∧
      written = (p.units s (p.files s)).map (·.file) ∧
      (p.run s t).log =
        .writing s.output :: (p.units s (p.files s)).flatMap fun o => o.content.events ++ [.wrote o.file] := by
  unfold run at h ⊢
  cases hplace : p.place s with
  | error c =>
    rw [hplace] at h
    cases h
  | ok files =>
    rw [hplace] at h
    simp only [hdump] at h ⊢
    have hfiles : s.layout.place p.namespaceNames = .ok files := by simpa [place, hdump] using hplace
    obtain ⟨rfl, hnodup⟩ := (Layout.place_eq_ok_iff _ _ _).1 hfiles
    obtain ⟨hwritten, hlog⟩ := writeOutputs_of_ok h
    exact ⟨hnodup, rfl, hwritten, congrArg _ hlog⟩

end Program

end ProtoEmit
