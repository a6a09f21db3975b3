/-
  Seeing where files go before they are written.

  One command lists the files of a program, the other writes them. The first knows the layout from its options alone,
  the second from its settings, in which an option comes before a file. So the list is right whenever an option names
  the layout or the settings are for the flat one; otherwise the list shows flat files while nested ones are written,
  and it is right only if no package has two parts. The list is read here as it stands in the printed table, where a
  path is shown as it is unless it holds something that is taken for a mark.
-/

import ProtoEmit.CommandLine.Run
import ProtoEmit.Proofs.Collisions
import ProtoEmit.Proofs.Precedence
import ProtoEmit.Proofs.TableColumn
import ProtoEmit.Proofs.TextRoundTrip

namespace ProtoEmit

/-! ## How a run ends -/

/-- Writing ends with all files written, or with one that is refused. -/
theorem writeOutputs_result_cases (t : FileTree) (outputs : List Output) :
    (writeOutputs t outputs).result = .ok (outputs.map (·.file)) ∨
      ∃ file why, (writeOutputs t outputs).result = .error (.cannotWrite file why) := by
  -- some outputs are written, and then there are no more or the next one is refused
  obtain ⟨done, t', hdone, rfl | ⟨o, later, t'', why, rfl, hrefused⟩⟩ := exists_allWritten t outputs
  · have hresult := (hdone.writeOutputs_append []).2
    rw [List.append_nil] at hresult
    left
    simpa [writeOutputs, Except.map] using hresult
  · have hresult := (hdone.writeOutputs_append (o :: later)).2
    rw [writeOutputs_of_refused hrefused] at hresult
    exact .inr ⟨o.file, why, hresult⟩

namespace Program

variable {p : Program} {s : Settings}

/-- The file of each namespace in a layout. -/
def filesIn (p : Program) (layout : Layout) : List (String × Path) :=
  p.namespaceNames.map fun name => (name, layout.file name)

theorem run_result_of_collision {c : Collision} (hdump : s.dump = false)
    (h : s.layout.place p.namespaceNames = .error c) (t : FileTree) :
    (p.run s t).result = .error (.collision c) := by
  have hplace : p.place s = .error c := by simpa [place, hdump] using h
  rw [run, hplace]

/-- A run that places the namespaces writes all their files, or is refused one. -/
theorem run_result_of_placed (hdump : s.dump = false) (h : (p.namespaceNames.map s.layout.file).Nodup) (t : FileTree) :
    (p.run s t).result = .ok ((p.filesIn s.layout).map fun f => s.output.join f.2) ∨
      ∃ file why, (p.run s t).result = .error (.cannotWrite file why) := by
  have hplace : p.place s = .ok (p.files s) := by
    simpa [place, hdump] using (s.layout.place_eq_ok_iff p.namespaceNames (p.files s)).2 ⟨rfl, h⟩
  have htargets : (p.units s (p.files s)).map (·.file) = (p.filesIn s.layout).map fun f => s.output.join f.2 := by
    rw [units_files, filesIn, namespaceNames]
    simp [Function.comp_def]
  have hresult := (run_of_placed hdump hplace t).2.2
  rw [hresult, ← htargets]
  exact writeOutputs_result_cases t _

end Program

namespace CommandLine

variable {t : FileTree} {program : String} {given : Given} {s : Settings} {p : Program}

/-! ## Both commands -/

/-- The layout that options ask for, flat if they ask for none. -/
def Given.layout (given : Given) : Layout :=
  .ofNested (given.nested?.getD false)

/-- The collision that a command reports. -/
def Report.collision? (r : Report) : Option Collision :=
  match r.failure with
  | some (.run (.collision c)) => some c
  | _ => none

theorem Report.collision?_of_run {r : Report} {c : Collision} (h : r.failure = some (.run (.collision c))) :
    r.collision? = some c := by
  rw [collision?, h]

theorem Report.collision?_of_none {r : Report} (h : r.failure = none) : r.collision? = none := by
  rw [collision?, h]

theorem Given.lookup_settings_nested (given : Given) :
    given.settings.reverse.lookup "package_structured" = given.nested?.map Setting.boolean := by
  -- no other option gives a value under this name
  have htext : ∀ (value? : Option String) (key : String), "package_structured" ≠ key →
      (value?.map fun v => (key, Setting.text v)).toList.reverse.lookup "package_structured" = none := by
    intro value? key hkey
    cases value? with
    | none => rfl
    | some v => simp [List.lookup_cons, beq_eq_false_iff_ne.2 hkey]
  have hflag : ∀ (given? : Bool) (key : String), "package_structured" ≠ key →
      (if given? then [(key, Setting.boolean true)] else []).reverse.lookup "package_structured" = none := by
    intro given? key hkey
    cases given? with
    | false => rfl
    | true => simp [List.lookup_cons, beq_eq_false_iff_ne.2 hkey]
  have hnested : (given.nested?.map fun b => ("package_structured", Setting.boolean b)).toList.reverse.lookup
      "package_structured" = given.nested?.map Setting.boolean := by
    cases given.nested? with
    | none => rfl
    | some nested => rfl
  simp only [Given.settings, List.reverse_append, List.lookup_append]
  rw [htext _ _ (by decide), htext _ _ (by decide), hflag _ _ (by decide), hflag _ _ (by decide), hnested]
  simp

/-- The settings have the layout that options ask for, unless these ask for none. -/
theorem layout_eq_of_load {file : Option Path} (hsettings : Settings.load t file given.settings = .ok s)
    (hflat : given.nested? = none → s.layout = .flat) : s.layout = given.layout := by
  unfold Given.layout
  cases hnested : given.nested? with
  | none => exact hflat hnested
  | some nested =>
    refine Settings.layout_of_load hsettings ?_
    rw [Given.lookup_settings_nested, hnested]
    rfl

/-- The paths of a program that is there: its files, or the collision that stands in their way. -/
theorem paths_cases (hload : Program.load t (.ofString program) = .ok p) (nested : Bool) :
    (∃ c, (Layout.ofNested nested).place p.namespaceNames = .error c ∧
        paths t program nested = (Failure.run (.collision c)).report t) ∨
      (p.namespaceNames.map (Layout.ofNested nested).file).Nodup ∧
        paths t program nested = ⟨pathLines (p.filesIn (.ofNested nested)), t, none⟩ := by
  cases hplace : (Layout.ofNested nested).place p.namespaceNames with
  | error c => exact .inl ⟨c, rfl, by simp only [paths, hload, hplace]⟩
  | ok files =>
    obtain ⟨rfl, hnodup⟩ := (Layout.place_eq_ok_iff _ _ _).1 hplace
    exact .inr ⟨hnodup, by simp only [paths, hload, hplace]; rfl⟩

/-! ## The listed paths -/

/-- A text that a table shows as it is: its characters are plain, and none of them belongs to a mark, to the name of a
    picture or to the table. -/
def IsVerbatim (s : String) : Prop :=
  ∀ c ∈ s.toList, Terminal.isPlain c = true ∧ c ≠ '[' ∧ c ≠ ':' ∧ c ≠ Terminal.bodyBar

instance : DecidablePred IsVerbatim :=
  fun s => List.decidableBAll (fun c => Terminal.isPlain c = true ∧ c ≠ '[' ∧ c ≠ ':' ∧ c ≠ Terminal.bodyBar) s.toList

theorem unguarded_of_not_mem {cs : List Char} (h : '[' ∉ cs) : unguarded cs = cs := by
  fun_induction unguarded cs with
  | case1 rest ih => simp at h
  | case2 c rest hcases ih => rw [ih fun hmem => h (List.mem_cons_of_mem _ hmem)]
  | case3 => rfl

theorem IsVerbatim.shown {s : String} (h : IsVerbatim s) : shown s = s := by
  have hbracket : '[' ∉ s.toList := fun hmem => (h _ hmem).2.1 rfl
  have hcolon : ':' ∉ s.toList := fun hmem => (h _ hmem).2.2.1 rfl
  rw [CommandLine.shown, unguarded_of_not_mem hbracket, Terminal.withPictures, Text.pieces_of_not_mem hcolon]
  simp [Terminal.shownPieces]

theorem IsVerbatim.isReadable_file {layout : Layout} {name : String} (h : IsVerbatim (layout.file name).toString) :
    Terminal.IsReadable (layout.file name).toString := by
  refine ⟨fun c hc => (h c hc).1, fun hbar => (h _ hbar).2.2.2 rfl, ?_⟩
  obtain ⟨front, hfront⟩ := layout.exists_toString_file name
  refine ⟨front.toList ++ ".prot".toList, 'o', ?_, by decide⟩
  rw [hfront, String.toList_append, List.append_assoc]
  rfl

/-- The table of files shows their paths in its last column. -/
theorem lastColumn_pathLines {files : List (String × Path)}
    (h : ∀ f ∈ files, Terminal.IsReadable (shown f.2.toString)) :
    Terminal.lastColumn (pathLines files) = files.map fun f => shown f.2.toString := by
  cases files with
  | nil => decide
  | cons f files =>
    have htitle : Terminal.bodyBar ∉ "Namespaces".toList := by decide
    have hrows : ∀ row ∈ (f :: files).map fun f => (shown f.1, shown (Package.name f.1), shown f.2.toString),
        Terminal.IsReadable row.2.2 := by
      intro row hrow
      obtain ⟨g, hg, rfl⟩ := List.mem_map.1 hrow
      exact h g hg
    have hgrid := Terminal.lastColumn_grid htitle "Namespace" "Package" "Path" hrows
    rw [List.map_map, List.map_map] at hgrid
    exact hgrid

/-- The paths that a command lists in the last column of its table. -/
def Report.listedPaths (r : Report) : List Path :=
  (Terminal.lastColumn r.lines).map Path.ofString

/-- The names of a program's files that are shown as they are are read back as the files. -/
theorem listedPaths_pathLines {layout : Layout}
    (h : ∀ name ∈ p.namespaceNames, IsVerbatim (layout.file name).toString) :
    (⟨pathLines (p.filesIn layout), t, none⟩ : Report).listedPaths = (p.filesIn layout).map (·.2) := by
  have hverbatim : ∀ f ∈ p.filesIn layout, shown f.2.toString = f.2.toString :=
    List.forall_mem_map.2 fun name hname => (h name hname).shown
  have hreadable : ∀ f ∈ p.filesIn layout, Terminal.IsReadable (shown f.2.toString) := by
    intro f hf
    rw [hverbatim f hf]
    obtain ⟨name, hname, rfl⟩ := List.mem_map.1 hf
    exact (h name hname).isReadable_file
  rw [Report.listedPaths, lastColumn_pathLines hreadable, List.map_map]
  refine List.map_congr_left fun f hf => ?_
  rw [Function.comp_apply, hverbatim f hf]
  obtain ⟨name, -, rfl⟩ := List.mem_map.1 hf
  exact Path.ofString_toString (layout.normal_file name)

/-- The paths that `paths` lists are, seen from the output folder, the ones that `compile` writes: it leaves what the
    run leaves, and this has written them. -/
structure Previewed (t : FileTree) (s : Settings) (p : Program) (preview report : Report) : Prop where
  listed : preview.failure = none
  unchanged : preview.tree = t
  succeeded : report.failure = none
  tree : report.tree = (p.run s t).tree
  written : (p.run s t).result = .ok (preview.listedPaths.map s.output.join)

/-- Without slashes, no layout leaves the output folder, so files are apart below it as they are without it. -/
theorem join_file_eq_iff {output : Path} {name : String} (hslash : '/' ∉ name.toList) (a b : Layout) :
    output.join (a.file name) = output.join (b.file name) ↔ a.file name = b.file name := by
  have hrelative : ∀ layout : Layout, (layout.file name).isAbsolute = false := by
    intro layout
    cases layout with
    | flat => rw [Layout.flat_file_of_no_slash hslash, Path.isAbsolute, bne_self_eq_false]
    | nested =>
      obtain ⟨folders, stem, -, hfile⟩ := Layout.exists_nested_file_of_no_slash hslash
      rw [hfile, Path.isAbsolute, bne_self_eq_false]
  exact ⟨Path.join_inj (hrelative a) (hrelative b), congrArg output.join⟩

/-- Two layouts send a program to the same files exactly if they do so with each of its namespaces. -/
theorem map_join_filesIn_eq_iff {output : Path} (hslash : ∀ name ∈ p.namespaceNames, '/' ∉ name.toList) (a b : Layout) :
    ((p.filesIn a).map fun f => output.join f.2) = ((p.filesIn b).map fun f => output.join f.2) ↔
      ∀ name ∈ p.namespaceNames, a.file name = b.file name := by
  rw [Program.filesIn, Program.filesIn, List.map_map, List.map_map, List.map_inj_left]
  exact forall₂_congr fun name hname => join_file_eq_iff (hslash name hname) a b

section Loaded

variable (hsettings : Settings.load t ((given.value? .settingsFile).map Path.ofString) given.settings = .ok s)
  (hload : Program.load t (.ofString program) = .ok p)

include hsettings hload

theorem compile_of_written {written : List Path} (hresult : (p.run s t).result = .ok written) :
    compile t program given =
      ⟨logLines (given.has .verbose) (p.run s t).log ++ writtenLines s written, (p.run s t).tree, none⟩ := by
  simp only [compile, hsettings, hload, hresult]

theorem compile_failure_of_error {e : RunError} (hresult : (p.run s t).result = .error e) :
    (compile t program given).failure = some (.run e) := by
  simp only [compile, hsettings, hload, hresult]

variable (hdump : s.dump = false)
  (hwritable : ∀ file why, (compile t program given).failure ≠ some (.run (.cannotWrite file why)))

include hdump hwritable

/-- With settings for no dump and a program that is there, `compile` writes the files of the settings' layout unless one
    is refused, or it reports the collision that stands in their way. -/
theorem compile_cases :
    (∃ c, s.layout.place p.namespaceNames = .error c ∧
        (compile t program given).failure = some (.run (.collision c))) ∨
      (p.namespaceNames.map s.layout.file).Nodup ∧ (compile t program given).failure = none ∧
        (compile t program given).tree = (p.run s t).tree ∧
        (p.run s t).result = .ok ((p.filesIn s.layout).map fun f => s.output.join f.2) := by
  by_cases hnodup : (p.namespaceNames.map s.layout.file).Nodup
  · rcases Program.run_result_of_placed hdump hnodup t with hresult | ⟨file, why, hrefused⟩
    · have hreport := compile_of_written hsettings hload hresult
      exact .inr ⟨hnodup, by rw [hreport], by rw [hreport], hresult⟩
    · exact absurd (compile_failure_of_error hsettings hload hrefused) (hwritable file why)
  · obtain ⟨c, hc⟩ := (s.layout.exists_place_error_iff p.namespaceNames).2 hnodup
    exact .inl ⟨c, hc, compile_failure_of_error hsettings hload (Program.run_result_of_collision hdump hc t)⟩

/-- In one layout both commands meet the same collision or none. -/
theorem previewed_of_same_layout (hlayout : s.layout = given.layout) :
    (paths t program (given.nested?.getD false)).collision? = (compile t program given).collision? ∧
      ((compile t program given).collision? = none →
        (∀ name ∈ p.namespaceNames, IsVerbatim (given.layout.file name).toString) →
          Previewed t s p (paths t program (given.nested?.getD false)) (compile t program given)) := by
  have hcompile := compile_cases hsettings hload hdump hwritable
  rw [hlayout] at hcompile
  rcases paths_cases hload (given.nested?.getD false) with ⟨c, hplace, hpaths⟩ | ⟨hnodup, hpaths⟩
  · have hlisted : (paths t program (given.nested?.getD false)).collision? = some c := by
      rw [hpaths]
      exact Report.collision?_of_run rfl
    rcases hcompile with ⟨c', hplace', hfailure⟩ | ⟨hnodup', -⟩
    · obtain rfl : c = c' := Except.error.inj (hplace.symm.trans hplace')
      rw [hlisted, Report.collision?_of_run hfailure]
      exact ⟨rfl, fun h => by cases h⟩
    · exact absurd hnodup' ((Layout.exists_place_error_iff _ _).1 ⟨c, hplace⟩)
  · have hlisted : (paths t program (given.nested?.getD false)).collision? = none := by
      rw [hpaths]
      exact Report.collision?_of_none rfl
    rcases hcompile with ⟨c', hplace', -⟩ | ⟨-, hfailure, htree, hresult⟩
    · exact absurd hnodup ((Layout.exists_place_error_iff _ _).1 ⟨c', hplace'⟩)
    · rw [hlisted, Report.collision?_of_none hfailure]
      refine ⟨rfl, fun _ hverbatim => ⟨by rw [hpaths], by rw [hpaths], hfailure, htree, ?_⟩⟩
      rw [hresult, hpaths, ← Given.layout, listedPaths_pathLines hverbatim, List.map_map]
      rfl

/-- Where flat files are listed and nested ones are written, the same two namespaces collide, and the list is right
    exactly if no package has two parts. -/
theorem previewed_iff_of_other_layout (hnone : given.nested? = none) (hnested : s.layout = .nested)
    (hslash : ∀ name ∈ p.namespaceNames, '/' ∉ name.toList) :
    (paths t program (given.nested?.getD false)).collision?.map (fun c => (c.first, c.second)) =
        (compile t program given).collision?.map (fun c => (c.first, c.second)) ∧
      ((compile t program given).collision? = none →
        (∀ name ∈ p.namespaceNames, IsVerbatim (given.layout.file name).toString) →
          (Previewed t s p (paths t program (given.nested?.getD false)) (compile t program given) ↔
            ∀ name ∈ p.namespaceNames, (Package.parts name).length ≤ 1)) := by
  have hcompile := compile_cases hsettings hload hdump hwritable
  have hpaths := paths_cases hload false
  rw [hnested] at hcompile
  rw [Given.layout, hnone, Option.getD_none]
  by_cases hnodup : (p.namespaceNames.map Package.name).Nodup
  · -- both layouts place the namespaces
    have hfiles : ∀ layout : Layout, ¬ ∃ c, layout.place p.namespaceNames = .error c := fun layout hcollision =>
      (layout.exists_place_error_iff _).1 hcollision ((Layout.nodup_files_iff hslash layout).2 hnodup)
    obtain ⟨-, hlisted⟩ := hpaths.resolve_left fun ⟨c, hc, _⟩ => hfiles _ ⟨c, hc⟩
    obtain ⟨-, hfailure, htree, hresult⟩ := hcompile.resolve_left fun ⟨c, hc, _⟩ => hfiles _ ⟨c, hc⟩
    rw [Report.collision?_of_none hfailure, hlisted]
    refine ⟨rfl, fun _ hverbatim => ?_⟩
    -- what is listed is flat and what is written is nested, so the two must be the same files
    have hsame : Previewed t s p ⟨pathLines (p.filesIn (.ofNested false)), t, none⟩ (compile t program given) ↔
        ((p.filesIn (.ofNested false)).map fun f => s.output.join f.2) =
          (p.filesIn .nested).map fun f => s.output.join f.2 := by
      have hread : (⟨pathLines (p.filesIn (.ofNested false)), t, none⟩ : Report).listedPaths.map s.output.join =
          (p.filesIn (.ofNested false)).map fun f => s.output.join f.2 := by
        rw [listedPaths_pathLines hverbatim, List.map_map]
        rfl
      constructor
      · intro h
        exact hread.symm.trans (Except.ok.inj (h.written.symm.trans hresult))
      · intro h
        exact ⟨rfl, rfl, hfailure, htree, hresult.trans (congrArg Except.ok (h.symm.trans hread.symm))⟩
    rw [hsame, map_join_filesIn_eq_iff hslash]
    exact forall₂_congr fun name hname => Layout.flat_file_eq_nested_file_iff (hslash name hname)
  · -- both layouts fail, and on the same two namespaces
    obtain ⟨i, j, first, second, -, -, -, hclash⟩ := Layout.exists_common_clash hslash hnodup
    have htwice : ∀ layout : Layout, ¬ (p.namespaceNames.map layout.file).Nodup := fun layout =>
      (layout.exists_place_error_iff _).1 ⟨_, hclash layout⟩
    obtain ⟨c, hc, hlisted⟩ := hpaths.resolve_right fun h => htwice _ h.1
    obtain ⟨c', hc', hfailure⟩ := hcompile.resolve_right fun h => htwice _ h.1
    have hpair : ∀ (layout : Layout) (c : Collision), layout.place p.namespaceNames = .error c →
        (c.first, c.second) = (first, second) := by
      intro layout c hc
      rw [← Except.error.inj ((hclash layout).symm.trans hc)]
    have hcollision : (paths t program false).collision? = some c := by
      rw [hlisted]
      exact Report.collision?_of_run rfl
    rw [Report.collision?_of_run hfailure, hcollision, Option.map_some, Option.map_some, hpair _ c hc, hpair _ c' hc']
    exact ⟨rfl, fun h => by cases h⟩

end Loaded

/-- `paths` reports a collision exactly if there is one in the layout that options ask for. -/
theorem paths_collision?_eq_none_iff (hload : Program.load t (.ofString program) = .ok p) (nested : Bool) :
    (paths t program nested).collision? = none ↔ (p.namespaceNames.map (Layout.ofNested nested).file).Nodup := by
  rcases paths_cases hload nested with ⟨c, hplace, hpaths⟩ | ⟨hnodup, hpaths⟩
  · rw [hpaths, Report.collision?_of_run rfl]
    exact iff_of_false (fun h => by cases h) ((Layout.exists_place_error_iff _ _).1 ⟨c, hplace⟩)
  · rw [hpaths, Report.collision?_of_none rfl]
    exact iff_of_true rfl hnodup

/-- The two commands on one program, with the same options for the layout.

    Without settings `compile` only says so, whereas `paths`, which needs none, looks for collisions. With settings for
    no dump, and unless a file is refused, both fail alike on a program that cannot be loaded. On one that can:

    * if an option names the layout or the settings are for the flat one, both report the same collision or none, and
      without one `paths` lists what `compile` writes;
    * if no name holds a slash, both report the same two namespaces, and the list is right exactly if the layout comes
      from an option, is flat, or makes no difference because no package has two parts.

    Both say of the list what is read off the printed table, for paths that are shown as they are. -/
theorem paths_preview_compile {compileWords pathsWords : List String}
    (hcompile : Command.ofWords? compileWords = some (.compile program given))
    (hpaths : Command.ofWords? pathsWords = some (.paths program (given.nested?.getD false))) :
    (∀ e, Settings.load t ((given.value? .settingsFile).map Path.ofString) given.settings = .error e →
      run t compileWords = (Failure.settings e).report t ∧
        ∀ p, Program.load t (.ofString program) = .ok p →
          ((run t pathsWords).collision? = none ↔ (p.namespaceNames.map given.layout.file).Nodup)) ∧
    ∀ s, Settings.load t ((given.value? .settingsFile).map Path.ofString) given.settings = .ok s → s.dump = false →
      (∀ file why, (run t compileWords).failure ≠ some (.run (.cannotWrite file why))) →
      (∀ e, Program.load t (.ofString program) = .error e →
        (run t pathsWords).failure = some (.load e) ∧ (run t compileWords).failure = some (.load e)) ∧
      ∀ p, Program.load t (.ofString program) = .ok p →
        ((given.nested? = none → s.layout = .flat) →
          (run t pathsWords).collision? = (run t compileWords).collision? ∧
            ((run t compileWords).collision? = none →
              (∀ name ∈ p.namespaceNames, IsVerbatim (given.layout.file name).toString) →
                Previewed t s p (run t pathsWords) (run t compileWords))) ∧
        ((∀ name ∈ p.namespaceNames, '/' ∉ name.toList) →
          (run t pathsWords).collision?.map (fun c => (c.first, c.second)) =
              (run t compileWords).collision?.map (fun c => (c.first, c.second)) ∧
            ((run t compileWords).collision? = none →
              (∀ name ∈ p.namespaceNames, IsVerbatim (given.layout.file name).toString) →
                (Previewed t s p (run t pathsWords) (run t compileWords) ↔
                  (given.nested? = none → s.layout = .nested →
                    ∀ name ∈ p.namespaceNames, (Package.parts name).length ≤ 1)))) := by
  have hrun : run t compileWords = compile t program given := by rw [run, hcompile]
  have hlist : run t pathsWords = paths t program (given.nested?.getD false) := by rw [run, hpaths]
  rw [hrun, hlist]
  refine ⟨fun e hsettings => ⟨by simp only [compile, hsettings], fun p hload => paths_collision?_eq_none_iff hload _⟩,
    fun s hsettings hdump hwritable => ⟨fun e hload => ⟨?_, ?_⟩, fun p hload => ⟨fun hflat => ?_, fun hslash => ?_⟩⟩⟩
  · simp only [paths, hload, Failure.report]
  · simp only [compile, hsettings, hload, Failure.report]
  · exact previewed_of_same_layout hsettings hload hdump hwritable (layout_eq_of_load hsettings hflat)
  · by_cases hflat : given.nested? = none → s.layout = .flat
    · obtain ⟨hcollision, hpreviewed⟩ :=
        previewed_of_same_layout hsettings hload hdump hwritable (layout_eq_of_load hsettings hflat)
      refine ⟨by rw [hcollision], fun hfree hverbatim =>
        iff_of_true (hpreviewed hfree hverbatim) fun hnone hnested => ?_⟩
      cases (hflat hnone).symm.trans hnested
    · -- the settings are for the nested layout, and no option says so
      obtain ⟨hnone, hlayout⟩ := Classical.not_imp.1 hflat
      have hnested : s.layout = .nested := by
        cases hs : s.layout with
        | flat => exact absurd hs hlayout
        | nested => rfl
      simpa [hnone, hnested] using previewed_iff_of_other_layout hsettings hload hdump hwritable hnone hnested hslash

/-! ## A project with a nested layout -/

/-- A program with a package of two parts, and settings for the nested layout. -/
def nestedProject : FileTree where
  entries :=
    [("ir.json", .file "\x7b\"namespaces\":[\x7b\"name\":\"Game.Core\"\x7d]\x7d".toUTF8),
      (Settings.ownFile, .file "[protoscribe]\npackage_structured = true\n".toUTF8)]

/-- The program of this project. -/
def gameProgram : Program := ⟨[⟨"Game.Core", [], []⟩]⟩

/-- Settings for a folder and a layout. -/
def outSettings (layout : Layout) : Settings where
  output := .ofString "out"
  layout := layout

theorem load_gameProgram : Program.load nestedProject (.ofString "ir.json") = .ok gameProgram := by cbv

/-- Settings over those of the project's file. -/
theorem load_nestedProject {overrides : Settings.Given}
    (houtput : ((Settings.Given.update [("package_structured", .boolean true)] overrides).lookup
      Settings.outputKey).isNone = false)
    (hcheck : Settings.check (Settings.Given.update [("package_structured", .boolean true)] overrides) = .valid s) :
    Settings.load nestedProject none overrides = .ok s := by
  have hsource : Settings.source nestedProject none = .ok (some ⟨.slash, [Settings.ownFile]⟩) := by cbv
  have hread : nestedProject.read ⟨.slash, [Settings.ownFile]⟩ =
      .ok "[protoscribe]\npackage_structured = true\n".toUTF8 := by cbv
  have hdocument : Toml.read nestedProject.limits.settingsLevel "[protoscribe]\npackage_structured = true\n" =
      .ok [(Settings.tableKey, .table [("package_structured", .boolean true)])] := by cbv
  have htable : Settings.readTable nestedProject ⟨.slash, [Settings.ownFile]⟩ =
      .ok [("package_structured", .boolean true)] := by
    rw [Settings.readTable, hread]
    simp only [fromUTF8?_toUTF8, hdocument]
    rfl
  have hsettings : Settings.ofTable (some ⟨.slash, [Settings.ownFile]⟩) [("package_structured", .boolean true)]
      overrides = .ok s := by
    simp only [Settings.ofTable, List.map_cons, List.map_nil, Setting.ofToml, houtput, hcheck, Bool.false_eq_true,
      if_false]
  rw [Settings.load_eq, hsource]
  simp only [Except.bind, Option.map_some, Option.getD_some, htable, hsettings]

section

-- Paths and packages are followed character by character.
set_option maxRecDepth 4000

/-- An option for the flat layout holds for both commands, against the settings' file. -/
theorem nestedProject_flat_previewed :
    Previewed nestedProject (outSettings .flat) gameProgram (run nestedProject ["paths", "--ir", "ir.json", "--flat"])
      (run nestedProject ["compile", "--ir", "ir.json", "--output", "out", "--flat"]) := by
  have hcompile : Command.ofWords? ["compile", "--ir", "ir.json", "--output", "out", "--flat"] =
      some (.compile "ir.json" [(.program, "ir.json"), (.output, "out"), (.flat, "")]) := by cbv
  have hpaths : Command.ofWords? ["paths", "--ir", "ir.json", "--flat"] = some (.paths "ir.json" false) := by cbv
  have hsettings : Settings.load nestedProject none
      [(Settings.outputKey, .text "out"), ("package_structured", .boolean false)] =
        .ok (outSettings .flat) :=
    load_nestedProject (by decide) (by cbv)
  have hresult : (gameProgram.run (outSettings .flat) nestedProject).result =
      .ok [⟨.here, ["out", "game.core.proto"]⟩] := by cbv
  have hfailure : (run nestedProject ["compile", "--ir", "ir.json", "--output", "out", "--flat"]).failure = none := by
    rw [run, hcompile]
    exact congrArg Report.failure (compile_of_written hsettings load_gameProgram hresult)
  obtain ⟨-, hwith⟩ := paths_preview_compile (t := nestedProject) hcompile hpaths
  obtain ⟨-, hprogram⟩ := hwith _ hsettings rfl fun file why h => by cases hfailure.symm.trans h
  have hverbatim : ∀ name ∈ gameProgram.namespaceNames, IsVerbatim (Layout.flat.file name).toString := by
    have hfile : Layout.flat.file "Game.Core" = ⟨.here, ["game.core.proto"]⟩ := by cbv
    have hshown : IsVerbatim "game.core.proto" := by decide +kernel
    intro name hname
    rw [List.mem_singleton.1 hname, hfile]
    exact hshown
  exact ((hprogram _ load_gameProgram).1 fun h => by cases h).2 (Report.collision?_of_none hfailure) hverbatim

/-! ## Lists that are wrong -/

/-- A program whose namespace has a backslash before a bracket, and no settings. -/
def guardedProject : FileTree where
  entries := [("ir.json", .file "\x7b\"namespaces\":[\x7b\"name\":\"A\\\\[\"\x7d]\x7d".toUTF8)]

/-- The program of this project. -/
def guardedProgram : Program := ⟨[⟨"A\\[", [], []⟩]⟩

theorem load_guardedProgram : Program.load guardedProject (.ofString "ir.json") = .ok guardedProgram := by cbv

theorem load_guardedProject :
    Settings.load guardedProject none [(Settings.outputKey, .text "out")] = .ok (outSettings .flat) := by cbv

/-- A program of one file is listed by the path that the table shows for it. -/
theorem listedPaths_of_place (hload : Program.load t (.ofString "ir.json") = .ok p) {name text : String} {file : Path}
    (hplace : Layout.flat.place p.namespaceNames = .ok [(name, file)]) (hshown : shown file.toString = text)
    (hreadable : Terminal.IsReadable text) :
    (run t ["paths", "--ir", "ir.json"]).listedPaths = [.ofString text] := by
  have hpaths : Command.ofWords? ["paths", "--ir", "ir.json"] = some (.paths "ir.json" false) := by cbv
  have hreport : run t ["paths", "--ir", "ir.json"] = ⟨pathLines [(name, file)], t, none⟩ := by
    simp only [run, hpaths, paths, hload, Layout.ofNested, Bool.false_eq_true, if_false, hplace]
  subst hshown
  rw [hreport, Report.listedPaths, lastColumn_pathLines (by simpa using hreadable)]
  rfl

theorem listedPaths_nestedProject :
    (run nestedProject ["paths", "--ir", "ir.json"]).listedPaths = [⟨.here, ["game.core.proto"]⟩] := by
  have hplace : Layout.flat.place gameProgram.namespaceNames = .ok [("Game.Core", ⟨.here, ["game.core.proto"]⟩)] := by
    cbv
  have hshown : shown (Path.toString ⟨.here, ["game.core.proto"]⟩) = "game.core.proto" := by decide +kernel
  exact listedPaths_of_place load_gameProgram hplace hshown
    ⟨by decide +kernel, by decide, "game.core.prot".toList, 'o', by decide, by decide⟩

theorem listedPaths_guardedProject :
    (run guardedProject ["paths", "--ir", "ir.json"]).listedPaths = [⟨.here, ["a[.proto"]⟩] := by
  have hplace : Layout.flat.place guardedProgram.namespaceNames = .ok [("A\\[", ⟨.here, ["a\\[.proto"]⟩)] := by cbv
  have hshown : shown (Path.toString ⟨.here, ["a\\[.proto"]⟩) = "a[.proto" := by decide +kernel
  exact listedPaths_of_place load_guardedProgram hplace hshown
    ⟨by decide +kernel, by decide, "a[.prot".toList, 'o', by decide, by decide⟩

/-- A program of one file that can be written, whatever is to be written to it. -/
theorem compile_of_place {n : Namespace} (hload : Program.load t (.ofString "ir.json") = .ok ⟨[n]⟩)
    (hsettings : Settings.load t none [(Settings.outputKey, .text "out")] = .ok s) (hdump : s.dump = false)
    {name : String} {file : Path} (hplace : Program.place ⟨[n]⟩ s = .ok [(name, file)])
    (hwrite : ∀ r, (writeOutputs t [⟨s.output.join file, r⟩]).result = .ok [s.output.join file]) :
    (run t ["compile", "--ir", "ir.json", "--output", "out"]).failure = none ∧
      ∃ r, (run t ["compile", "--ir", "ir.json", "--output", "out"]).tree =
        (writeOutputs t [⟨s.output.join file, r⟩]).tree := by
  have hcompile : Command.ofWords? ["compile", "--ir", "ir.json", "--output", "out"] =
      some (.compile "ir.json" [(.program, "ir.json"), (.output, "out")]) := by cbv
  have hrun : (Program.run ⟨[n]⟩ s t).tree =
        (writeOutputs t [⟨s.output.join file, n.unit s.references [(name, file)]⟩]).tree ∧
      (Program.run ⟨[n]⟩ s t).result = .ok [s.output.join file] := by
    simp only [Program.run, hplace, hdump, Bool.false_eq_true, if_false]
    exact ⟨rfl, hwrite _⟩
  have hreport : compile t "ir.json" [(.program, "ir.json"), (.output, "out")] = _ :=
    compile_of_written hsettings hload hrun.2
  simp only [run, hcompile, hreport]
  exact ⟨trivial, _, hrun.1⟩

/-- The list shows files that are not written. Without an option, the flat file is listed and the nested one is written.
    And a backslash before a bracket is part of the written file, but it is not shown. -/
theorem nestedProject_and_guardedProject_listed_elsewhere :
    ((run nestedProject ["paths", "--ir", "ir.json"]).listedPaths = [⟨.here, ["game.core.proto"]⟩] ∧
      (run nestedProject ["compile", "--ir", "ir.json", "--output", "out"]).failure = none ∧
      (run nestedProject ["compile", "--ir", "ir.json", "--output", "out"]).tree.isFile
        ⟨.here, ["out", "game.core.proto"]⟩ = .ok false ∧
      (run nestedProject ["compile", "--ir", "ir.json", "--output", "out"]).tree.isFile
        ⟨.here, ["out", "game", "core.proto"]⟩ = .ok true) ∧
    (run guardedProject ["paths", "--ir", "ir.json"]).listedPaths = [⟨.here, ["a[.proto"]⟩] ∧
      (run guardedProject ["compile", "--ir", "ir.json", "--output", "out"]).failure = none ∧
      (run guardedProject ["compile", "--ir", "ir.json", "--output", "out"]).tree.isFile
        ⟨.here, ["out", "a[.proto"]⟩ = .ok false ∧
      (run guardedProject ["compile", "--ir", "ir.json", "--output", "out"]).tree.isFile
        ⟨.here, ["out", "a\\[.proto"]⟩ = .ok true := by
  constructor
  · have hsettings : Settings.load nestedProject none [(Settings.outputKey, .text "out")] = .ok (outSettings .nested) :=
      load_nestedProject (by decide) (by cbv)
    have hplace : gameProgram.place (outSettings .nested) =
        .ok [("Game.Core", ⟨.here, ["game", "core.proto"]⟩)] := by cbv
    obtain ⟨hfailure, r, htree⟩ := compile_of_place load_gameProgram hsettings rfl hplace (by intro r; cbv)
    rw [htree]
    exact ⟨listedPaths_nestedProject, hfailure, by cbv, by cbv⟩
  · have hplace : guardedProgram.place (outSettings .flat) = .ok [("A\\[", ⟨.here, ["a\\[.proto"]⟩)] := by cbv
    obtain ⟨hfailure, r, htree⟩ := compile_of_place load_guardedProgram load_guardedProject rfl hplace (by intro r; cbv)
    rw [htree]
    exact ⟨listedPaths_guardedProject, hfailure, by cbv, by cbv⟩

end

end CommandLine

end ProtoEmit
