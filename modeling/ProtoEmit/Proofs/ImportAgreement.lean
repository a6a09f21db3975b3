/-
  Imports and references agree.

  The import statements of a namespace's file are found by walking all of its messages, the type names by
  outlining the public ones; neither looks at the other. Here both are read back from the files that a run leaves in
  the tree, line by line: a file imports exactly the files of the other namespaces that its fields refer to, and every
  type name that crosses namespaces starts with a package that some imported file declares. Two things can spoil this,
  a name that breaks a line and an absolute file at the place of another one.
-/

import ProtoEmit.Proofs.LineBreaks
import ProtoEmit.Proofs.RunChanges

namespace ProtoEmit

/-! ## Statements of a file -/

/-- What stands between a given beginning and a given end of a line. -/
def between? (opening ending line : String) : Option String :=
  ((line.toList.dropPrefix? opening.toList).bind fun rest => rest.dropSuffix? ending.toList).map String.ofList

/-- The paths that the import statements among some lines give, in order. -/
def importedPaths (lines : List String) : List String :=
  lines.filterMap (between? "import \"" "\";")

/-- The package that the first package statement among some lines declares. -/
def declaredPackage? (lines : List String) : Option String :=
  lines.findSome? (between? "package " ";")

theorem between?_eq_some_iff {opening ending line x : String} :
    between? opening ending line = some x ↔ line = opening ++ x ++ ending := by
  unfold between?
  rw [Option.map_eq_some_iff]
  simp only [Option.bind_eq_some_iff, List.dropPrefix?_eq_some_iff, List.dropSuffix?_eq_some_iff, beq_iff_eq]
  constructor
  · rintro ⟨cs, ⟨rest, ⟨start, hline, rfl⟩, ⟨stop, rfl, rfl⟩⟩, rfl⟩
    apply String.toList_inj.1
    rw [hline]
    simp
  · rintro rfl
    refine ⟨x.toList, ⟨x.toList ++ ending.toList, ⟨opening.toList, ?_, rfl⟩, ending.toList, rfl, rfl⟩, ?_⟩
    · simp
    · simp

/-- A line that starts with another character is no such statement. -/
theorem between?_eq_none_of_head {opening ending line : String} (hne : opening.toList ≠ [])
    (h : line.toList.head? ≠ opening.toList.head?) : between? opening ending line = none := by
  rw [Option.eq_none_iff_forall_ne_some]
  intro x hx
  rw [between?_eq_some_iff] at hx
  refine h ?_
  obtain ⟨c, cs, hcs⟩ := List.exists_cons_of_ne_nil hne
  rw [hx, String.toList_append, String.toList_append, hcs]
  rfl

/-- No line of a block is an import statement. -/
theorem not_import_of_mem_linesAll {references : Bool} {bs : List Block} {line : String}
    (h : line ∈ Block.linesAll references "" bs) : between? "import \"" "\";" line = none := by
  rw [Block.linesAll_eq_flatMap, List.mem_flatMap] at h
  obtain ⟨b, -, hline⟩ := h
  apply between?_eq_none_of_head (by decide)
  rcases Block.mem_lines_cases hline with ⟨rest, rfl⟩ | ⟨rest, rfl⟩ | ⟨rest, rfl⟩ | (rfl | ⟨rest, rfl⟩) | rfl
  · simp
  · simp
  · simp
  · decide
  · simp [indentStep]
  · decide

/-- The import statements of a unit are those of the files that it is to import. -/
theorem importedPaths_unit (n : Namespace) (references : Bool) (files : List (String × Path)) :
    importedPaths (n.unit references files).lines = Text.sortByName id ((n.importFiles files).map Path.toString) := by
  have hbody : (renderBlocks references n.unitBlocks).lines.filterMap (between? "import \"" "\";") = [] :=
    List.filterMap_eq_nil_iff.2 fun line hline => not_import_of_mem_linesAll hline
  have himports : (importLines (n.importFiles files)).filterMap (between? "import \"" "\";") =
      Text.sortByName id ((n.importFiles files).map Path.toString) := by
    have hstatement : ∀ f : String, between? "import \"" "\";" ("import \"" ++ f ++ "\";") = some f := fun f =>
      between?_eq_some_iff.2 rfl
    have hblank : [""].filterMap (between? "import \"" "\";") = [] := by decide
    rw [importLines, List.filterMap_append, List.filterMap_map, hblank, List.append_nil]
    simp only [Function.comp_def, hstatement, List.filterMap_some]
  have hheader : (headerLines (some n.name)).filterMap (between? "import \"" "\";") = [] := by
    refine List.filterMap_eq_nil_iff.2 fun line hline => ?_
    apply between?_eq_none_of_head (by decide)
    simp only [headerLines, List.mem_append, List.mem_cons, List.not_mem_nil, or_false] at hline
    rcases hline with (rfl | rfl) | rfl | rfl | rfl
    · decide
    · simp
    · decide
    · decide
    · decide
  unfold importedPaths Namespace.unit
  rw [List.filterMap_append, List.filterMap_append, hheader, himports, hbody]
  simp

theorem declaredPackage?_unit (n : Namespace) (references : Bool) (files : List (String × Path)) :
    declaredPackage? (n.unit references files).lines = some (Package.name n.name) := by
  have hpackage : between? "package " ";" ("package " ++ Package.name n.name ++ ";") = some (Package.name n.name) :=
    between?_eq_some_iff.2 rfl
  have hsyntax : between? "package " ";" "syntax = \"proto3\";" = none := by decide
  simp only [declaredPackage?, Namespace.unit, headerLines, List.cons_append, List.nil_append, List.findSome?_cons,
    hsyntax, hpackage]

/-! ## Referring to a namespace -/

/-- Some field of some message of a namespace, public or not and at any depth, refers to a type of `owner`. -/
def Namespace.RefersTo (n : Namespace) (owner : String) : Prop :=
  ∃ m ∈ n.messages, ∃ path c, m.Reaches path c ∧ ∃ f ∈ c.fields, ∃ r, f.type = .reference r ∧ r.owner = owner

theorem FieldType.owner?_eq_some_iff {t : FieldType} {owner : String} :
    t.owner? = some owner ↔ ∃ r, t = .reference r ∧ r.owner = owner := by
  cases t with
  | scalar s => simp [FieldType.owner?]
  | reference r => simp [FieldType.owner?]

theorem nodup_eraseDups (xs : List String) : xs.eraseDups.Nodup := by
  -- each step leaves a shorter list, from which its first item is gone
  induction hlen : xs.length using Nat.strong_induction_on generalizing xs with
  | _ len ih =>
    cases xs with
    | nil => exact List.nodup_nil
    | cons x xs =>
      rw [List.eraseDups_cons, List.nodup_cons, List.mem_eraseDups]
      refine ⟨by simp, ih _ ?_ _ rfl⟩
      rw [← hlen, List.length_cons]
      exact Nat.lt_succ_of_le (List.length_filter_le _ _)

namespace Namespace

theorem mem_imports_iff {n : Namespace} {owner : String} : owner ∈ n.imports ↔ owner ≠ n.name ∧ n.RefersTo owner := by
  unfold imports referredOwners allMessages RefersTo
  simp only [List.mem_eraseDups, List.mem_filter, List.mem_flatMap, List.mem_filterMap, bne_iff_ne,
    FieldType.owner?_eq_some_iff, Message.mem_all_iff]
  constructor
  · rintro ⟨⟨c, ⟨m, hm, path, hreach⟩, f, hf, href⟩, hne⟩
    exact ⟨hne, m, hm, path, c, hreach, f, hf, href⟩
  · rintro ⟨hne, m, hm, path, c, hreach, f, hf, href⟩
    exact ⟨⟨c, ⟨m, hm, path, hreach⟩, f, hf, href⟩, hne⟩

theorem mem_sortedImports_iff {n : Namespace} {owner : String} :
    owner ∈ n.sortedImports ↔ owner ≠ n.name ∧ n.RefersTo owner := by
  rw [sortedImports, Text.mem_sortByName, mem_imports_iff]

theorem nodup_sortedImports (n : Namespace) : n.sortedImports.Nodup :=
  (Text.sortByName_perm id n.imports).nodup_iff.2 (nodup_eraseDups _)

/-- The namespaces of the fields of an emitted message are referred to. -/
theorem Emits.refersTo {n : Namespace} {path : List String} {c : Message} (h : n.Emits path c) {f : Field}
    (hf : f ∈ c.fields) {r : Reference} (htype : f.type = .reference r) : n.RefersTo r.owner := by
  obtain ⟨m, hm, -, hreach⟩ := h
  exact ⟨m, hm, path, c, hreach, f, hf, r, htype, rfl⟩

/-- Every field of an emitted message has its line in the file. -/
theorem Emits.exists_text_mem_unit {n : Namespace} {path : List String} {c : Message} (h : n.Emits path c) {f : Field}
    (hf : f ∈ c.fields) (references : Bool) (files : List (String × Path)) :
    ∃ inGroup indent, (f.line ⟨n.name, path⟩ inGroup).text indent ∈ (n.unit references files).lines := by
  obtain ⟨inGroup, hline⟩ := h.exists_line hf
  obtain ⟨indent, htext⟩ := h.at_outline.exists_text_mem_linesAll hline references ""
  exact ⟨inGroup, indent, List.mem_append_right _ htext⟩

end Namespace

/-- A type of another namespace is named from the root. -/
theorem Field.type_line_of_ne {f : Field} {r : Reference} (htype : f.type = .reference r) {scope : Scope}
    (howner : r.owner ≠ scope.owner) (inGroup : Bool) :
    (f.line scope inGroup).type = "." ++ Package.name r.owner ++ "." ++ r.path := by
  simp only [Field.line, htype, FieldType.text, Reference.text, if_neg howner]

/-! ## The files to import -/

section Files

variable {p : Program} {s : Settings} {n : Namespace}

theorem importFiles_eq (p : Program) (s : Settings) (n : Namespace) :
    n.importFiles (p.files s) = (n.sortedImports.filter (· ∈ p.namespaceNames)).map s.layout.file := by
  unfold Namespace.importFiles
  induction n.sortedImports with
  | nil => rfl
  | cons owner owners ih =>
    by_cases h : owner ∈ p.namespaceNames
    · rw [List.filterMap_cons, Program.lookup_files_of_mem h, List.filter_cons_of_pos (by simpa using h), ih]
      rfl
    · rw [List.filterMap_cons, Program.lookup_files_of_not_mem h, List.filter_cons_of_neg (by simpa using h), ih]

theorem mem_importedPaths_iff {text : String} :
    text ∈ importedPaths (n.unit s.references (p.files s)).lines ↔
      ∃ m ∈ p.namespaces, m.name ≠ n.name ∧ n.RefersTo m.name ∧ text = (s.layout.file m.name).toString := by
  rw [importedPaths_unit, Text.mem_sortByName, importFiles_eq, List.mem_map]
  simp only [List.mem_map, List.mem_filter, decide_eq_true_eq, Namespace.mem_sortedImports_iff, Program.namespaceNames]
  constructor
  · rintro ⟨file, ⟨owner, ⟨⟨hne, href⟩, m, hm, rfl⟩, rfl⟩, rfl⟩
    exact ⟨m, hm, hne, href, rfl⟩
  · rintro ⟨m, hm, hne, href, rfl⟩
    exact ⟨_, ⟨m.name, ⟨⟨hne, href⟩, m, hm, rfl⟩, rfl⟩, rfl⟩

/-- Namespaces with files of their own are imported by texts of their own. -/
theorem nodup_importedPaths (hfiles : (p.namespaceNames.map s.layout.file).Nodup) :
    (importedPaths (n.unit s.references (p.files s)).lines).Nodup := by
  have hinj := List.inj_on_of_nodup_map hfiles
  rw [importedPaths_unit, (Text.sortByName_perm _ _).nodup_iff, importFiles_eq, List.map_map]
  refine List.Nodup.map_on ?_ ((Namespace.nodup_sortedImports n).filter _)
  intro a ha b hb heq
  have hfile := (Layout.normal_file s.layout a).toString_inj (Layout.normal_file s.layout b) heq
  rw [List.mem_filter, decide_eq_true_eq] at ha hb
  exact hinj ha.2 hb.2 hfile

/-- A file of its own is not imported under the name of another one. -/
theorem ne_file_of_mem_importedPaths (hfiles : (p.namespaceNames.map s.layout.file).Nodup) (hn : n ∈ p.namespaces)
    {text : String} (htext : text ∈ importedPaths (n.unit s.references (p.files s)).lines) :
    text ≠ (s.layout.file n.name).toString := by
  obtain ⟨m, hm, hne, -, rfl⟩ := mem_importedPaths_iff.1 htext
  intro heq
  have hfile := (s.layout.normal_file m.name).toString_inj (s.layout.normal_file n.name) heq
  exact hne (List.inj_on_of_nodup_map hfiles (List.mem_map_of_mem hm) (List.mem_map_of_mem hn) hfile)

/-! ## Warnings -/

theorem missingImports_eq (p : Program) (s : Settings) (n : Namespace) :
    n.missingImports (p.files s) = n.sortedImports.filter (· ∉ p.namespaceNames) := by
  unfold Namespace.missingImports
  refine List.filter_congr fun owner _ => ?_
  by_cases h : owner ∈ p.namespaceNames
  · simp [Program.lookup_files_of_mem h, h]
  · simp [Program.lookup_files_of_not_mem h, h]

/-- What a namespace of the program misses are the namespaces that it refers to and the program does not have. -/
theorem mem_missing_iff (hn : n ∈ p.namespaces) {owner : String} :
    owner ∈ n.sortedImports.filter (· ∉ p.namespaceNames) ↔ n.RefersTo owner ∧ owner ∉ p.namespaceNames := by
  rw [List.mem_filter, Namespace.mem_sortedImports_iff, decide_eq_true_eq]
  constructor
  · rintro ⟨⟨-, href⟩, howner⟩
    exact ⟨href, howner⟩
  · rintro ⟨href, howner⟩
    refine ⟨⟨?_, href⟩, howner⟩
    rintro rfl
    exact howner (List.mem_map_of_mem hn)

theorem count_events_unit (owner : String) :
    (n.unit s.references (p.files s)).events.count (.unknownNamespace n.name owner) =
      if owner ∈ n.sortedImports.filter (· ∉ p.namespaceNames) then 1 else 0 := by
  have hbody : Event.unknownNamespace n.name owner ∉ (renderBlocks s.references n.unitBlocks).events := by
    intro h
    obtain ⟨e, -, he⟩ := List.mem_map.1 h
    cases he
  have hinj : Function.Injective (Event.unknownNamespace n.name) := by
    intro a b h
    cases h
    rfl
  unfold Namespace.unit
  rw [List.count_append, List.count_eq_zero_of_not_mem hbody, List.count_map_of_injective _ _ hinj, missingImports_eq]
  exact ((Namespace.nodup_sortedImports n).filter _).count

/-- Among namespaces of different names only one reports on itself. -/
theorem count_flatMap_of_unique {ns : List Namespace} (hn : n ∈ ns) (hnames : (ns.map (·.name)).Nodup)
    {reports : Namespace → List Event} {e : Event} (hother : ∀ m ∈ ns, m.name ≠ n.name → e ∉ reports m) :
    (ns.flatMap reports).count e = (reports n).count e := by
  obtain ⟨before, after, rfl⟩ := List.append_of_mem hn
  rw [List.map_append, List.map_cons, List.nodup_middle, List.nodup_cons, ← List.map_append] at hnames
  have hzero : ∀ ms : List Namespace, (∀ m ∈ ms, m ∈ before ++ after) → (ms.flatMap reports).count e = 0 := by
    intro ms hms
    apply List.count_eq_zero_of_not_mem
    intro he
    obtain ⟨m, hm, hem⟩ := List.mem_flatMap.1 he
    refine hother m ?_ ?_ hem
    · have := hms m hm
      simp only [List.mem_append, List.mem_cons] at this ⊢
      tauto
    · intro heq
      exact hnames.1 (heq ▸ List.mem_map_of_mem (hms m hm))
  rw [List.flatMap_append, List.flatMap_cons, List.count_append, List.count_append,
    hzero before fun m hm => List.mem_append_left _ hm, hzero after fun m hm => List.mem_append_right _ hm]
  omega

/-- What a whole run reports on a namespace that is referred to and missing. -/
theorem count_log_unknownNamespace {t : FileTree} {written : List Path} (hdump : s.dump = false)
    (hrun : (p.run s t).result = .ok written) (hn : n ∈ p.namespaces) (owner : String) :
    (p.run s t).log.count (.unknownNamespace n.name owner) =
      if owner ∈ n.sortedImports.filter (· ∉ p.namespaceNames) then 1 else 0 := by
  obtain ⟨hfiles, -, -, hlog⟩ := Program.run_of_ok hdump hrun
  have hnames : (p.namespaces.map (·.name)).Nodup := List.Nodup.of_map _ hfiles
  rw [hlog, List.count_cons_of_ne (by simp), Program.units_files, List.flatMap_map, count_flatMap_of_unique hn hnames]
  · rw [List.count_append, count_events_unit]
    simp
  · intro m _ hne h
    simp only [List.mem_append, List.mem_singleton, reduceCtorEq, or_false] at h
    rcases List.mem_append.1 h with h | h
    · obtain ⟨x, -, hx⟩ := List.mem_map.1 h
      exact hne (Event.unknownNamespace.inj hx).1
    · obtain ⟨x, -, hx⟩ := List.mem_map.1 h
      cases hx

end Files

/-! ## Agreement -/

/-- The lines of a file, the last one without a line break after it, if the file can be read and holds text. -/
def FileTree.lines? (t : FileTree) (file : Path) : Option (List String) :=
  match t.read file with
  | .ok content => (String.fromUTF8? content).map (Text.split '\n')
  | .error _ => none

theorem FileTree.lines?_of_read {t : FileTree} {file : Path} {text : String} (h : t.read file = .ok text.toUTF8) :
    t.lines? file = some (Text.split '\n' text) := by
  simp only [lines?, h, fromUTF8?_toUTF8, Option.map_some]

/-- After a run that returns, the file of a namespace has the lines of its unit: no line is broken, and the file is
    not overwritten. -/
theorem Program.lines?_target {p : Program} {s : Settings} {t : FileTree} {written : List Path}
    (hdump : s.dump = false) (hlines : p.toJson.IsOneLined)
    (hapart : (p.run s t).tree.Apart (p.namespaces.map s.target)) (hrun : (p.run s t).result = .ok written)
    {n : Namespace} (hn : n ∈ p.namespaces) :
    (p.run s t).tree.lines? (s.target n) = some ((n.unit s.references (p.files s)).lines ++ [""]) := by
  rw [FileTree.lines?_of_read (read_target_of_apart hdump hapart hrun hn)]
  exact congrArg some (Rendered.split_text (p.oneLine_of_mem_unit hlines s hn))

theorem importedPaths_append_empty (lines : List String) : importedPaths (lines ++ [""]) = importedPaths lines := by
  have hempty : [""].filterMap (between? "import \"" "\";") = [] := by decide
  rw [importedPaths, List.filterMap_append, hempty, List.append_nil, importedPaths]

/-- The import statements, type names and warnings of one namespace after a run of `p` that wrote to the paths
    `written` and came out as `o`: `lines` are the lines of the namespace's file. -/
structure ImportsAgree (p : Program) (s : Settings) (o : Outcome) (written : List Path) (n : Namespace)
    (lines : List String) : Prop where
  ascending : (importedPaths lines).Pairwise fun a b => Text.sortKey a ≤ Text.sortKey b
  distinct : (importedPaths lines).Nodup
  /-- What is imported are the files of the other namespaces that are referred to. -/
  exact : ∀ text, text ∈ importedPaths lines ↔
    ∃ m ∈ p.namespaces, m.name ≠ n.name ∧ n.RefersTo m.name ∧ text = (s.layout.file m.name).toString
  /-- What is imported is written by the same run, and is not the file itself. -/
  elsewhere : ∀ text ∈ importedPaths lines, text ≠ (s.layout.file n.name).toString ∧
    ∃ m ∈ p.namespaces, text = (s.layout.file m.name).toString ∧ s.target m ∈ written
  /-- The type of a field of another namespace of the program is named by the package that the file of that
      namespace declares, in a file that imports that file. -/
  qualified : ∀ path c, n.Emits path c → ∀ f ∈ c.fields, ∀ r, f.type = .reference r → r.owner ≠ n.name →
    ∀ m ∈ p.namespaces, m.name = r.owner →
      (∃ inGroup indent, (f.line ⟨n.name, path⟩ inGroup).text indent ∈ lines) ∧
        (∃ others package, o.tree.lines? (s.target m) = some others ∧ declaredPackage? others = some package ∧
          ∀ inGroup, (f.line ⟨n.name, path⟩ inGroup).type = "." ++ package ++ "." ++ r.path) ∧
        (s.layout.file m.name).toString ∈ importedPaths lines
  /-- A namespace that is referred to and not in the program is reported once, and no other is reported. -/
  warned : ∀ owner, n.RefersTo owner → owner ∉ p.namespaceNames → o.log.count (.unknownNamespace n.name owner) = 1
  warnedOnly : ∀ owner, .unknownNamespace n.name owner ∈ o.log → n.RefersTo owner ∧ owner ∉ p.namespaceNames

/-- After every run for each namespace that returns, imports and references agree in every file that it left: if no
    text of the program holds a line break, and no file was written to the place of another one. -/
theorem Program.run_imports_agree {p : Program} {s : Settings} {t : FileTree} {written : List Path}
    (hdump : s.dump = false) (hlines : p.toJson.IsOneLined)
    (hapart : (p.run s t).tree.Apart (p.namespaces.map s.target)) (hrun : (p.run s t).result = .ok written) :
    ∀ n ∈ p.namespaces, ∃ lines, (p.run s t).tree.lines? (s.target n) = some lines ∧
      ImportsAgree p s (p.run s t) written n lines := by
  intro n hn
  obtain ⟨hfiles, -, hwritten, -⟩ := run_of_ok hdump hrun
  refine ⟨_, lines?_target hdump hlines hapart hrun hn, ?_⟩
  constructor
  case ascending =>
    rw [importedPaths_append_empty, importedPaths_unit]
    exact Text.sortByName_pairwise id _
  case distinct =>
    rw [importedPaths_append_empty]
    exact nodup_importedPaths hfiles
  case exact =>
    intro text
    rw [importedPaths_append_empty]
    exact mem_importedPaths_iff
  case elsewhere =>
    intro text htext
    rw [importedPaths_append_empty] at htext
    obtain ⟨m, hm, -, -, heq⟩ := mem_importedPaths_iff.1 htext
    refine ⟨ne_file_of_mem_importedPaths hfiles hn htext, m, hm, heq, ?_⟩
    rw [hwritten, units_files, List.map_map]
    exact List.mem_map_of_mem hm
  case qualified =>
    intro path c hemits f hf r htype howner m hm hname
    obtain ⟨inGroup, indent, htext⟩ := hemits.exists_text_mem_unit hf s.references (p.files s)
    refine ⟨⟨inGroup, indent, List.mem_append_left _ htext⟩,
      ⟨_, Package.name m.name, lines?_target hdump hlines hapart hrun hm, ?_, ?_⟩, ?_⟩
    · rw [declaredPackage?, List.findSome?_append, ← declaredPackage?, declaredPackage?_unit]
      rfl
    · rw [hname]
      exact Field.type_line_of_ne htype howner
    · rw [importedPaths_append_empty]
      exact mem_importedPaths_iff.2 ⟨m, hm, hname ▸ howner, hname ▸ hemits.refersTo hf htype, rfl⟩
  case warned =>
    intro owner href howner
    rw [count_log_unknownNamespace hdump hrun hn, if_pos ((mem_missing_iff hn).2 ⟨href, howner⟩)]
  case warnedOnly =>
    intro owner hevent
    have hpos := List.count_pos_iff.2 hevent
    rw [count_log_unknownNamespace hdump hrun hn] at hpos
    by_contra hnot
    rw [if_neg (mt (mem_missing_iff hn).1 hnot)] at hpos
    exact absurd hpos (lt_irrefl 0)

/-- A shop whose cart holds an order of another namespace as an alternative, and something of a namespace that is
    not there. -/
def shopAndOrders : Program :=
  ⟨[⟨"Shop", [⟨"Cart", "", [⟨"Order", .reference ⟨"Orders", "Order"⟩, { tag := 2 }⟩,
        ⟨"Coupon", .reference ⟨"Coupons", "Coupon"⟩, { tag := 1 }⟩],
      [.enumeration ⟨"MessageOneofCase", "", [⟨"Order", 2⟩], true⟩], false⟩], []⟩,
    ⟨"Orders", [⟨"Order", "", [], [], false⟩], []⟩]⟩

theorem shopAndOrders_run_imports_agree :
    (shopAndOrders.run { output := ⟨.here, ["out"]⟩ } {}).result =
        .ok [⟨.here, ["out", "shop.proto"]⟩, ⟨.here, ["out", "orders.proto"]⟩] ∧
      ∀ n ∈ shopAndOrders.namespaces, ∃ lines,
        (shopAndOrders.run { output := ⟨.here, ["out"]⟩ } {}).tree.lines?
            (Settings.target { output := ⟨.here, ["out"]⟩ } n) = some lines ∧
          ImportsAgree shopAndOrders { output := ⟨.here, ["out"]⟩ }
            (shopAndOrders.run { output := ⟨.here, ["out"]⟩ } {})
            [⟨.here, ["out", "shop.proto"]⟩, ⟨.here, ["out", "orders.proto"]⟩] n lines := by
  have hplace : shopAndOrders.place { output := ⟨.here, ["out"]⟩ } =
      .ok [("Shop", ⟨.here, ["shop.proto"]⟩), ("Orders", ⟨.here, ["orders.proto"]⟩)] := by
    decide +kernel
  -- whether a file can be written does not depend on what is to be written
  have hwrite : ∀ shop orders : Rendered,
      (writeOutputs {} [⟨⟨.here, ["out", "shop.proto"]⟩, shop⟩, ⟨⟨.here, ["out", "orders.proto"]⟩, orders⟩]).result =
        .ok [⟨.here, ["out", "shop.proto"]⟩, ⟨.here, ["out", "orders.proto"]⟩] := by
    intro shop orders
    cbv
  have hrun : (shopAndOrders.run { output := ⟨.here, ["out"]⟩ } {}).result =
      .ok [⟨.here, ["out", "shop.proto"]⟩, ⟨.here, ["out", "orders.proto"]⟩] := by
    rw [Program.run, hplace]
    exact hwrite _ _
  have hapart := Program.apart_targets (p := shopAndOrders) (s := { output := ⟨.here, ["out"]⟩ }) (by decide +kernel)
    (by decide +kernel) (shopAndOrders.run { output := ⟨.here, ["out"]⟩ } {}).tree
  exact ⟨hrun, Program.run_imports_agree rfl (by decide +kernel) hapart hrun⟩

/-- A message whose name breaks the line, and puts an import statement on a line of its own. -/
def brokenLine : Program :=
  ⟨[⟨"Shop", [⟨"A \x7b\n\x7d\nimport \"other.proto\";\nmessage B", "", [], [], false⟩], []⟩]⟩

/-- A shop that refers to the order of a namespace with an absolute file, which is that of the shop below `/out`. -/
def sharedPlace : Program :=
  ⟨[⟨"Shop", [⟨"Cart", "", [⟨"Order", .reference ⟨"/out/shop", "Order"⟩, { tag := 1 }⟩], [], false⟩], []⟩,
    ⟨"/out/shop", [⟨"Order", "", [], [], false⟩], []⟩]⟩

/-- A name that breaks a line makes an import statement that no field asks for. And the file of a namespace is lost to
    one that is written to its place: it declares the package of the other, and has none of its import statements. -/
theorem brokenLine_and_sharedPlace_disagree :
    ((brokenLine.run { output := ⟨.here, ["out"]⟩ } {}).result = .ok [⟨.here, ["out", "shop.proto"]⟩] ∧
      ∃ lines,
        (brokenLine.run { output := ⟨.here, ["out"]⟩ } {}).tree.lines? ⟨.here, ["out", "shop.proto"]⟩ = some lines ∧
        importedPaths lines = ["other.proto"] ∧ ∀ n ∈ brokenLine.namespaces, n.name = "Shop") ∧
    ((sharedPlace.run { output := ⟨.slash, ["out"]⟩ } {}).result =
        .ok [⟨.slash, ["out", "shop.proto"]⟩, ⟨.slash, ["out", "shop.proto"]⟩] ∧
      ∃ lines, (sharedPlace.run { output := ⟨.slash, ["out"]⟩ } {}).tree.lines? ⟨.slash, ["out", "shop.proto"]⟩ =
          some lines ∧
        importedPaths lines = [] ∧ declaredPackage? lines = some "/out/shop" ∧
        ∃ n ∈ sharedPlace.namespaces, n.name = "Shop" ∧ n.RefersTo "/out/shop") := by
  constructor
  · have hplace : brokenLine.place { output := ⟨.here, ["out"]⟩ } = .ok [("Shop", ⟨.here, ["shop.proto"]⟩)] := by
      decide +kernel
    have hwrite : ∀ shop : Rendered, (writeOutputs {} [⟨⟨.here, ["out", "shop.proto"]⟩, shop⟩]).result =
        .ok [⟨.here, ["out", "shop.proto"]⟩] := by
      intro shop
      cbv
    have hrun : (brokenLine.run { output := ⟨.here, ["out"]⟩ } {}).result = .ok [⟨.here, ["out", "shop.proto"]⟩] := by
      rw [Program.run, hplace]
      exact hwrite _
    have hapart : (brokenLine.run { output := ⟨.here, ["out"]⟩ } {}).tree.Apart
        (brokenLine.namespaces.map (Settings.target { output := ⟨.here, ["out"]⟩ })) := List.pairwise_singleton _ _
    have hread := Program.read_target_of_apart rfl hapart hrun (List.mem_singleton_self _)
    exact ⟨hrun, _, FileTree.lines?_of_read hread, by decide +kernel, by decide⟩
  · have hplace : sharedPlace.place { output := ⟨.slash, ["out"]⟩ } =
        .ok [("Shop", ⟨.here, ["shop.proto"]⟩), ("/out/shop", ⟨.slash, ["out", "shop.proto"]⟩)] := by
      decide +kernel
    have hwrite : ∀ shop orders : Rendered,
        (writeOutputs {} [⟨⟨.slash, ["out", "shop.proto"]⟩, shop⟩, ⟨⟨.slash, ["out", "shop.proto"]⟩, orders⟩]).result =
          .ok [⟨.slash, ["out", "shop.proto"]⟩, ⟨.slash, ["out", "shop.proto"]⟩] ∧
        (writeOutputs {} [⟨⟨.slash, ["out", "shop.proto"]⟩, shop⟩,
          ⟨⟨.slash, ["out", "shop.proto"]⟩, orders⟩]).tree.read ⟨.slash, ["out", "shop.proto"]⟩ =
            .ok orders.text.toUTF8 := by
      intro shop orders
      constructor
      · cbv
      · cbv
    rw [Program.run, hplace]
    refine ⟨(hwrite _ _).1, _, FileTree.lines?_of_read (hwrite _ _).2, by decide +kernel, by decide +kernel,
      _, List.mem_cons_self, rfl, ?_⟩
    exact (Namespace.mem_imports_iff.1 (by decide +kernel)).2

end ProtoEmit
