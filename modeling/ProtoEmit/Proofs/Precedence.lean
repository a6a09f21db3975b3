/-
  Which value of a setting counts.

  Values given directly replace those of a file, name by name. So whatever a file says of a setting, a value that is
  given for it decides; where none is given the file decides, and where the file is silent the setting has a value to
  fall back on, unless it is the output folder. Names count whether their values do or not: one that is no setting
  stands in the way of all. Only an output folder that a file gives relative to itself is changed by reading the file.
-/

import ProtoEmit.Proofs.Decoding
import ProtoEmit.Proofs.Failures
import ProtoEmit.Proofs.Placement
import ProtoEmit.Proofs.TextRoundTrip

namespace ProtoEmit

namespace Settings

/-! ## Named values -/

namespace Given

theorem lookup_entry (key name : String) (v : Setting) (given : Given) :
    List.lookup key ((name, v) :: given) = if key = name then some v else given.lookup key := by
  rw [List.lookup_cons]
  by_cases h : key = name
  · rw [if_pos h, beq_iff_eq.2 h]
  · rw [if_neg h, beq_eq_false_iff_ne.2 h]

theorem lookup_put (key name : String) (v : Setting) (given : Given) :
    (Given.put name v given).lookup key = if key = name then some v else given.lookup key := by
  induction given with
  | nil => exact lookup_entry key name v []
  | cons entry given ih =>
    obtain ⟨name', w⟩ := entry
    rw [Given.put]
    split
    · -- the value stands where the name stood, before all other entries
      rename_i hname
      subst hname
      rw [lookup_entry, lookup_entry]
      split
      · rfl
      · rfl
    · rename_i hname
      rw [lookup_entry, lookup_entry, ih]
      split
      · rename_i hkey
        rw [if_neg (fun h => hname (hkey.symm.trans h))]
      · rfl

/-- The last value that is given for a name counts, and where there is none the value from before. -/
theorem lookup_update (given overrides : Given) (key : String) :
    (Given.update given overrides).lookup key = (overrides.reverse.lookup key).or (given.lookup key) := by
  induction overrides generalizing given with
  | nil => rfl
  | cons entry overrides ih =>
    obtain ⟨name, v⟩ := entry
    have hstep : Given.update given ((name, v) :: overrides) = Given.update (Given.put name v given) overrides := rfl
    rw [hstep, ih, lookup_put, List.reverse_cons, List.lookup_append, Option.or_assoc, lookup_entry]
    split
    · rfl
    · rfl

/-- Of names that occur once each, those that are left open have no value. -/
theorem lookup_reverse_ofOptions {options : List (String × Option Setting)} (hnames : (options.map Prod.fst).Nodup)
    (key : String) : (Given.ofOptions options).reverse.lookup key = (options.lookup key).join := by
  induction options with
  | nil => rfl
  | cons option options ih =>
    obtain ⟨name, value?⟩ := option
    obtain ⟨hname, hrest⟩ := List.nodup_cons.1 hnames
    rw [List.lookup_cons]
    cases hkey : key == name with
    | false =>
      cases value? with
      | none => exact ih hrest
      | some v =>
        have hstep : Given.ofOptions ((name, some v) :: options) = (name, v) :: Given.ofOptions options := rfl
        rw [hstep, List.reverse_cons, List.lookup_append, ih hrest, List.lookup_cons, hkey]
        exact Option.or_none
    | true =>
      -- no later option has the name, so the first one alone says what it stands for
      obtain rfl : key = name := beq_iff_eq.1 hkey
      have hlater : options.lookup key = none := by
        rw [List.lookup_eq_none_iff]
        intro later hlater
        rw [bne_iff_ne]
        exact fun heq => hname (List.mem_map.2 ⟨later, hlater, heq.symm⟩)
      have hnone := ih hrest
      rw [hlater] at hnone
      cases value? with
      | none => exact hnone
      | some v =>
        have hstep : Given.ofOptions ((key, some v) :: options) = (key, v) :: Given.ofOptions options := rfl
        rw [hstep, List.reverse_cons, List.lookup_append, hnone, List.lookup_cons, hkey]
        rfl

theorem mem_keys_ofOptions {options : List (String × Option Setting)} {key : String} :
    key ∈ (Given.ofOptions options).map Prod.fst ↔ ∃ v, (key, some v) ∈ options := by
  simp only [Given.ofOptions, List.mem_map, List.mem_filterMap, Option.map_eq_some_iff]
  constructor
  · rintro ⟨_, ⟨⟨name, value?⟩, hmem, v, rfl, rfl⟩, rfl⟩
    exact ⟨v, hmem⟩
  · rintro ⟨v, hmem⟩
    exact ⟨(key, v), ⟨(key, some v), hmem, v, rfl, rfl⟩, rfl⟩

theorem mem_keys_put {key name : String} {v : Setting} {given : Given} :
    key ∈ (Given.put name v given).map Prod.fst ↔ key = name ∨ key ∈ given.map Prod.fst := by
  induction given with
  | nil => simp [Given.put]
  | cons entry given ih =>
    obtain ⟨name', w⟩ := entry
    rw [Given.put]
    split
    · rename_i hname
      simp [hname]
    · simp only [List.map_cons, List.mem_cons, ih]
      tauto

/-- The names of both count. -/
theorem mem_keys_update {key : String} {given overrides : Given} :
    key ∈ (Given.update given overrides).map Prod.fst ↔ key ∈ given.map Prod.fst ∨ key ∈ overrides.map Prod.fst := by
  induction overrides generalizing given with
  | nil => simp [Given.update]
  | cons entry overrides ih =>
    obtain ⟨name, v⟩ := entry
    have hstep : Given.update given ((name, v) :: overrides) = Given.update (Given.put name v given) overrides := rfl
    rw [hstep, ih, mem_keys_put, List.map_cons, List.mem_cons]
    tauto

end Given

/-- Entries that are changed under their names are looked up as before, and then changed. -/
theorem lookup_map_entries {α β : Type} {change : String × α → String × β} (value : String → α → β)
    (h : ∀ name a, change (name, a) = (name, value name a)) (entries : List (String × α)) (key : String) :
    (entries.map change).lookup key = (entries.lookup key).map (value key) := by
  induction entries with
  | nil => rfl
  | cons entry entries ih =>
    obtain ⟨name, a⟩ := entry
    rw [List.map_cons, h, List.lookup_cons, List.lookup_cons, ih]
    cases hkey : key == name with
    | false => rfl
    | true =>
      rw [beq_iff_eq.1 hkey]
      rfl

/-! ## Checked settings -/

/-- Settings are the checked values of their names, and no other name is given. -/
theorem check_eq_valid_iff {given : Given} {s : Settings} :
    check given = .valid s ↔
      required outputKey Setting.toPath given = .valid s.output ∧
      (∃ nested, optional "package_structured" false Setting.toBool given = .valid nested ∧
        s.layout = .ofNested nested) ∧
      optional "dump_mode" false Setting.toBool given = .valid s.dump ∧
      optional "dump_file_name" "dump.proto" Setting.toName given = .valid s.dumpFile ∧
      optional "include_references" false Setting.toBool given = .valid s.references ∧
      onlyKnown given = .valid () := by
  obtain ⟨output, layout, dump, dumpFile, references⟩ := s
  simp only [check, Checked.seq_eq_valid_iff, Checked.functor_map_eq_valid_iff]
  constructor
  · rintro ⟨_, ⟨_, ⟨_, ⟨_, ⟨_, ⟨output', houtput, rfl⟩, nested, hnested, rfl⟩, dump', hdump, rfl⟩, dumpFile', hdumpFile,
      rfl⟩, references', hreferences, rfl⟩, _, hknown, heq⟩
    cases heq
    exact ⟨houtput, ⟨nested, hnested, rfl⟩, hdump, hdumpFile, hreferences, hknown⟩
  · rintro ⟨houtput, ⟨nested, hnested, rfl⟩, hdump, hdumpFile, hreferences, hknown⟩
    exact ⟨_, ⟨_, ⟨_, ⟨_, ⟨_, ⟨output, houtput, rfl⟩, nested, hnested, rfl⟩, dump, hdump, rfl⟩, dumpFile, hdumpFile, rfl⟩,
      references, hreferences, rfl⟩, (), hknown, rfl⟩

/-- A value decides a setting that may be left out: checked, it is the setting, which falls back without it. -/
def Decides {α : Type} (value? : Option Setting) (check : Setting → Checked α) (fallback a : α) : Prop :=
  match value? with
  | some v => check v = .valid a
  | none => a = fallback

theorem optional_eq_valid_iff {α : Type} {key : String} {fallback a : α} {check : Setting → Checked α} {given : Given} :
    optional key fallback check given = .valid a ↔ Decides (given.lookup key) check fallback a := by
  unfold optional Decides
  cases given.lookup key with
  | none => simp [eq_comm]
  | some v => exact Checked.under_eq_valid_iff

theorem required_eq_valid_iff {α : Type} {key : String} {a : α} {check : Setting → Checked α} {given : Given} :
    required key check given = .valid a ↔ ∃ v, given.lookup key = some v ∧ check v = .valid a := by
  unfold required
  cases given.lookup key with
  | none => simp
  | some v => simp [Checked.under_eq_valid_iff]

theorem exists_decides_iff {α : Type} {value? : Option Setting} {check : Setting → Checked α} {fallback : α} :
    (∃ a, Decides value? check fallback a) ↔ ∀ v, value? = some v → ∃ a, check v = .valid a := by
  cases value? with
  | none => simp [Decides]
  | some v => simp [Decides]

theorem onlyKnown_eq_valid_iff {given : Given} :
    onlyKnown given = .valid () ↔ ∀ key ∈ given.map Prod.fst, key ∈ keys := by
  have hfilter : onlyKnown given = .valid () ↔ (given.filter fun entry => !keys.contains entry.1) = [] := by
    unfold onlyKnown
    split
    · rename_i hnone
      exact iff_of_true rfl hnone
    · rename_i hsome
      exact iff_of_false (fun h => by cases h) hsome
  rw [hfilter, List.filter_eq_nil_iff, List.forall_mem_map]
  simp

/-- After a table has been read, settings are loaded if and only if everything that is given passes the checks. -/
theorem ofTable_eq_ok_iff {found : Option Path} {table : Toml.Table} {overrides : Given} {s : Settings} :
    ofTable found table overrides = .ok s ↔
      check (Given.update (table.map fun (k, v) => (k, Setting.ofToml v)) overrides) = .valid s := by
  unfold ofTable
  simp only
  split
  · rename_i hnone
    -- without an output folder the checks fail too
    refine iff_of_false (fun h => by cases h) fun hcheck => ?_
    obtain ⟨v, hv, -⟩ := required_eq_valid_iff.1 (check_eq_valid_iff.1 hcheck).1
    rw [hv] at hnone
    cases hnone
  · split
    · rename_i settings hcheck
      rw [hcheck, Except.ok.injEq, Checked.valid.injEq]
    · rename_i hcheck
      rw [hcheck]
      exact iff_of_false (fun h => by cases h) fun h => by cases h

/-- Settings that are loaded are those of some table with the overrides put over it. -/
theorem exists_check_of_load {t : FileTree} {file : Option Path} {overrides : Given} {s : Settings}
    (h : load t file overrides = .ok s) : ∃ given, check (Given.update given overrides) = .valid s := by
  rw [load_eq] at h
  cases hsource : source t file with
  | error e =>
    rw [hsource] at h
    cases h
  | ok found =>
    rw [hsource] at h
    cases htable : (found.map (readTable t)).getD (.ok []) with
    | error e =>
      simp only [Except.bind, htable] at h
      cases h
    | ok table =>
      simp only [Except.bind, htable] at h
      exact ⟨_, ofTable_eq_ok_iff.1 h⟩

/-- A layout that is given directly is the layout of the settings, whatever a file says. -/
theorem layout_of_load {t : FileTree} {file : Option Path} {overrides : Given} {s : Settings} {nested : Bool}
    (h : load t file overrides = .ok s)
    (hnested : overrides.reverse.lookup "package_structured" = some (.boolean nested)) :
    s.layout = .ofNested nested := by
  obtain ⟨given, hcheck⟩ := exists_check_of_load h
  obtain ⟨-, ⟨nested', hvalid, hlayout⟩, -⟩ := check_eq_valid_iff.1 hcheck
  -- the override is looked up first, so the table of the file is not asked
  rw [optional, Given.lookup_update, hnested] at hvalid
  obtain rfl : nested = nested' := Checked.valid.inj hvalid
  exact hlayout

/-! ## Tables as they are written -/

/-- A file holds a table of settings, as it is written there. -/
def HoldsTable (t : FileTree) (file : Path) (table : Toml.Table) : Prop :=
  ∃ content text document, t.read file = .ok content ∧ String.fromUTF8? content = some text ∧
    Toml.read t.limits.settingsLevel text = .ok document ∧ entryIn file document = .ok (.table table)

/-- The file that settings are taken from, if there is one, and its table. -/
inductive Finds (t : FileTree) (file : Option Path) : Option Path → Toml.Table → Prop
  | nothing (h : source t file = .ok none) : Finds t file none []
  | table {f : Path} {table : Toml.Table} (h : source t file = .ok (some f)) (htable : HoldsTable t f table) :
    Finds t file (some f) table

/-- How an entry is read from a file in a folder. -/
inductive ReadAs (folder : Path) : String × Toml.Value → String × Toml.Value → Prop
  | relative {o : String} (h : (Path.ofString o).isAbsolute = false) :
    ReadAs folder (outputKey, .string o) (outputKey, .string (folder.join (.ofString o)).toString)
  | same {entry : String × Toml.Value} (h : ∀ o, entry = (outputKey, .string o) → (Path.ofString o).isAbsolute = true) :
    ReadAs folder entry entry

theorem readAs_relocate (folder : Path) (entry : String × Toml.Value) :
    ReadAs folder entry (relocate folder entry) := by
  unfold relocate
  split
  · rename_i key o
    split
    · rename_i hrelative
      simp only [Bool.and_eq_true, decide_eq_true_eq, Bool.not_eq_true'] at hrelative
      obtain ⟨rfl, hrelative⟩ := hrelative
      exact .relative hrelative
    · rename_i hsame
      refine .same fun o' heq => ?_
      cases heq
      simpa using hsame
  · rename_i hother
    exact .same fun o heq => absurd heq (hother outputKey o)

/-- Reading an entry leaves its name alone. -/
theorem ReadAs.fst_eq {folder : Path} {entry read : String × Toml.Value} (h : ReadAs folder entry read) :
    read.1 = entry.1 := by
  cases h with
  | relative => rfl
  | same => rfl

theorem ReadAs.eq_of_ne {folder : Path} {entry read : String × Toml.Value} (h : ReadAs folder entry read)
    (hkey : entry.1 ≠ outputKey) : read = entry := by
  cases h with
  | relative => exact absurd rfl hkey
  | same => rfl

/-- A file that holds a table is read entry by entry. -/
theorem HoldsTable.readTable_eq {t : FileTree} {file : Path} {table : Toml.Table} (h : HoldsTable t file table) :
    readTable t file = .ok (table.map (relocate file.parent)) := by
  obtain ⟨content, text, document, hread, htext, hdocument, hentry⟩ := h
  simp only [readTable, hread, htext, hdocument, hentry]

/-- The table that is read from the file with settings. -/
def tableSeen (found : Option Path) (table : Toml.Table) : Toml.Table :=
  match found with
  | none => table
  | some f => table.map (relocate f.parent)

theorem Finds.load_eq_ofTable {t : FileTree} {file found : Option Path} {table : Toml.Table}
    (h : Finds t file found table) (overrides : Given) :
    load t file overrides = ofTable found (tableSeen found table) overrides := by
  rw [load_eq]
  cases h with
  | nothing h =>
    rw [h]
    rfl
  | table h htable =>
    rw [h]
    simp only [Except.bind, Option.map_some, Option.getD_some, htable.readTable_eq, tableSeen]

theorem keys_tableSeen (found : Option Path) (table : Toml.Table) :
    (tableSeen found table).map Prod.fst = table.map Prod.fst := by
  cases found with
  | none => rfl
  | some f =>
    rw [tableSeen, List.map_map]
    exact List.map_congr_left fun entry _ => (readAs_relocate f.parent entry).fst_eq

theorem lookup_tableSeen (f : Path) (table : Toml.Table) (key : String) :
    (tableSeen (some f) table).lookup key = (table.lookup key).map fun v => (relocate f.parent (key, v)).2 :=
  lookup_map_entries (fun name v => (relocate f.parent (name, v)).2)
    (fun name v => Prod.ext (readAs_relocate f.parent (name, v)).fst_eq rfl) table key

/-- Only the output folder is looked up in the read table with another result than in the written one. -/
theorem lookup_tableSeen_of_ne {key : String} (hkey : key ≠ outputKey) (found : Option Path) (table : Toml.Table) :
    (tableSeen found table).lookup key = table.lookup key := by
  cases found with
  | none => rfl
  | some f =>
    have hsame : ∀ v, relocate f.parent (key, v) = (key, v) :=
      fun v => (readAs_relocate f.parent (key, v)).eq_of_ne hkey
    simp only [lookup_tableSeen, hsame, Option.map_id']

/-! ## What decides -/

/-- The value that decides a setting: the override, else the entry of the table. -/
def deciding (table : Toml.Table) (overrides : List (String × Option Setting)) (key : String) : Option Setting :=
  (overrides.lookup key).join.or ((table.lookup key).map Setting.ofToml)

/-- A name is in the table, or has a value among the overrides. -/
def IsGiven (table : Toml.Table) (overrides : List (String × Option Setting)) (key : String) : Prop :=
  key ∈ table.map Prod.fst ∨ ∃ v, (key, some v) ∈ overrides

/-- A value passes the check of a setting. -/
def Suits (key : String) (v : Setting) : Prop :=
  if key = outputKey then ∃ p, v.toPath = .valid p
  else if key = "dump_file_name" then ∃ name, v.toName = .valid name
  else ∃ b, v.toBool = .valid b

theorem toPath_eq_valid_iff {v : Setting} {p : Path} : v.toPath = .valid p ↔ ∃ o, v = .text o ∧ p = .ofString o := by
  cases v with
  | text o => simp [Setting.toPath, eq_comm]
  | _ => simp [Setting.toPath, Checked.fail]

/-- Every text is the text of a path. -/
theorem suits_outputKey_iff {v : Setting} : Suits outputKey v ↔ ∃ o, v = .text o := by
  rw [Suits, if_pos rfl]
  simp only [toPath_eq_valid_iff]
  constructor
  · rintro ⟨p, o, hv, -⟩
    exact ⟨o, hv⟩
  · rintro ⟨o, hv⟩
    exact ⟨.ofString o, o, hv, rfl⟩

theorem suits_dumpFile_iff {v : Setting} : Suits "dump_file_name" v ↔ ∃ name, v.toName = .valid name := by
  rw [Suits, if_neg (by decide), if_pos rfl]

/-- All other settings are switches. -/
theorem suits_switch_iff {key : String} (hkey : key ∈ ["package_structured", "dump_mode", "include_references"])
    {v : Setting} : Suits key v ↔ ∃ b, v.toBool = .valid b := by
  have hother : ∀ key ∈ ["package_structured", "dump_mode", "include_references"],
      key ≠ outputKey ∧ key ≠ "dump_file_name" := by decide
  rw [Suits, if_neg (hother key hkey).1, if_neg (hother key hkey).2]

/-- The output folder: overrides and absolute folders are as given, a relative one is seen from its file. -/
inductive DecidesOutput (found : Option Path) (table : Toml.Table) (overrides : List (String × Option Setting)) :
    Path → Prop
  | override {o : String} (h : (overrides.lookup outputKey).join = some (.text o)) :
    DecidesOutput found table overrides (.ofString o)
  | absolute {o : String} (hopen : (overrides.lookup outputKey).join = none)
    (h : table.lookup outputKey = some (.string o)) (habsolute : (Path.ofString o).isAbsolute = true) :
    DecidesOutput found table overrides (.ofString o)
  | relative {f : Path} {o : String} (hfound : found = some f) (hopen : (overrides.lookup outputKey).join = none)
    (h : table.lookup outputKey = some (.string o)) (hrelative : (Path.ofString o).isAbsolute = false) :
    DecidesOutput found table overrides (f.parent.join (.ofString o))

/-- Every setting is the one that its deciding value gives. -/
structure Decided (found : Option Path) (table : Toml.Table) (overrides : List (String × Option Setting))
    (s : Settings) : Prop where
  output : DecidesOutput found table overrides s.output
  layout : ∃ nested, Decides (deciding table overrides "package_structured") Setting.toBool false nested ∧
    s.layout = .ofNested nested
  dump : Decides (deciding table overrides "dump_mode") Setting.toBool false s.dump
  dumpFile : Decides (deciding table overrides "dump_file_name") Setting.toName "dump.proto" s.dumpFile
  references : Decides (deciding table overrides "include_references") Setting.toBool false s.references

/-- Everything that is given, after the table has been read and the overrides have been put over it. -/
def merged (found : Option Path) (table : Toml.Table) (overrides : List (String × Option Setting)) : Given :=
  Given.update ((tableSeen found table).map fun (k, v) => (k, Setting.ofToml v)) (.ofOptions overrides)

section

variable {found : Option Path} {table : Toml.Table} {overrides : List (String × Option Setting)}

theorem lookup_merged (hnames : (overrides.map Prod.fst).Nodup) (key : String) :
    (merged found table overrides).lookup key = deciding (tableSeen found table) overrides key := by
  rw [merged, Given.lookup_update, Given.lookup_reverse_ofOptions hnames, deciding,
    lookup_map_entries (fun _ => Setting.ofToml) fun _ _ => rfl]

theorem lookup_merged_of_ne (hnames : (overrides.map Prod.fst).Nodup) {key : String} (hkey : key ≠ outputKey) :
    (merged found table overrides).lookup key = deciding table overrides key := by
  rw [lookup_merged hnames, deciding, deciding, lookup_tableSeen_of_ne hkey]

theorem onlyKnown_merged_iff :
    onlyKnown (merged found table overrides) = .valid () ↔ ∀ key, IsGiven table overrides key → key ∈ keys := by
  have hseen : ((tableSeen found table).map fun (k, v) => (k, Setting.ofToml v)).map Prod.fst = table.map Prod.fst := by
    rw [List.map_map, ← keys_tableSeen found]
    rfl
  simp only [onlyKnown_eq_valid_iff, merged, Given.mem_keys_update, hseen, Given.mem_keys_ofOptions, IsGiven]

theorem ofToml_eq_text_iff {v : Toml.Value} {o : String} : Setting.ofToml v = .text o ↔ v = .string o := by
  cases v with
  | string => simp [Setting.ofToml]
  | _ => simp [Setting.ofToml]

/-- An output folder that is read from a file is a text, absolute or seen from the file. -/
theorem toPath_relocate_iff {f p : Path} (hf : f.Normal) {v : Toml.Value} :
    (Setting.ofToml (relocate f.parent (outputKey, v)).2).toPath = .valid p ↔
      ∃ o, v = .string o ∧
        ((Path.ofString o).isAbsolute = true ∧ p = .ofString o ∨
          (Path.ofString o).isAbsolute = false ∧ p = f.parent.join (.ofString o)) := by
  simp only [toPath_eq_valid_iff, ofToml_eq_text_iff]
  have hread := readAs_relocate f.parent (outputKey, v)
  generalize relocate f.parent (outputKey, v) = read at hread ⊢
  cases hread with
  | @relative o hrelative =>
    -- the text of the joined path is read back as that path
    have hjoin : Path.ofString (f.parent.join (.ofString o)).toString = f.parent.join (.ofString o) :=
      Path.ofString_toString (hf.parent.join (Path.normal_ofString o))
    constructor
    · rintro ⟨text, htext, rfl⟩
      cases htext
      exact ⟨o, rfl, .inr ⟨hrelative, hjoin⟩⟩
    · rintro ⟨text, htext, ⟨habsolute, -⟩ | ⟨-, rfl⟩⟩
      · cases htext
        cases hrelative.symm.trans habsolute
      · cases htext
        exact ⟨_, rfl, hjoin.symm⟩
  | same habsolute =>
    constructor
    · rintro ⟨o, rfl, rfl⟩
      exact ⟨o, rfl, .inl ⟨habsolute o rfl, rfl⟩⟩
    · rintro ⟨o, rfl, ⟨-, rfl⟩ | ⟨hrelative, -⟩⟩
      · exact ⟨o, rfl, rfl⟩
      · cases hrelative.symm.trans (habsolute o rfl)

/-- The required output folder, among everything that is given, is the one that decides. -/
theorem required_output_iff {t : FileTree} {file : Option Path} {p : Path} (hfinds : Finds t file found table)
    (hnormal : ∀ f, found = some f → f.Normal) (hnames : (overrides.map Prod.fst).Nodup) :
    required outputKey Setting.toPath (merged found table overrides) = .valid p ↔
      DecidesOutput found table overrides p := by
  rw [required_eq_valid_iff, lookup_merged hnames, deciding]
  constructor
  · rintro ⟨v, hv, hpath⟩
    cases hoverride : (overrides.lookup outputKey).join with
    | some w =>
      rw [hoverride] at hv
      cases hv
      obtain ⟨o, rfl, rfl⟩ := toPath_eq_valid_iff.1 hpath
      exact .override hoverride
    | none =>
      -- the value is the file's, and without a file the table is empty
      rw [hoverride] at hv
      cases hfinds with
      | nothing h => cases hv
      | @table f _ h htable =>
        rw [Option.none_or, lookup_tableSeen, Option.map_map, Option.map_eq_some_iff] at hv
        obtain ⟨w, hw, rfl⟩ := hv
        obtain ⟨o, rfl, ⟨habsolute, rfl⟩ | ⟨hrelative, rfl⟩⟩ := (toPath_relocate_iff (hnormal f rfl)).1 hpath
        · exact .absolute hoverride hw habsolute
        · exact .relative rfl hoverride hw hrelative
  · intro hdecides
    cases hdecides with
    | @override o h => exact ⟨.text o, by rw [h]; rfl, rfl⟩
    | @absolute o hopen h habsolute =>
      cases hfinds with
      | nothing => cases h
      | @table f _ _ _ =>
        refine ⟨_, by rw [hopen, Option.none_or, lookup_tableSeen, h]; rfl, ?_⟩
        exact (toPath_relocate_iff (hnormal f rfl)).2 ⟨o, rfl, .inl ⟨habsolute, rfl⟩⟩
    | @relative f o hfound hopen h hrelative =>
      subst hfound
      refine ⟨_, by rw [hopen, Option.none_or, lookup_tableSeen, h]; rfl, ?_⟩
      exact (toPath_relocate_iff (hnormal f rfl)).2 ⟨o, rfl, .inr ⟨hrelative, rfl⟩⟩

/-- Settings are loaded exactly if all names are known, and then every value that decides has its say. -/
theorem load_eq_ok_iff {t : FileTree} {file : Option Path} {s : Settings} (hfinds : Finds t file found table)
    (hnormal : ∀ f, found = some f → f.Normal) (hnames : (overrides.map Prod.fst).Nodup) :
    load t file (.ofOptions overrides) = .ok s ↔
      (∀ key, IsGiven table overrides key → key ∈ keys) ∧ Decided found table overrides s := by
  have hcheck : load t file (.ofOptions overrides) = .ok s ↔ check (merged found table overrides) = .valid s := by
    rw [hfinds.load_eq_ofTable, ofTable_eq_ok_iff, merged]
  -- all settings but the output folder are looked up as they are written
  have hnested : "package_structured" ≠ outputKey := by decide
  have hdump : "dump_mode" ≠ outputKey := by decide
  have hdumpFile : "dump_file_name" ≠ outputKey := by decide
  have hreferences : "include_references" ≠ outputKey := by decide
  rw [hcheck, check_eq_valid_iff, required_output_iff hfinds hnormal hnames]
  simp only [optional_eq_valid_iff, onlyKnown_merged_iff, lookup_merged_of_ne hnames hnested,
    lookup_merged_of_ne hnames hdump, lookup_merged_of_ne hnames hdumpFile, lookup_merged_of_ne hnames hreferences]
  constructor
  · rintro ⟨houtput, hlayout, hdump, hdumpFile, hreferences, hknown⟩
    exact ⟨hknown, houtput, hlayout, hdump, hdumpFile, hreferences⟩
  · rintro ⟨hknown, houtput, hlayout, hdump, hdumpFile, hreferences⟩
    exact ⟨houtput, hlayout, hdump, hdumpFile, hreferences, hknown⟩

/-- There is an output folder exactly if a value decides it and suits it. -/
theorem exists_decidesOutput_iff {t : FileTree} {file : Option Path} (hfinds : Finds t file found table) :
    (∃ p, DecidesOutput found table overrides p) ↔
      ∃ v, deciding table overrides outputKey = some v ∧ Suits outputKey v := by
  simp only [suits_outputKey_iff, deciding]
  constructor
  · rintro ⟨p, hdecides⟩
    cases hdecides with
    | override h => exact ⟨_, by rw [h]; rfl, _, rfl⟩
    | absolute hopen h _ => exact ⟨_, by rw [hopen, h]; rfl, _, rfl⟩
    | relative _ hopen h _ => exact ⟨_, by rw [hopen, h]; rfl, _, rfl⟩
  · rintro ⟨_, hdeciding, o, rfl⟩
    cases hoverride : (overrides.lookup outputKey).join with
    | some w =>
      rw [hoverride] at hdeciding
      cases hdeciding
      exact ⟨_, .override hoverride⟩
    | none =>
      rw [hoverride, Option.none_or, Option.map_eq_some_iff] at hdeciding
      obtain ⟨w, hw, htext⟩ := hdeciding
      obtain rfl : w = .string o := ofToml_eq_text_iff.1 htext
      cases hfinds with
      | nothing => cases hw
      | table =>
        cases habsolute : (Path.ofString o).isAbsolute with
        | true => exact ⟨_, .absolute hoverride hw habsolute⟩
        | false => exact ⟨_, .relative rfl hoverride hw habsolute⟩

/-- Settings can be decided exactly if each of them can. -/
theorem exists_decided_iff_each :
    (∃ s, Decided found table overrides s) ↔
      (∃ p, DecidesOutput found table overrides p) ∧
      (∃ b, Decides (deciding table overrides "package_structured") Setting.toBool false b) ∧
      (∃ b, Decides (deciding table overrides "dump_mode") Setting.toBool false b) ∧
      (∃ name, Decides (deciding table overrides "dump_file_name") Setting.toName "dump.proto" name) ∧
      (∃ b, Decides (deciding table overrides "include_references") Setting.toBool false b) := by
  constructor
  · rintro ⟨s, houtput, ⟨nested, hnested, -⟩, hdump, hdumpFile, hreferences⟩
    exact ⟨⟨_, houtput⟩, ⟨_, hnested⟩, ⟨_, hdump⟩, ⟨_, hdumpFile⟩, ⟨_, hreferences⟩⟩
  · rintro ⟨⟨p, houtput⟩, ⟨nested, hnested⟩, ⟨dump, hdump⟩, ⟨name, hdumpFile⟩, ⟨references, hreferences⟩⟩
    exact ⟨⟨p, .ofNested nested, dump, name, references⟩, houtput, ⟨nested, hnested, rfl⟩, hdump, hdumpFile,
      hreferences⟩

/-- Settings can be decided exactly if the output folder has a value and all values suit their settings. -/
theorem exists_decided_iff {t : FileTree} {file : Option Path} (hfinds : Finds t file found table) :
    (∃ s, Decided found table overrides s) ↔
      (∃ v, deciding table overrides outputKey = some v) ∧
        ∀ key ∈ keys, ∀ v, deciding table overrides key = some v → Suits key v := by
  have hnested : "package_structured" ∈ ["package_structured", "dump_mode", "include_references"] := by decide
  have hdump : "dump_mode" ∈ ["package_structured", "dump_mode", "include_references"] := by decide
  have hreferences : "include_references" ∈ ["package_structured", "dump_mode", "include_references"] := by decide
  rw [exists_decided_iff_each, exists_decidesOutput_iff hfinds]
  simp only [exists_decides_iff, keys, List.forall_mem_cons, suits_dumpFile_iff, suits_switch_iff hnested,
    suits_switch_iff hdump, suits_switch_iff hreferences]
  constructor
  · rintro ⟨⟨v, hv, hsuits⟩, hnested, hdump, hdumpFile, hreferences⟩
    refine ⟨⟨v, hv⟩, ?_, hnested, hdump, hdumpFile, hreferences, by simp⟩
    -- only one value decides the output folder
    intro w hw
    cases hv.symm.trans hw
    exact hsuits
  · rintro ⟨⟨v, hv⟩, houtput, hnested, hdump, hdumpFile, hreferences, -⟩
    exact ⟨⟨v, hv, houtput v hv⟩, hnested, hdump, hdumpFile, hreferences⟩

/-- Overrides come before the file's table, and that before what settings fall back on. Settings are loaded exactly if
    there is an output folder, all names are known and all values that decide suit their settings. So a value in the
    file that is overridden may be wrong, but no name may be unknown. Reading the table changes nothing but an output
    folder that is relative to the file. The file's path is normal, as all paths are that come from a text. -/
theorem load_by_precedence {t : FileTree} {file : Option Path} (hfinds : Finds t file found table)
    (hnormal : ∀ f, found = some f → f.Normal) (hnames : (overrides.map Prod.fst).Nodup) :
    (∀ f, found = some f → ∃ read, readTable t f = .ok read ∧ List.Forall₂ (ReadAs f.parent) table read) ∧
    (∀ s, load t file (.ofOptions overrides) = .ok s ↔
      (∀ key, IsGiven table overrides key → key ∈ keys) ∧ Decided found table overrides s) ∧
    ((∃ s, load t file (.ofOptions overrides) = .ok s) ↔
      (∃ v, deciding table overrides outputKey = some v) ∧ (∀ key, IsGiven table overrides key → key ∈ keys) ∧
        ∀ key ∈ keys, ∀ v, deciding table overrides key = some v → Suits key v) ∧
    ∀ key, IsGiven table overrides key → key ∉ keys → ∃ e, load t file (.ofOptions overrides) = .error e := by
  refine ⟨?_, fun s => load_eq_ok_iff hfinds hnormal hnames, ?_, ?_⟩
  · intro f hf
    cases hfinds with
    | nothing => cases hf
    | table _ htable =>
      cases hf
      refine ⟨_, htable.readTable_eq, ?_⟩
      rw [List.forall₂_map_right_iff, List.forall₂_same]
      exact fun entry _ => readAs_relocate f.parent entry
  · simp only [load_eq_ok_iff hfinds hnormal hnames, exists_and_left, exists_decided_iff hfinds]
    tauto
  · intro key hgiven hunknown
    cases hload : load t file (.ofOptions overrides) with
    | error e => exact ⟨e, rfl⟩
    | ok s => exact absurd (((load_eq_ok_iff hfinds hnormal hnames).1 hload).1 key hgiven) hunknown

end

/-- A file with a relative output folder and a value that suits no setting. -/
def mistakenProject : FileTree where
  entries :=
    [("conf", .folder [(ownFile, .file "[protoscribe]\noutput_path = \"gen\"\ndump_mode = \"maybe\"\n".toUTF8)])]

/-- The mistaken value is overridden, and a name that is left open is not given. -/
theorem load_mistakenProject :
    load mistakenProject (some (.ofString "conf/protoscribe.toml"))
        (.ofOptions [("dump_mode", some (.boolean true)), ("dump_file_name", none)]) =
      .ok { output := .ofString "conf/gen", dump := true } := by
  have hsource : source mistakenProject (some (.ofString "conf/protoscribe.toml")) =
      .ok (some (.ofString "conf/protoscribe.toml")) := by cbv
  have hread : mistakenProject.read (.ofString "conf/protoscribe.toml") =
      .ok "[protoscribe]\noutput_path = \"gen\"\ndump_mode = \"maybe\"\n".toUTF8 := by cbv
  have hdocument : Toml.read mistakenProject.limits.settingsLevel
        "[protoscribe]\noutput_path = \"gen\"\ndump_mode = \"maybe\"\n" =
      .ok [(tableKey, .table [(outputKey, .string "gen"), ("dump_mode", .string "maybe")])] := by cbv
  have hentry : entryIn (.ofString "conf/protoscribe.toml")
      [(tableKey, .table [(outputKey, .string "gen"), ("dump_mode", .string "maybe")])] =
        .ok (.table [(outputKey, .string "gen"), ("dump_mode", .string "maybe")]) := by cbv
  have hfinds := Finds.table hsource ⟨_, _, _, hread, fromUTF8?_toUTF8 _, hdocument, hentry⟩
  have hnormal : ∀ f, some (Path.ofString "conf/protoscribe.toml") = some f → f.Normal := by
    intro f hf
    rw [← Option.some.inj hf]
    exact Path.normal_ofString _
  have hnames : (List.map Prod.fst [("dump_mode", some (Setting.boolean true)), ("dump_file_name", none)]).Nodup := by
    decide
  obtain ⟨-, hload, -⟩ := load_by_precedence hfinds hnormal hnames
  refine (hload _).2 ⟨?_, ?_⟩
  · rintro key (hkey | ⟨v, hv⟩)
    · revert key
      decide
    · simp only [List.mem_cons, Prod.mk.injEq, List.not_mem_nil, or_false, reduceCtorEq, and_false] at hv
      rw [hv.1]
      decide
  · have hgen : (Path.ofString "conf/protoscribe.toml").parent.join (.ofString "gen") = .ofString "conf/gen" := by cbv
    have hrelative : (Path.ofString "gen").isAbsolute = false := by cbv
    refine ⟨?_, ⟨false, rfl, rfl⟩, rfl, rfl, rfl⟩
    show DecidesOutput _ _ _ (.ofString "conf/gen")
    rw [← hgen]
    exact .relative rfl (by cbv) (by cbv) hrelative

end Settings

end ProtoEmit
