/-
  Namespaces that share a file.

  Placing stops at the first namespace whose file is taken, and it names the one namespace before it that has this
  file. As long as no name holds a slash, either layout can be read back to the package, so both of them stop at the
  first package that comes twice.
-/

import ProtoEmit.Proofs.DottedNames

namespace ProtoEmit

/-! ## The first clash in a list -/

/-- The key at `j` is the first that stands at an earlier place as well, and `i` is the one such place. -/
structure IsFirstClash {α : Type} (keys : List α) (i j : Nat) : Prop where
  lt : i < j
  within : j < keys.length
  same : keys[i]? = keys[j]?
  only : ∀ k < j, keys[k]? = keys[j]? → k = i
  apart : (keys.take j).Nodup

namespace IsFirstClash

variable {α : Type} {keys : List α} {i j i' j' : Nat}

/-- No key before the second place of a clash stands twice. -/
theorem ne_of_lt (h : IsFirstClash keys i j) {k l : Nat} (hkl : k < l) (hlj : l < j) : keys[k]? ≠ keys[l]? := by
  have hlength : l < (keys.take j).length := by
    rw [List.length_take]
    exact lt_min hlj (hlj.trans h.within)
  have hne := List.nodup_iff_getElem?_ne_getElem?.1 h.apart k l hkl hlength
  rwa [List.getElem?_take_of_lt (hkl.trans hlj), List.getElem?_take_of_lt hlj] at hne

/-- There is one first clash. -/
theorem unique (h : IsFirstClash keys i j) (h' : IsFirstClash keys i' j') : i = i' ∧ j = j' := by
  obtain hlt | rfl | hlt := Nat.lt_trichotomy j j'
  · exact absurd h.same (h'.ne_of_lt h.lt hlt)
  · exact ⟨h'.only i h.lt h.same, rfl⟩
  · exact absurd h'.same (h.ne_of_lt h'.lt hlt)

theorem not_nodup (h : IsFirstClash keys i j) : ¬ keys.Nodup :=
  fun hnodup => List.nodup_iff_getElem?_ne_getElem?.1 hnodup i j h.lt h.within h.same

/-- After keys that are apart, one of them once more is the first clash. -/
theorem of_append (hnodup : keys.Nodup) {key : α} (hkey : keys[i]? = some key) (more : List α) :
    IsFirstClash (keys ++ key :: more) i keys.length := by
  have hi : i < keys.length := (List.getElem?_eq_some_iff.1 hkey).1
  have hlast : (keys ++ key :: more)[keys.length]? = some key := by simp
  refine ⟨hi, by simp, ?_, ?_, by simpa using hnodup⟩
  · rw [hlast, List.getElem?_append_left hi, hkey]
  · intro k hk hsame
    rw [hlast, List.getElem?_append_left hk] at hsame
    by_contra hne
    -- the key would stand twice among the keys that are apart
    have hne' : keys[k]? ≠ keys[i]? := by
      rcases Nat.lt_or_gt_of_ne hne with hlt | hlt
      · exact List.nodup_iff_getElem?_ne_getElem?.1 hnodup k i hlt hi
      · exact (List.nodup_iff_getElem?_ne_getElem?.1 hnodup i k hlt hk).symm
    exact hne' (hsame.trans hkey.symm)

end IsFirstClash

section Keys

variable {α β γ : Type} {names : List α} {f : α → β} {g : α → γ}

/-- Two ways to give names keys that tell the same names apart find the same keys equal. -/
theorem getElem?_map_eq_iff (h : ∀ a ∈ names, ∀ b ∈ names, f a = f b ↔ g a = g b) (k l : Nat) :
    (names.map f)[k]? = (names.map f)[l]? ↔ (names.map g)[k]? = (names.map g)[l]? := by
  rw [List.getElem?_map, List.getElem?_map, List.getElem?_map, List.getElem?_map]
  cases hk : names[k]? with
  | none => cases names[l]? <;> simp
  | some a =>
    cases hl : names[l]? with
    | none => simp
    | some b => simpa using h a (List.mem_of_getElem? hk) b (List.mem_of_getElem? hl)

theorem nodup_map_iff_nodup_map (h : ∀ a ∈ names, ∀ b ∈ names, f a = f b ↔ g a = g b) :
    (names.map f).Nodup ↔ (names.map g).Nodup := by
  simp only [List.nodup_iff_getElem?_ne_getElem?, List.length_map, Ne, getElem?_map_eq_iff h]

/-- Such keys clash first at the same places. -/
theorem IsFirstClash.of_map (h : ∀ a ∈ names, ∀ b ∈ names, f a = f b ↔ g a = g b) {i j : Nat}
    (hclash : IsFirstClash (names.map f) i j) : IsFirstClash (names.map g) i j := by
  have htake : ∀ a ∈ names.take j, ∀ b ∈ names.take j, f a = f b ↔ g a = g b := fun a ha b hb =>
    h a (List.mem_of_mem_take ha) b (List.mem_of_mem_take hb)
  refine ⟨hclash.lt, by simpa using hclash.within, (getElem?_map_eq_iff h i j).1 hclash.same, fun k hk hsame => ?_, ?_⟩
  · exact hclash.only k hk ((getElem?_map_eq_iff h k j).2 hsame)
  · have hapart := hclash.apart
    rw [← List.map_take] at hapart ⊢
    exact (nodup_map_iff_nodup_map htake).1 hapart

end Keys

namespace Layout

/-! ## Where placing stops -/

/-- Two names at the places of a first clash of files, as a collision reports them. -/
def ClashesAt (layout : Layout) (names : List String) (c : Collision) (i j : Nat) : Prop :=
  IsFirstClash (names.map layout.file) i j ∧ names[i]? = some c.first ∧ names[j]? = some c.second ∧
    layout.file c.first = c.file ∧ layout.file c.second = c.file

theorem file_not_mem_of_find? {layout : Layout} {placed : List String} {name : String}
    (h : (placed.map fun name => (name, layout.file name)).find? (fun p => p.2 == layout.file name) = none) :
    layout.file name ∉ placed.map layout.file := by
  intro hmem
  obtain ⟨other, hother, heq⟩ := List.mem_map.1 hmem
  exact List.find?_eq_none.1 h _ (List.mem_map_of_mem hother) (by simp [heq])

/-- After names that are placed, placing fails at the first of the other names whose file is taken. -/
theorem exists_clashesAt_of_placeFrom (layout : Layout) {placed rest : List String} {c : Collision}
    (hplaced : (placed.map layout.file).Nodup)
    (h : layout.placeFrom (placed.map fun name => (name, layout.file name)) rest = .error c) :
    ∃ i j, layout.ClashesAt (placed ++ rest) c i j := by
  -- on the names that are left; the files of those before them stay apart
  induction rest generalizing placed with
  | nil => cases h
  | cons name rest ih =>
    rw [placeFrom] at h
    cases hfind : (placed.map fun name => (name, layout.file name)).find? fun p => p.2 == layout.file name with
    | some owner =>
      rw [hfind] at h
      obtain rfl : (⟨layout.file name, owner.1, name⟩ : Collision) = c := Except.error.inj h
      obtain ⟨first, hfirst, rfl⟩ := List.mem_map.1 (List.mem_of_find?_eq_some hfind)
      have hsame : layout.file first = layout.file name := by simpa using List.find?_some hfind
      obtain ⟨i, hi⟩ := List.mem_iff_getElem?.1 hfirst
      have hlt : i < placed.length := (List.getElem?_eq_some_iff.1 hi).1
      have hkey : (placed.map layout.file)[i]? = some (layout.file name) := by simp [hi, hsame]
      have hclash := IsFirstClash.of_append hplaced hkey (rest.map layout.file)
      rw [List.length_map, ← List.map_cons, ← List.map_append] at hclash
      exact ⟨i, placed.length, hclash, by rw [List.getElem?_append_left hlt, hi], by simp, hsame, rfl⟩
    | none =>
      rw [hfind] at h
      have hplaced' : ((placed ++ [name]).map layout.file).Nodup := by
        rw [List.map_append, List.nodup_append_comm]
        exact List.nodup_cons.2 ⟨file_not_mem_of_find? hfind, hplaced⟩
      rw [List.append_cons]
      refine ih hplaced' ?_
      rw [List.map_append]
      exact h

/-- Placing fails with the first clash of files, and only if there is one. -/
theorem place_eq_error_iff (layout : Layout) (names : List String) (c : Collision) :
    layout.place names = .error c ↔ ∃ i j, layout.ClashesAt names c i j := by
  have hfound : ∀ c, layout.place names = .error c → ∃ i j, layout.ClashesAt names c i j := by
    intro c h
    have hnone : (([] : List String).map layout.file).Nodup := List.nodup_nil
    exact layout.exists_clashesAt_of_placeFrom hnone h
  refine ⟨hfound c, ?_⟩
  rintro ⟨i, j, hclash, hfirst, hsecond, hfile, -⟩
  cases hplace : layout.place names with
  | ok files => exact absurd ((place_eq_ok_iff layout names files).1 hplace).2 hclash.not_nodup
  | error c' =>
    -- the clash that is reported is the one that was given
    obtain ⟨i', j', hclash', hfirst', hsecond', hfile', -⟩ := hfound c' hplace
    obtain ⟨rfl, rfl⟩ := hclash.unique hclash'
    have heq : c'.first = c.first := Option.some.inj (hfirst'.symm.trans hfirst)
    have heq' : c'.second = c.second := Option.some.inj (hsecond'.symm.trans hsecond)
    obtain ⟨file, first, second⟩ := c
    obtain ⟨file', first', second'⟩ := c'
    simp only at heq heq' hfile hfile'
    subst heq heq' hfile hfile'
    rfl

/-- The names at the places of the first clash are the ones that are reported. -/
theorem place_eq_error_of_clash {layout : Layout} {names : List String} {i j : Nat} {first second : String}
    (hclash : IsFirstClash (names.map layout.file) i j) (hfirst : names[i]? = some first)
    (hsecond : names[j]? = some second) : layout.place names = .error ⟨layout.file second, first, second⟩ := by
  have hsame : layout.file first = layout.file second := by
    have hkeys := hclash.same
    rw [List.getElem?_map, List.getElem?_map, hfirst, hsecond] at hkeys
    exact Option.some.inj hkeys
  exact (layout.place_eq_error_iff names _).2 ⟨i, j, hclash, hfirst, hsecond, hsame, rfl⟩

theorem exists_place_ok_iff (layout : Layout) (names : List String) :
    (∃ files, layout.place names = .ok files) ↔ (names.map layout.file).Nodup := by
  simp only [place_eq_ok_iff, exists_and_right, exists_eq, true_and]

theorem exists_place_error_iff (layout : Layout) (names : List String) :
    (∃ c, layout.place names = .error c) ↔ ¬ (names.map layout.file).Nodup := by
  rw [← exists_place_ok_iff]
  cases layout.place names with
  | ok files => simp
  | error c => simp

/-! ## Two tables -/

/-- Gives a key its value in a table, in the place that the key has already. -/
def putEntry {κ ν : Type} [DecidableEq κ] (key : κ) (value : ν) : List (κ × ν) → List (κ × ν)
  | [] => [(key, value)]
  | (k, v) :: rest => if k = key then (k, value) :: rest else (k, v) :: putEntry key value rest

/-- A table of the owners of files beside the table of files. -/
structure Tables where
  owners : List (Path × String) := []
  files : List (String × Path) := []

/-- Enters a name into both tables, unless its file has an owner. -/
def enter (layout : Layout) (tables : Tables) (name : String) : Except Collision Tables :=
  match tables.owners.lookup (layout.file name) with
  | some owner => .error ⟨layout.file name, owner, name⟩
  | none => .ok ⟨putEntry (layout.file name) name tables.owners, putEntry name (layout.file name) tables.files⟩

/-- Places namespaces by keeping two tables, of which each could replace an entry. -/
def placeInTables (layout : Layout) (names : List String) : Except Collision (List (String × Path)) :=
  (names.foldlM layout.enter {}).map Tables.files

theorem putEntry_of_not_mem {κ ν : Type} [DecidableEq κ] {key : κ} {table : List (κ × ν)} (h : key ∉ table.map (·.1))
    (value : ν) : putEntry key value table = table ++ [(key, value)] := by
  induction table with
  | nil => rfl
  | cons entry table ih =>
    obtain ⟨hne, hrest⟩ := not_or.1 (mt List.mem_cons.2 h)
    rw [putEntry, if_neg (Ne.symm hne), ih hrest, List.cons_append]

/-- The tables in which the given names are entered, one the inverse of the other. -/
def tablesOf (layout : Layout) (placed : List String) : Tables :=
  ⟨placed.map fun name => (layout.file name, name), placed.map fun name => (name, layout.file name)⟩

/-- The owner of a file in the one table is the name that has it in the other. -/
theorem lookup_owners_tablesOf (layout : Layout) (placed : List String) (file : Path) :
    (layout.tablesOf placed).owners.lookup file =
      ((layout.tablesOf placed).files.find? fun p => p.2 == file).map (·.1) := by
  induction placed with
  | nil => rfl
  | cons name placed ih =>
    simp only [tablesOf, List.map_cons, List.lookup_cons, List.find?_cons] at ih ⊢
    by_cases h : layout.file name = file
    · simp [h]
    · rw [beq_eq_false_iff_ne.2 h, beq_eq_false_iff_ne.2 (Ne.symm h)]
      exact ih

/-- A name whose file has no owner is new in both tables, so entering it replaces nothing. -/
theorem enter_tablesOf_of_free (layout : Layout) {placed : List String} {name : String}
    (h : layout.file name ∉ placed.map layout.file) :
    layout.enter (layout.tablesOf placed) name = .ok (layout.tablesOf (placed ++ [name])) := by
  have hfile : layout.file name ∉ (layout.tablesOf placed).owners.map (·.1) := by
    simpa [tablesOf] using h
  have hname : name ∉ (layout.tablesOf placed).files.map (·.1) := by
    intro hmem
    have hplaced : name ∈ placed := by simpa [tablesOf] using hmem
    exact h (List.mem_map_of_mem hplaced)
  have hlookup : (layout.tablesOf placed).owners.lookup (layout.file name) = none := by
    rw [List.lookup_eq_none_iff]
    intro entry hentry
    rw [bne_iff_ne]
    rintro heq
    exact hfile (List.mem_map.2 ⟨entry, hentry, heq.symm⟩)
  rw [enter, hlookup, putEntry_of_not_mem hfile, putEntry_of_not_mem hname]
  simp [tablesOf]

theorem map_foldlM_enter (layout : Layout) (placed rest : List String) :
    (rest.foldlM layout.enter (layout.tablesOf placed)).map Tables.files =
      layout.placeFrom (layout.tablesOf placed).files rest := by
  -- between two names the tables are those of the names before, whatever these are
  induction rest generalizing placed with
  | nil => rfl
  | cons name rest ih =>
    rw [List.foldlM_cons, placeFrom]
    cases hfind : (layout.tablesOf placed).files.find? fun p => p.2 == layout.file name with
    | some owner =>
      have hlookup := layout.lookup_owners_tablesOf placed (layout.file name)
      rw [hfind] at hlookup
      rw [enter, hlookup]
      rfl
    | none =>
      have hentered : (layout.tablesOf (placed ++ [name])).files =
          (layout.tablesOf placed).files ++ [(name, layout.file name)] := by
        simp [tablesOf]
      rw [layout.enter_tablesOf_of_free (file_not_mem_of_find? hfind), ← hentered, ← ih]
      rfl

/-- The two tables come to what one list comes to. -/
theorem placeInTables_eq_place (layout : Layout) (names : List String) :
    layout.placeInTables names = layout.place names :=
  layout.map_foldlM_enter [] names

/-- Placing gives every namespace a file of its own, in order, or it fails at the first namespace whose file is that of
    an earlier one. A name that comes twice always fails. Keeping two tables, by name and by file, replaces no entry of
    either. -/
theorem placed_apart_or_first_clash (layout : Layout) (names : List String) :
    ((∃ files, layout.place names = .ok files) ↔ (names.map layout.file).Nodup) ∧
    (∀ files, layout.place names = .ok files →
      files.map (·.1) = names ∧ names.Nodup ∧ (∀ name ∈ names, files.lookup name = some (layout.file name)) ∧
        ∀ name ∈ names, ∀ other ∈ names, name ≠ other → files.lookup name ≠ files.lookup other) ∧
    (∀ c, layout.place names = .error c ↔
      ∃ i j, IsFirstClash (names.map layout.file) i j ∧ names[i]? = some c.first ∧ names[j]? = some c.second ∧
        layout.file c.first = c.file ∧ layout.file c.second = c.file) ∧
    (¬ names.Nodup → ∃ c, layout.place names = .error c) ∧
    layout.placeInTables names = layout.place names := by
  refine ⟨layout.exists_place_ok_iff names, fun files hfiles => ?_, layout.place_eq_error_iff names, fun htwice => ?_,
    layout.placeInTables_eq_place names⟩
  · obtain ⟨rfl, hnodup⟩ := (layout.place_eq_ok_iff names files).1 hfiles
    have hlookup : ∀ name ∈ names,
        (names.map fun name => (name, layout.file name)).lookup name = some (layout.file name) :=
      fun name hname => List.lookup_graph _ hname
    refine ⟨by simp [Function.comp_def], hnodup.of_map _, hlookup, fun name hname other hother hne => ?_⟩
    rw [hlookup name hname, hlookup other hother]
    intro hsame
    exact hne (List.inj_on_of_nodup_map hnodup hname hother (Option.some.inj hsame))
  · exact (layout.exists_place_error_iff names).2 fun hnodup => htwice (hnodup.of_map _)

/-! ## Both layouts -/

/-- With its ending, a text without slashes is one component. -/
theorem ofString_ending_of_no_slash {text : String} (h : '/' ∉ text.toList) :
    Path.ofString (text ++ ending) = ⟨.here, [text ++ ending]⟩ := by
  have hending : '/' ∉ ending.toList := by decide
  refine Path.ofString_of_isComponent ?_ (isComponent_ending text)
  rw [String.toList_append, List.mem_append, not_or]
  exact ⟨h, hending⟩

/-- Without slashes, the flat file of a namespace is its package with the ending. -/
theorem flat_file_of_no_slash {name : String} (h : '/' ∉ name.toList) :
    flat.file name = ⟨.here, [Package.name name ++ ending]⟩ :=
  ofString_ending_of_no_slash (Package.slash_not_mem_name h)

/-- The folders of a package are components, for they are parts of it. -/
theorem isComponent_of_mem_folders {name stem folder : String} {folders : List String}
    (hsplit : Text.split '.' (Package.name name) = folders ++ [stem]) (hfolder : folder ∈ folders) :
    Path.isComponent folder = true := by
  have hmem : folder ∈ Text.split '.' (Package.name name) := hsplit ▸ List.mem_append_left _ hfolder
  -- where there is a folder the package has parts, for the empty package has one piece only
  have hparts : Package.parts name ≠ [] := by
    intro hnil
    rw [Package.split_name_of_parts_eq_nil hnil] at hsplit
    have hlength := congrArg List.length hsplit
    have hpos : 0 < folders.length := List.length_pos_of_mem hfolder
    simp only [List.length_append, List.length_singleton] at hlength
    omega
  rw [Package.split_name hparts] at hmem
  obtain ⟨hne, hdot⟩ := Package.mem_parts hmem
  rw [Path.isComponent, Bool.and_eq_true, bne_iff_ne, bne_iff_ne]
  refine ⟨hne, ?_⟩
  rintro rfl
  exact hdot (List.mem_singleton_self '.')

/-- Joined one after the other, single components are the components of the whole. -/
theorem joinAll_components {parts : List String} (h : ∀ part ∈ parts, Path.ofString part = ⟨.here, [part]⟩) :
    Path.joinAll (parts.map Path.ofString) = ⟨.here, parts⟩ := by
  -- none of the joined paths is absolute, so each adds its one component
  have hrelative : ∀ q ∈ parts.map Path.ofString, q.isAbsolute = false := by
    intro q hq
    obtain ⟨part, hmem, rfl⟩ := List.mem_map.1 hq
    rw [h part hmem]
    rfl
  have hparts : (parts.map Path.ofString).flatMap (·.parts) = parts := by
    rw [List.flatMap_map, List.flatMap_congr fun part hmem => by rw [h part hmem]]
    simp
  rw [Path.joinAll, Path.foldl_join_of_relative hrelative, hparts]
  rfl

/-- Without slashes, the nested file of a namespace has the parts of its package as components, the last one with the
    ending. -/
theorem exists_nested_file_of_no_slash {name : String} (h : '/' ∉ name.toList) :
    ∃ folders stem, Text.split '.' (Package.name name) = folders ++ [stem] ∧
      nested.file name = ⟨.here, folders ++ [stem ++ ending]⟩ := by
  obtain ⟨folders, stem, hsplit, hfile⟩ := exists_fileOfPackage_nested (Package.name name)
  have hslash : ∀ part ∈ folders ++ [stem], '/' ∉ part.toList := fun part hpart hmem =>
    Package.slash_not_mem_name h ((Text.infix_of_mem_split (hsplit ▸ hpart)).subset hmem)
  have hcomponents : ∀ part ∈ folders ++ [stem ++ ending], Path.ofString part = ⟨.here, [part]⟩ := by
    intro part hpart
    rcases List.mem_append.1 hpart with hfolder | hlast
    · exact Path.ofString_of_isComponent (hslash part (List.mem_append_left _ hfolder))
        (isComponent_of_mem_folders hsplit hfolder)
    · rw [List.mem_singleton.1 hlast]
      exact ofString_ending_of_no_slash (hslash stem (List.mem_append_right _ (List.mem_singleton_self stem)))
  refine ⟨folders, stem, hsplit, ?_⟩
  rw [file, hfile, ← joinAll_components hcomponents, List.map_append, List.map_singleton]

/-- Without slashes, two namespaces share a file exactly if they share a package. -/
theorem file_eq_iff_of_no_slash (layout : Layout) {name other : String} (h : '/' ∉ name.toList)
    (h' : '/' ∉ other.toList) : layout.file name = layout.file other ↔ Package.name name = Package.name other := by
  refine ⟨fun heq => ?_, fun heq => by rw [file, file, heq]⟩
  cases layout with
  | flat =>
    rw [flat_file_of_no_slash h, flat_file_of_no_slash h'] at heq
    simpa [String.append_left_inj] using heq
  | nested =>
    obtain ⟨folders, stem, hsplit, hfile⟩ := exists_nested_file_of_no_slash h
    obtain ⟨folders', stem', hsplit', hfile'⟩ := exists_nested_file_of_no_slash h'
    rw [hfile, hfile', Path.mk.injEq] at heq
    -- the ending is on the last component only, so the components before it and the stem can be read off
    obtain ⟨hfolders, hstem⟩ := List.append_inj' heq.2 rfl
    have hstem' : stem = stem' := (String.append_left_inj ending).1 (List.singleton_inj.1 hstem)
    have hparts : Text.split '.' (Package.name name) = Text.split '.' (Package.name other) := by
      rw [hsplit, hsplit', hfolders, hstem']
    rw [← Text.joinDots_split (Package.name name), hparts, Text.joinDots_split]

/-- Without slashes, the layout makes no difference to a package of one part or none, and to no other. -/
theorem flat_file_eq_nested_file_iff {name : String} (h : '/' ∉ name.toList) :
    flat.file name = nested.file name ↔ (Package.parts name).length ≤ 1 := by
  obtain ⟨folders, stem, hsplit, hfile⟩ := exists_nested_file_of_no_slash h
  have hfolders : (Package.parts name).length ≤ 1 ↔ folders = [] := by
    have hlength : (Text.split '.' (Package.name name)).length = folders.length + 1 := by simp [hsplit]
    by_cases hparts : Package.parts name = []
    · rw [Package.split_name_of_parts_eq_nil hparts, List.length_singleton] at hlength
      have hnil : folders = [] := List.length_eq_zero_iff.1 (by omega)
      simp [hparts, hnil]
    · rw [Package.split_name hparts] at hlength
      rw [hlength, ← List.length_eq_zero_iff]
      omega
  rw [flat_file_of_no_slash h, hfile, hfolders, Path.mk.injEq]
  constructor
  · rintro ⟨-, hparts⟩
    have hlength := congrArg List.length hparts
    simp only [List.length_append, List.length_singleton] at hlength
    exact List.length_eq_zero_iff.1 (by omega)
  · rintro rfl
    -- one piece is the whole package
    have hpackage : Package.name name = stem := by
      rw [← Text.joinDots_split (Package.name name), hsplit]
      rfl
    rw [hpackage]
    exact ⟨rfl, rfl⟩

section Packages

variable {names : List String}

theorem file_eq_iff_of_mem (h : ∀ name ∈ names, '/' ∉ name.toList) (layout : Layout) :
    ∀ a ∈ names, ∀ b ∈ names, layout.file a = layout.file b ↔ Package.name a = Package.name b :=
  fun a ha b hb => layout.file_eq_iff_of_no_slash (h a ha) (h b hb)

theorem nodup_files_iff (h : ∀ name ∈ names, '/' ∉ name.toList) (layout : Layout) :
    (names.map layout.file).Nodup ↔ (names.map Package.name).Nodup :=
  nodup_map_iff_nodup_map (file_eq_iff_of_mem h layout)

/-- Where a package comes twice, every layout reports the same two names. -/
theorem exists_common_clash (h : ∀ name ∈ names, '/' ∉ name.toList) (htwice : ¬ (names.map Package.name).Nodup) :
    ∃ i j first second, IsFirstClash (names.map Package.name) i j ∧
      names[i]? = some first ∧ names[j]? = some second ∧
      ∀ layout : Layout, layout.place names = .error ⟨layout.file second, first, second⟩ := by
  obtain ⟨c, hc⟩ := (flat.exists_place_error_iff names).2 (mt (nodup_files_iff h flat).1 htwice)
  obtain ⟨i, j, hflat, hfirst, hsecond, -, -⟩ := (flat.place_eq_error_iff names c).1 hc
  have hpackage : IsFirstClash (names.map Package.name) i j := hflat.of_map (file_eq_iff_of_mem h flat)
  refine ⟨i, j, c.first, c.second, hpackage, hfirst, hsecond, fun layout => ?_⟩
  -- a clash of packages is one of files in any layout
  have hfiles : IsFirstClash (names.map layout.file) i j :=
    hpackage.of_map fun a ha b hb => (file_eq_iff_of_mem h layout a ha b hb).symm
  exact place_eq_error_of_clash hfiles hfirst hsecond

end Packages

/-- Namespaces without slashes can be placed in either layout exactly if their packages are pairwise different.
    Otherwise both layouts report the same two: the first whose package comes a second time, and the one before it
    that has this package. -/
theorem layouts_agree_on_collisions {names : List String} (h : ∀ name ∈ names, '/' ∉ name.toList) :
    ((∃ files, flat.place names = .ok files) ↔ (names.map Package.name).Nodup) ∧
    ((∃ files, nested.place names = .ok files) ↔ (names.map Package.name).Nodup) ∧
    (¬ (names.map Package.name).Nodup →
      ∃ i j first second, IsFirstClash (names.map Package.name) i j ∧
        names[i]? = some first ∧ names[j]? = some second ∧
        flat.place names = .error ⟨flat.file second, first, second⟩ ∧
        nested.place names = .error ⟨nested.file second, first, second⟩) := by
  refine ⟨?_, ?_, fun htwice => ?_⟩
  · rw [exists_place_ok_iff, nodup_files_iff h]
  · rw [exists_place_ok_iff, nodup_files_iff h]
  · obtain ⟨i, j, first, second, hclash, hfirst, hsecond, hreport⟩ := exists_common_clash h htwice
    exact ⟨i, j, first, second, hclash, hfirst, hsecond, hreport flat, hreport nested⟩

section

-- Lower-casing a package name runs through long tables.
set_option maxRecDepth 2000

/-- Names whose packages come twice only in lower case and without empty parts; one package is empty. -/
def respelledNames : List String := ["Game.Core", "..", "Σ.Proto", "game..CORE", "σ.proto"]

theorem respelledNames_layouts_agree :
    (∀ name ∈ respelledNames, '/' ∉ name.toList) ∧ ¬ (respelledNames.map Package.name).Nodup ∧
      ∃ i j first second, IsFirstClash (respelledNames.map Package.name) i j ∧
        respelledNames[i]? = some first ∧ respelledNames[j]? = some second ∧
        flat.place respelledNames = .error ⟨flat.file second, first, second⟩ ∧
        nested.place respelledNames = .error ⟨nested.file second, first, second⟩ := by
  have hslash : ∀ name ∈ respelledNames, '/' ∉ name.toList := by
    simp [respelledNames]
  have hpackages : respelledNames.map Package.name = ["game.core", "", "σ.proto", "game.core", "σ.proto"] := by
    rfl
  have htwice : ¬ (respelledNames.map Package.name).Nodup := by
    rw [hpackages]
    decide
  exact ⟨hslash, htwice, (layouts_agree_on_collisions hslash).2.2 htwice⟩

end

end Layout

end ProtoEmit
