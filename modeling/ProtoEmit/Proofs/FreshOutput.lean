/-
  Running into a new or empty output folder.

  No file of a run lies on the way to another, since only the last component of each has a dot. So a run into a folder
  that is new or empty finds every way free, and it is refused at most where more folders are missing around one
  another than are asked for at once. A package that is deep enough shows that this happens.
-/

import ProtoEmit.Proofs.DottedNames
import ProtoEmit.Proofs.FreeWays
import ProtoEmit.Proofs.RunChanges
import ProtoEmit.Proofs.TextRoundTrip

namespace ProtoEmit

/-! ## Output folders -/

namespace FileTree

variable {t : FileTree}

/-- A path leads to an empty folder, or to nothing in a folder that is there. -/
def IsFresh (t : FileTree) (p : Path) : Prop :=
  t.find? p = some (.folder []) ∨ t.find? p = none ∧ t.isFolder p.parent = true

theorem find?_eq_some_iff {p : Path} {e : Entry} : t.find? p = some e ↔ ∃ q, t.locate p = .ok q ∧ t.get? q = some e := by
  rw [find?]
  cases t.locate p with
  | error why => simp
  | ok q => simp

/-- Where nothing stands below a folder, every way is free. -/
theorem free_of_none {base : Place} {names : List String} (hfolder : t.kind? base = some .folder) (hne : names ≠ [])
    (hnone : ∀ r, r <+: names → r ≠ [] → t.kind? (base ++ r) = none) : t.Free base names := by
  constructor
  · intro r hr _ content
    by_cases hnil : r = []
    · rw [hnil, List.append_nil, hfolder]
      simp
    · rw [hnone r hr hnil]
      simp
  · rw [hnone names List.prefix_rfl hne]
    simp

theorem exists_of_isFolder {p : Path} (h : t.isFolder p = true) :
    ∃ q, t.locate p = .ok q ∧ t.kind? q = some .folder := by
  rw [isFolder] at h
  split at h
  · rename_i es hfind
    obtain ⟨q, hlocate, hget⟩ := find?_eq_some_iff.1 hfind
    refine ⟨q, hlocate, ?_⟩
    rw [kind?, hget]
    rfl
  · cases h

/-- A path to nothing in a folder that is there has a last name, which leads down from that folder. -/
theorem exists_last_of_new {p : Path} (hnone : t.find? p = none) (haround : t.isFolder p.parent = true) (hfits : p.Fits)
    (hlong : ∀ name ∈ p.parts, name.utf8ByteSize ≤ maxNameBytes) :
    ∃ base last, p = p.parent.extend [last] ∧ Path.AreDown [last] ∧ t.locate p.parent = .ok base ∧
      t.kind? base = some .folder ∧ t.kind? (base ++ [last]) = none := by
  obtain ⟨base, hlocate, hfolder⟩ := exists_of_isFolder haround
  have hnot : ∀ q, t.locate p = .ok q → t.kind? q = none := by
    intro q hq
    rw [find?, hq] at hnone
    exact kind?_eq_none_iff.2 hnone
  have hne : p.parts ≠ [] := by
    intro hnil
    have hself : p.parent = p := by
      obtain ⟨root, parts⟩ := p
      obtain rfl : parts = [] := hnil
      rfl
    rw [hself] at hlocate
    rw [hnot base hlocate] at hfolder
    cases hfolder
  obtain ⟨outer, last, hparts⟩ : ∃ outer last, p.parts = outer ++ [last] :=
    ⟨_, _, (List.dropLast_append_getLast hne).symm⟩
  have hextend : p = p.parent.extend [last] := by
    obtain ⟨root, parts⟩ := p
    obtain rfl : parts = outer ++ [last] := hparts
    simp [Path.parent, Path.extend]
  have hlocate' : t.locate p = t.follow base [last] := by
    have hfits' : (p.parent.extend [last]).Fits := hextend ▸ hfits
    rw [hextend]
    exact locate_extend hlocate hfits'
  have hup : last ≠ ".." := by
    -- a folder is there when one leads back from a folder
    rintro rfl
    have hback : t.follow base [".."] = .ok base.dropLast := follow_cons_eq_ok_iff.2 ⟨hfolder, .inl ⟨rfl, rfl⟩⟩
    have hthere := hnot _ (hlocate'.trans hback)
    rw [kind?_dropLast hfolder] at hthere
    cases hthere
  have hdown : Path.AreDown ([] ++ [last]) := by
    intro name hname
    rw [List.mem_singleton.1 hname]
    exact ⟨hup, hlong last (by rw [hparts]; exact List.mem_append_right _ (List.mem_singleton_self last))⟩
  have hfollow : t.follow base [last] = .ok (base ++ [last]) :=
    follow_of_folder hdown (by rw [List.append_nil]; exact hfolder)
  exact ⟨base, last, hextend, hdown, hlocate, hfolder, hnot _ (hlocate'.trans hfollow)⟩

/-- Below a fresh folder every way is free, seen from the folder itself or from the one around it. -/
theorem IsFresh.exists_base {output : Path} (h : t.IsFresh output) (hfits : output.Fits)
    (hlong : ∀ name ∈ output.parts, name.utf8ByteSize ≤ maxNameBytes) :
    ∃ folder base extra, output = Path.extend folder extra ∧ extra.length ≤ 1 ∧ Path.AreDown extra ∧
      t.locate folder = .ok base ∧ t.kind? base = some .folder ∧
      ∀ names, names ≠ [] → t.Free base (extra ++ names) := by
  rcases h with hempty | ⟨hnone, haround⟩
  · obtain ⟨base, hlocate, hget⟩ := find?_eq_some_iff.1 hempty
    have hfolder : t.kind? base = some .folder := by
      rw [kind?, hget]
      rfl
    -- nothing stands below an empty folder
    have hbelow : ∀ r, r ≠ [] → t.kind? (base ++ r) = none := by
      intro r hr
      have happend : t.get? (base ++ r) = (t.get? base).bind (Entry.get? · r) := Entries.get?_append _ base r
      rw [kind?_eq_none_iff, happend, hget]
      exact Entry.isBare_folder r hr
    refine ⟨output, base, [], by simp [Path.extend], Nat.zero_le 1, fun _ hname => absurd hname List.not_mem_nil, hlocate,
      hfolder, fun names hne => free_of_none hfolder hne fun r _ hr => hbelow r hr⟩
  · obtain ⟨base, last, hextend, hdown, hlocate, hfolder, hlast⟩ := exists_last_of_new hnone haround hfits hlong
    refine ⟨output.parent, base, [last], hextend, Nat.le_refl 1, hdown, hlocate, hfolder, fun names _ =>
      free_of_none hfolder (List.cons_ne_nil last names) fun r hr hr_ne => ?_⟩
    obtain ⟨first, rest, rfl⟩ := List.exists_cons_of_ne_nil hr_ne
    obtain ⟨rfl, -⟩ := List.cons_prefix_cons.1 hr
    exact kind?_cons_of_none hlast rest

end FileTree

/-! ## Runs -/

/-- One path lies on the way to another. -/
def Path.IsAncestor (p q : Path) : Prop :=
  ∃ names, names ≠ [] ∧ q = p.extend names

namespace Program

/-- A run for each namespace into a new or empty folder, of a program within what is printed, with names and paths that
    are not too long. -/
structure FreshRun (p : Program) (s : Settings) (t : FileTree) : Prop where
  dump : s.dump = false
  printable : p.IsPrintable t.limits
  placed : ∃ files, p.place s = .ok files
  slashes : s.layout = .flat → ∀ n ∈ p.namespaces, '/' ∉ n.name.toList
  relative : ∀ n ∈ p.namespaces, (s.layout.file n.name).isAbsolute = false
  fits : ∀ n ∈ p.namespaces, (s.target n).Fits
  short : ∀ n ∈ p.namespaces, ∀ component ∈ (s.target n).parts, component.utf8ByteSize ≤ maxNameBytes
  fresh : t.IsFresh s.output

variable {p : Program} {s : Settings} {t : FileTree}

namespace FreshRun

theorem dottedLast (h : p.FreshRun s t) {n : Namespace} (hn : n ∈ p.namespaces) :
    DottedLast (s.layout.file n.name).parts :=
  Layout.dottedLast_file (fun hflat => h.slashes hflat n hn) (h.relative n hn)

theorem target_eq (h : p.FreshRun s t) {n : Namespace} (hn : n ∈ p.namespaces) :
    s.target n = s.output.extend (s.layout.file n.name).parts := by
  simp [Settings.target, Path.join, h.relative n hn, Path.extend]

/-- The namespaces have their places, and no two of them share a file. -/
theorem files_of_placed (h : p.FreshRun s t) :
    p.place s = .ok (p.files s) ∧ (p.namespaceNames.map s.layout.file).Nodup := by
  obtain ⟨files, hplace⟩ := h.placed
  have hfiles : s.layout.place p.namespaceNames = .ok files := by simpa [place, h.dump] using hplace
  obtain ⟨rfl, hnodup⟩ := (Layout.place_eq_ok_iff _ _ _).1 hfiles
  exact ⟨hplace, hnodup⟩

/-- Of two files neither starts the other. -/
theorem pairwise_apart (h : p.FreshRun s t) (extra : List String) :
    p.namespaces.Pairwise fun m n =>
      ¬ extra ++ (s.layout.file m.name).parts <+: extra ++ (s.layout.file n.name).parts ∧
        ¬ extra ++ (s.layout.file n.name).parts <+: extra ++ (s.layout.file m.name).parts := by
  have hroot : ∀ n ∈ p.namespaces, (s.layout.file n.name).root = .here := by
    intro n hn
    have hrelative := h.relative n hn
    rwa [Path.isAbsolute, bne_eq_false_iff_eq] at hrelative
  have hsame : ∀ m ∈ p.namespaces, ∀ n ∈ p.namespaces,
      extra ++ (s.layout.file m.name).parts <+: extra ++ (s.layout.file n.name).parts →
      s.layout.file m.name = s.layout.file n.name := by
    intro m hm n hn hstarts
    have hparts := (h.dottedLast hm).eq_of_isPrefix (h.dottedLast hn) ((List.prefix_append_right_inj extra).1 hstarts)
    have hroots := (hroot m hm).trans (hroot n hn).symm
    exact congrArg₂ Path.mk hroots hparts
  -- the files are different, and a file that starts another one is the same
  have hdistinct := h.files_of_placed.2
  rw [namespaceNames, List.map_map] at hdistinct
  refine (List.pairwise_map.1 hdistinct).imp_of_mem fun hm hn hne => ⟨fun hstarts => ?_, fun hstarts => ?_⟩
  · exact hne (hsame _ hm _ hn hstarts)
  · exact hne (hsame _ hn _ hm hstarts).symm

/-- A fresh run writes all files, or is refused at one that lies too deep. -/
theorem result_cases (h : p.FreshRun s t) :
    (p.run s t).result = .ok (p.namespaces.map s.target) ∨
      ∃ n ∈ p.namespaces, t.limits.newFolders < (s.layout.file n.name).parts.length ∧
        (p.run s t).result = .error (.cannotWrite (s.target n) .tooDeep) := by
  obtain ⟨-, -, hresult⟩ := run_of_placed h.dump h.files_of_placed.1 t
  have hunits : p.units s (p.files s) =
      p.namespaces.map fun n => ⟨s.target n, n.unit s.references (p.files s)⟩ := units_files p s
  rw [hresult, hunits]
  by_cases hnone : p.namespaces = []
  · rw [hnone]
    exact .inl rfl
  obtain ⟨first, hfirst⟩ := List.exists_mem_of_ne_nil _ hnone
  -- what holds of one target holds of the output folder before it
  have hfits : s.output.Fits := by
    have hfits := h.fits first hfirst
    rw [h.target_eq hfirst] at hfits
    exact hfits.of_extend
  have hlong : ∀ name ∈ s.output.parts, name.utf8ByteSize ≤ maxNameBytes := by
    intro name hname
    refine h.short first hfirst name ?_
    rw [h.target_eq hfirst]
    exact List.mem_append_left _ hname
  obtain ⟨folder, base, extra, houtput, hextra, hdown, hlocate, hfolder, hfree⟩ := h.fresh.exists_base hfits hlong
  have htarget : ∀ n ∈ p.namespaces, s.target n = folder.extend (extra ++ (s.layout.file n.name).parts) := by
    intro n hn
    rw [h.target_eq hn, houtput, Path.extend_extend]
  -- seen from a folder that is there, every target leads straight down
  have hleads : ∀ n ∈ p.namespaces, folder.LeadsDown (extra ++ (s.layout.file n.name).parts) := by
    intro n hn
    refine ⟨List.append_ne_nil_of_right_ne_nil _ (Layout.parts_file_ne_nil _ _), ?_, htarget n hn ▸ h.fits n hn⟩
    intro name hname
    rcases List.mem_append.1 hname with hname | hname
    · exact hdown name hname
    · refine ⟨fun hup => Layout.up_not_mem_parts_file s.layout n.name (hup ▸ hname), h.short n hn name ?_⟩
      rw [h.target_eq hn]
      exact List.mem_append_right _ hname
  have hmap : (p.namespaces.map fun n => (⟨s.target n, n.unit s.references (p.files s)⟩ : Output)) =
      p.namespaces.map fun n =>
        ⟨folder.extend (extra ++ (s.layout.file n.name).parts), n.unit s.references (p.files s)⟩ :=
    List.map_congr_left fun n hn => by rw [htarget n hn]
  have hwritten := writeOutputs_of_free (fun n => n.unit s.references (p.files s)) hlocate hfolder hleads
    (h.pairwise_apart extra) fun n _ => hfree _ (Layout.parts_file_ne_nil s.layout n.name)
  rw [← hmap] at hwritten
  rcases hwritten with hok | ⟨n, hn, hdeep, herror⟩
  · refine .inl (hok.trans ?_)
    rw [List.map_congr_left fun n hn => (htarget n hn).symm]
  · refine .inr ⟨n, hn, ?_, (htarget n hn) ▸ herror⟩
    -- at most one of the missing folders is the output folder itself
    have hpos : 0 < (s.layout.file n.name).parts.length := List.length_pos_of_ne_nil (Layout.parts_file_ne_nil _ _)
    rw [List.length_append] at hdeep
    omega

end FreshRun

/-- In a run into a new or empty folder no file lies on the way to another. All files are written, unless one lies
    deeper than folders are asked for at once: only then is the run refused, and for this reason. -/
theorem run_into_fresh_output (h : p.FreshRun s t) :
    (∀ m ∈ p.namespaces, ∀ n ∈ p.namespaces, ¬ (s.layout.file m.name).IsAncestor (s.layout.file n.name)) ∧
    ((p.run s t).result = .ok (p.namespaces.map s.target) ∧ (p.namespaces.map s.target).Nodup ∧
        (∀ n ∈ p.namespaces, (p.run s t).tree.read (s.target n) = .ok (p.fileBytes s n)) ∨
      ∃ n ∈ p.namespaces, t.limits.newFolders < (s.layout.file n.name).parts.length ∧
        (p.run s t).result = .error (.cannotWrite (s.target n) .tooDeep)) := by
  constructor
  · rintro m hm n hn ⟨names, hne, hfile⟩
    have hdotted := h.dottedLast hn
    rw [hfile] at hdotted
    have heq := (h.dottedLast hm).eq_of_isPrefix hdotted (List.prefix_append _ names)
    exact hne (List.append_right_eq_self.1 heq.symm)
  · rcases h.result_cases with hok | hdeep
    · refine .inl ⟨hok, nodup_targets h.relative h.files_of_placed.2, fun n hn => ?_⟩
      exact read_target_of_ok h.dump h.relative hok hn
    · exact .inr hdeep

end Program

/-- A namespace whose package goes on inside the package of another one. -/
def shopAndCart : Program :=
  ⟨[⟨"Shop", [], []⟩, ⟨"Shop.Cart", [], []⟩]⟩

def shopAndCartSettings : Settings :=
  { output := ⟨.here, ["out"]⟩, layout := .nested }

/-- The file and the folder of the same package stand side by side. -/
theorem shopAndCart_run_into_fresh_output :
    shopAndCart.FreshRun shopAndCartSettings {} ∧
      (shopAndCart.run shopAndCartSettings {}).result =
        .ok [⟨.here, ["out", "shop.proto"]⟩, ⟨.here, ["out", "shop", "cart.proto"]⟩] ∧
      ∀ n ∈ shopAndCart.namespaces, (shopAndCart.run shopAndCartSettings {}).tree.read (shopAndCartSettings.target n) =
        .ok (shopAndCart.fileBytes shopAndCartSettings n) := by
  have htargets : shopAndCart.namespaces.map shopAndCartSettings.target =
      [⟨.here, ["out", "shop.proto"]⟩, ⟨.here, ["out", "shop", "cart.proto"]⟩] := by
    decide +kernel
  have hfits : ∀ path ∈ shopAndCart.namespaces.map shopAndCartSettings.target, path.Fits := by
    rw [htargets, List.forall_mem_cons, List.forall_mem_singleton]
    exact ⟨⟨by cbv, by decide +kernel⟩, ⟨by cbv, by decide +kernel⟩⟩
  have hfresh : shopAndCart.FreshRun shopAndCartSettings {} := {
    dump := rfl
    printable := by
      rw [Program.IsPrintable]
      decide +kernel
    placed := ⟨[("Shop", ⟨.here, ["shop.proto"]⟩), ("Shop.Cart", ⟨.here, ["shop", "cart.proto"]⟩)], by decide +kernel⟩
    slashes := fun hflat => absurd hflat (by decide)
    relative := by decide +kernel
    fits := fun n hn => hfits _ (List.mem_map_of_mem hn)
    short := by decide +kernel
    fresh := .inr ⟨by cbv, by cbv⟩ }
  have hshallow : ∀ n ∈ shopAndCart.namespaces,
      (shopAndCartSettings.layout.file n.name).parts.length ≤ ({} : Limits).newFolders := by
    decide +kernel
  obtain ⟨-, ⟨hok, -, hread⟩ | ⟨n, hn, hdeep, -⟩⟩ := Program.run_into_fresh_output hfresh
  · exact ⟨hfresh, htargets ▸ hok, hread⟩
  · exact absurd (hshallow n hn) (Nat.not_le.2 hdeep)

/-! ## A package that is too deep -/

/-- The name of a namespace in as many packages around one another. -/
def deepName (depth : Nat) : String :=
  Text.joinDots (List.replicate (depth + 1) "a")

theorem split_deepName (depth : Nat) : Text.split '.' (deepName depth) = List.replicate (depth + 1) "a" := by
  refine Text.split_joinDots (by simp) fun part hpart => ?_
  rw [(List.mem_replicate.1 hpart).2]
  decide

theorem name_deepName (depth : Nat) : Package.name (deepName depth) = deepName depth := by
  have hlower : Text.lower "a" = "a" := by decide +kernel
  have hparts : Package.parts (deepName depth) = List.replicate (depth + 1) "a" := by
    rw [Package.parts, split_deepName, List.filter_replicate_of_pos (by decide), List.map_replicate, hlower]
  rw [Package.name, hparts, deepName]

theorem file_deepName (depth : Nat) :
    Layout.nested.file (deepName depth) = ⟨.here, List.replicate depth "a" ++ ["a.proto"]⟩ := by
  obtain ⟨folders, stem, hsplit, hfile⟩ := Layout.exists_fileOfPackage_nested (deepName depth)
  rw [split_deepName, List.replicate_succ'] at hsplit
  obtain ⟨rfl, hstem⟩ := List.append_inj' hsplit rfl
  obtain rfl : "a" = stem := List.singleton_inj.1 hstem
  have ha : Path.ofString "a" = ⟨.here, ["a"]⟩ := by decide +kernel
  have hproto : Path.ofString ("a" ++ Layout.ending) = ⟨.here, ["a.proto"]⟩ := by decide +kernel
  have hrelative : ∀ q ∈ (List.replicate depth "a").map Path.ofString ++ [Path.ofString ("a" ++ Layout.ending)],
      q.isAbsolute = false := by
    intro q hq
    rw [List.map_replicate, ha, hproto, List.mem_append, List.mem_singleton] at hq
    rcases hq with hq | rfl
    · rw [(List.mem_replicate.1 hq).2]
      rfl
    · rfl
  rw [Layout.file, name_deepName, hfile, Path.joinAll, Path.foldl_join_of_relative hrelative]
  simp [ha, hproto, List.flatMap_replicate]

def deepProgram (depth : Nat) : Program :=
  ⟨[⟨deepName depth, [], []⟩]⟩

def deepSettings : Settings :=
  { output := ⟨.here, ["o"]⟩, layout := .nested }

/-- A tree with an empty folder, where nested work has some limits. -/
def emptyOutput (limits : Limits) : FileTree :=
  { entries := [("o", .folder [])], limits }

def deepTarget (depth : Nat) : Path :=
  ⟨.here, ["o"] ++ (List.replicate depth "a" ++ ["a.proto"])⟩

theorem target_deepProgram {depth : Nat} {n : Namespace} (hn : n ∈ (deepProgram depth).namespaces) :
    deepSettings.target n = deepTarget depth := by
  rw [List.mem_singleton.1 hn, Settings.target, deepSettings, file_deepName]
  rfl

theorem mem_parts_deepTarget {depth : Nat} {component : String} (h : component ∈ (deepTarget depth).parts) :
    component ∈ ["o", "a", "a.proto"] := by
  simp only [deepTarget, List.mem_append, List.mem_singleton, List.mem_replicate] at h
  rcases h with rfl | ⟨-, rfl⟩ | rfl
  · decide
  · decide
  · decide

/-- Joined names take one more byte each at most. -/
theorem utf8ByteSize_intercalate_le (names : List String) :
    ("/".intercalate names).utf8ByteSize ≤ (names.map fun name => name.utf8ByteSize + 1).sum := by
  induction names with
  | nil => decide
  | cons name rest ih =>
    by_cases hne : rest = []
    · rw [hne, String.intercalate_singleton]
      simp
    · rw [String.intercalate_cons_of_ne_nil hne, String.utf8ByteSize_append, String.utf8ByteSize_append, List.map_cons,
        List.sum_cons]
      have hslash : "/".utf8ByteSize = 1 := by decide
      omega

theorem fits_deepTarget {depth : Nat} (hdepth : 2 * depth + 10 ≤ maxPathBytes) : (deepTarget depth).Fits := by
  constructor
  · rw [List.any_eq_false]
    intro component hcomponent
    have hnames : ∀ name ∈ ["o", "a", "a.proto"], name.contains '\x00' = false := by
      rw [List.forall_mem_cons, List.forall_mem_cons, List.forall_mem_singleton]
      exact ⟨by cbv, by cbv, by cbv⟩
    rw [hnames component (mem_parts_deepTarget hcomponent)]
    exact Bool.false_ne_true
  · have hsum : ((deepTarget depth).parts.map fun name => name.utf8ByteSize + 1).sum = 2 * depth + 10 := by
      have hsizes : "o".utf8ByteSize = 1 ∧ "a".utf8ByteSize = 1 ∧ "a.proto".utf8ByteSize = 7 := by decide
      simp only [deepTarget, List.map_append, List.map_replicate, List.map_cons, List.map_nil, List.sum_append,
        List.sum_replicate_nat, List.sum_cons, List.sum_nil, hsizes]
      omega
    have htext : (deepTarget depth).toString = "/".intercalate (deepTarget depth).parts := by
      simp [Path.toString, Path.isAbsolute, deepTarget]
    have hlength := utf8ByteSize_intercalate_le (deepTarget depth).parts
    rw [htext]
    omega

theorem isPrintable_deepProgram {limits : Limits} {depth : Nat} (h : 4 ≤ limits.programDepth) :
    (deepProgram depth).IsPrintable limits := by
  obtain ⟨room, hroom⟩ := Nat.exists_eq_add_of_le' h
  rw [Program.IsPrintable, hroom]
  rfl

theorem freshRun_deepProgram {limits : Limits} {depth : Nat} (hdepth : 2 * depth + 10 ≤ maxPathBytes)
    (hprintable : 4 ≤ limits.programDepth) : (deepProgram depth).FreshRun deepSettings (emptyOutput limits) where
  dump := rfl
  printable := isPrintable_deepProgram hprintable
  placed := ⟨_, rfl⟩
  slashes := fun hflat => absurd hflat (by decide)
  relative := by
    intro n hn
    rw [List.mem_singleton.1 hn, deepSettings, file_deepName]
    rfl
  fits := by
    intro n hn
    rw [target_deepProgram hn]
    exact fits_deepTarget hdepth
  short := by
    intro n hn component hcomponent
    rw [target_deepProgram hn] at hcomponent
    have hshort : ∀ name ∈ ["o", "a", "a.proto"], name.utf8ByteSize ≤ maxNameBytes := by decide
    exact hshort component (mem_parts_deepTarget hcomponent)
  fresh := .inl (by cbv)

theorem write_deepTarget {limits : Limits} {depth : Nat} (hdepth : 2 * depth + 10 ≤ maxPathBytes)
    (hdeep : limits.newFolders < depth) (content : ByteArray) :
    (emptyOutput limits).write (deepTarget depth) content = (emptyOutput limits, some .tooDeep) := by
  obtain ⟨more, rfl⟩ : ∃ more, depth = more + 1 := ⟨depth - 1, by omega⟩
  have hextend : deepTarget (more + 1) = Path.extend ⟨.here, ["o"]⟩ ("a" :: List.replicate more "a" ++ ["a.proto"]) := by
    rw [deepTarget, List.replicate_succ]
    rfl
  have hbase : (emptyOutput limits).locate ⟨.here, ["o"]⟩ = .ok ["o"] := by cbv
  have hfolder : (emptyOutput limits).kind? ["o"] = some .folder := rfl
  have hnone : (emptyOutput limits).kind? (["o"] ++ ["a"]) = none := rfl
  have hleads : Path.LeadsDown ⟨.here, ["o"]⟩ ("a" :: List.replicate more "a" ++ ["a.proto"]) := by
    refine ⟨List.cons_ne_nil _ _, fun name hname => ?_, hextend ▸ fits_deepTarget hdepth⟩
    have hplain : ∀ name ∈ ["o", "a", "a.proto"], name ≠ ".." ∧ name.utf8ByteSize ≤ maxNameBytes := by decide
    have hpart : name ∈ (deepTarget (more + 1)).parts := by
      rw [hextend]
      exact List.mem_append_right _ hname
    exact hplain name (mem_parts_deepTarget hpart)
  have hroom : (emptyOutput limits).limits.newFolders ≤ (List.replicate more "a").length := by
    rw [List.length_replicate]
    exact Nat.le_of_lt_succ hdeep
  rw [hextend]
  exact FileTree.write_tooDeep hbase hfolder hleads hnone hroom content

theorem run_deepProgram {limits : Limits} {depth : Nat} (hdepth : 2 * depth + 10 ≤ maxPathBytes)
    (hprintable : 4 ≤ limits.programDepth) (hdeep : limits.newFolders < depth) :
    ((deepProgram depth).run deepSettings (emptyOutput limits)).result =
      .error (.cannotWrite (deepTarget depth) .tooDeep) := by
  have hfresh := freshRun_deepProgram hdepth hprintable
  obtain ⟨-, -, hresult⟩ := Program.run_of_placed hfresh.dump hfresh.files_of_placed.1 (emptyOutput limits)
  obtain ⟨content, hunits⟩ : ∃ content, (deepProgram depth).units deepSettings ((deepProgram depth).files deepSettings) =
      [⟨deepTarget depth, content⟩] := by
    have hnamespaces : (deepProgram depth).namespaces = [⟨deepName depth, [], []⟩] := rfl
    have htarget := target_deepProgram (hnamespaces ▸ List.mem_singleton_self _)
    rw [Settings.target] at htarget
    rw [Program.units_files, hnamespaces, List.map_singleton, htarget]
    exact ⟨_, rfl⟩
  rw [hresult, hunits, writeOutputs, write_deepTarget hdepth hdeep]

/-- A namespace in 1299 packages is refused, though nothing stands in the way of its file. -/
theorem deepProgram_refused :
    (deepProgram 1299).FreshRun deepSettings (emptyOutput {}) ∧
      ((deepProgram 1299).run deepSettings (emptyOutput {})).result =
        .error (.cannotWrite (deepTarget 1299) .tooDeep) :=
  ⟨freshRun_deepProgram (by decide) (by decide), run_deepProgram (by decide) (by decide) (by decide)⟩

end ProtoEmit
