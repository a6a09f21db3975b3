/-
  Files below the output folder.

  The file of a namespace has at least one component and none that leads back. So it lies below the output folder
  unless it is absolute, and it is absolute exactly if a slash stands where a component of its path starts: at the
  start of the name, leading dots apart, or in the nested layout at the start of any part between dots.
-/

import Mathlib
import ProtoEmit.Proofs.PackageNames
import ProtoEmit.Proofs.Run

namespace ProtoEmit

/-! ## Paths -/

namespace Path

/-- A path goes on from a folder by at least one component, and never leads back. -/
def IsBelow (p folder : Path) : Prop :=
  ∃ added, added ≠ [] ∧ ".." ∉ added ∧ p = ⟨folder.root, folder.parts ++ added⟩

theorem isAbsolute_ofString_iff (s : String) : (ofString s).isAbsolute = true ↔ s.toList.head? = some '/' := by
  have hroot : ∀ k, Root.ofLeading k ≠ .here ↔ k ≠ 0 := by
    intro k
    match k with
    | 0 => decide
    | 1 => decide
    | 2 => decide
    | k + 3 => simp [Root.ofLeading]
  rw [isAbsolute, bne_iff_ne, ofString, hroot]
  cases s.toList with
  | nil => simp
  | cons c cs =>
    by_cases hc : c = '/'
    · simp [hc]
    · simp [hc]

theorem parts_ofString_ne_nil {s : String} {c : Char} (h : c ∈ s.toList) (hdot : c ≠ '.') (hslash : c ≠ '/') :
    (ofString s).parts ≠ [] := by
  obtain ⟨piece, hpiece, hc⟩ := Text.exists_mem_split h hslash
  have hcomponent : isComponent piece = true := by
    rw [isComponent, Bool.and_eq_true, bne_iff_ne, bne_iff_ne]
    constructor
    · rintro rfl
      cases hc
    · rintro rfl
      exact hdot (List.mem_singleton.1 hc)
  exact List.ne_nil_of_mem (List.mem_filter.2 ⟨hpiece, hcomponent⟩)

theorem up_not_mem_parts_ofString {s : String} (h : "" ∉ (Text.split '.' s).tail) : ".." ∉ (ofString s).parts :=
  fun hup => Text.up_not_mem_split h (List.mem_of_mem_filter hup)

theorem isAbsolute_foldl_join (p : Path) (qs : List Path) :
    (qs.foldl join p).isAbsolute = (p.isAbsolute || qs.any isAbsolute) := by
  induction qs generalizing p with
  | nil => simp
  | cons q qs ih =>
    have hjoin : (p.join q).isAbsolute = (p.isAbsolute || q.isAbsolute) := by
      rw [join]
      cases hq : q.isAbsolute with
      | true => simp [hq]
      | false => simp [isAbsolute]
    rw [List.foldl_cons, ih, hjoin, List.any_cons, Bool.or_assoc]

/-- A component of joined paths is one of some of them. -/
theorem mem_parts_foldl_join {p : Path} {qs : List Path} {c : String} (h : c ∈ (qs.foldl join p).parts) :
    c ∈ p.parts ∨ ∃ q ∈ qs, c ∈ q.parts := by
  induction qs generalizing p with
  | nil => exact .inl h
  | cons q qs ih =>
    rcases ih h with hc | ⟨r, hr, hc⟩
    · have hjoin : c ∈ p.parts ∨ c ∈ q.parts := by
        rw [join] at hc
        split at hc
        · exact .inr hc
        · exact List.mem_append.1 hc
      rcases hjoin with hc | hc
      · exact .inl hc
      · exact .inr ⟨q, List.mem_cons_self, hc⟩
    · exact .inr ⟨r, List.mem_cons_of_mem _ hr, hc⟩

theorem parts_join_ne_nil (p : Path) {q : Path} (h : q.parts ≠ []) : (p.join q).parts ≠ [] := by
  rw [join]
  split
  · exact h
  · exact List.append_ne_nil_of_right_ne_nil _ h

end Path

/-! ## Files of namespaces -/

namespace Layout

theorem parts_ofString_ending_ne_nil (s : String) : (Path.ofString (s ++ ending)).parts ≠ [] :=
  Path.parts_ofString_ne_nil (show 'p' ∈ (s ++ ending).toList by simp [ending]) (by decide) (by decide)

/-- Only what stands before the ending decides whether a file's path is absolute. -/
theorem isAbsolute_ofString_ending_iff (s : String) :
    (Path.ofString (s ++ ending)).isAbsolute = true ↔ s.toList.head? = some '/' := by
  rw [Path.isAbsolute_ofString_iff, String.toList_append]
  cases s.toList with
  | nil => decide
  | cons c cs => rfl

/-- In the nested layout the last part of a package names the file, and the others name folders. -/
theorem exists_fileOfPackage_nested (package : String) :
    ∃ folders stem, Text.split '.' package = folders ++ [stem] ∧
      nested.fileOfPackage package = .joinAll (folders.map Path.ofString ++ [.ofString (stem ++ ending)]) := by
  rcases List.eq_nil_or_concat (Text.split '.' package) with hnil | ⟨folders, stem, hsplit⟩
  · exact absurd hnil (Text.split_ne_nil '.' package)
  · rw [List.concat_eq_append] at hsplit
    refine ⟨folders, stem, hsplit, ?_⟩
    simp [fileOfPackage, hsplit]

/-- The file of a namespace has a component. -/
theorem parts_file_ne_nil (layout : Layout) (name : String) : (layout.file name).parts ≠ [] := by
  cases layout with
  | flat => exact parts_ofString_ending_ne_nil _
  | nested =>
    obtain ⟨folders, stem, -, hfile⟩ := exists_fileOfPackage_nested (Package.name name)
    rw [file, hfile, Path.joinAll, List.foldl_append]
    exact Path.parts_join_ne_nil _ (parts_ofString_ending_ne_nil stem)

/-- The ending brings no two dots in a row. -/
theorem up_not_mem_parts_ofString_ending {s : String} (h : "" ∉ (Text.split '.' s).tail) :
    ".." ∉ (Path.ofString (s ++ ending)).parts := by
  have hsplit : Text.split '.' (s ++ ending) = Text.split '.' s ++ ["proto"] := by
    have hending : s ++ ending = s ++ String.singleton '.' ++ "proto" := by
      rw [String.append_assoc]
      rfl
    rw [hending, Text.split_append_split]
    rfl
  refine Path.up_not_mem_parts_ofString ?_
  rw [hsplit, List.tail_append_of_ne_nil (Text.split_ne_nil '.' s)]
  intro hempty
  rcases List.mem_append.1 hempty with hempty | hempty
  · exact h hempty
  · exact absurd hempty (by decide)

/-- The file of a namespace never leads back. -/
theorem up_not_mem_parts_file (layout : Layout) (name : String) : ".." ∉ (layout.file name).parts := by
  cases layout with
  | flat => exact up_not_mem_parts_ofString_ending (Package.empty_not_mem_tail_split_name name)
  | nested =>
    obtain ⟨folders, stem, hsplit, hfile⟩ := exists_fileOfPackage_nested (Package.name name)
    -- a part of a package is without dots, so it is its own only piece
    have htail : ∀ part ∈ folders ++ [stem], (Text.split '.' part).tail = [] := by
      intro part hpart
      rw [Text.split_of_not_mem (Text.not_mem_of_mem_split (hsplit ▸ hpart))]
      rfl
    rw [file, hfile, Path.joinAll]
    intro hup
    rcases Path.mem_parts_foldl_join hup with h | ⟨q, hq, h⟩
    · cases h
    · rcases List.mem_append.1 hq with hq | hq
      · obtain ⟨part, hpart, rfl⟩ := List.mem_map.1 hq
        refine Path.up_not_mem_parts_ofString ?_ h
        rw [htail part (List.mem_append_left _ hpart)]
        exact List.not_mem_nil
      · rw [List.mem_singleton.1 hq] at h
        refine up_not_mem_parts_ofString_ending ?_ h
        rw [htail stem (List.mem_append_right _ (List.mem_singleton_self stem))]
        exact List.not_mem_nil

/-- A namespace whose file is an absolute path. -/
def Escapes (layout : Layout) (name : String) : Prop :=
  match layout with
  | .flat => (name.toList.dropWhile (· == '.')).head? = some '/'
  | .nested => ∃ part ∈ Text.split '.' name, part.toList.head? = some '/'

instance (layout : Layout) (name : String) : Decidable (layout.Escapes name) :=
  match layout with
  | .flat => inferInstanceAs (Decidable (_ = _))
  | .nested => inferInstanceAs (Decidable (∃ part ∈ Text.split '.' name, _))

theorem isAbsolute_file_iff (layout : Layout) (name : String) :
    (layout.file name).isAbsolute = true ↔ layout.Escapes name := by
  cases layout with
  | flat =>
    rw [file, fileOfPackage, isAbsolute_ofString_ending_iff]
    exact Package.head?_name_iff name
  | nested =>
    obtain ⟨folders, stem, hsplit, hfile⟩ := exists_fileOfPackage_nested (Package.name name)
    have hfolders : (folders.map Path.ofString).any Path.isAbsolute = true ↔
        ∃ part ∈ folders, part.toList.head? = some '/' := by
      simp [Path.isAbsolute_ofString_iff]
    have habsolute : (nested.file name).isAbsolute = true ↔
        (folders.map Path.ofString).any Path.isAbsolute = true ∨ (Path.ofString (stem ++ ending)).isAbsolute = true := by
      rw [file, hfile, Path.joinAll, Path.isAbsolute_foldl_join, List.any_append]
      simp [Path.isAbsolute]
    rw [Escapes, ← Package.exists_slash_split_name_iff, hsplit, habsolute, hfolders, isAbsolute_ofString_ending_iff]
    simp only [List.mem_append, List.mem_singleton, or_and_right, exists_or, exists_eq_left]

/-- A file that is not absolute lies below the output folder. -/
theorem isBelow_file {layout : Layout} {name : String} (h : (layout.file name).isAbsolute = false) (output : Path) :
    (output.join (layout.file name)).IsBelow output := by
  refine ⟨_, parts_file_ne_nil layout name, up_not_mem_parts_file layout name, ?_⟩
  simp [Path.join, h]

end Layout

/-- In a run for each namespace that returns, each file lies below the output folder, unless a slash makes the path of
    its namespace absolute: then the file is there, wherever the output goes. -/
theorem Program.written_below_output {p : Program} {s : Settings} {t : FileTree} {written : List Path}
    (hdump : s.dump = false) (hrun : (p.run s t).result = .ok written) :
    List.Forall₂ (fun n file =>
        (¬ s.layout.Escapes n.name → file.IsBelow s.output) ∧
          (s.layout.Escapes n.name → file = s.layout.file n.name ∧ file.isAbsolute = true))
      p.namespaces written := by
  obtain ⟨-, -, hwritten, -⟩ := run_of_ok hdump hrun
  have hfiles : written = p.namespaces.map fun n => s.output.join (s.layout.file n.name) := by
    rw [hwritten, units_files, List.map_map]
    rfl
  rw [hfiles, List.forall₂_map_right_iff]
  refine List.forall₂_same.2 fun n _ => ⟨fun h => ?_, fun h => ?_⟩
  · rw [← Layout.isAbsolute_file_iff, Bool.not_eq_true] at h
    exact Layout.isBelow_file h s.output
  · have habsolute := (Layout.isAbsolute_file_iff s.layout n.name).2 h
    have hfile : s.output.join (s.layout.file n.name) = s.layout.file n.name := by rw [Path.join, if_pos habsolute]
    exact ⟨hfile, hfile.symm ▸ habsolute⟩

/-! ## Slashes in names -/

/-- A namespace with slashes and dots inside its name, and one whose name starts with a slash. -/
def slashedNames : Program :=
  ⟨[⟨"Shop/../Cart", [], []⟩, ⟨"/tmp/shop", [], []⟩]⟩

/-- Dots and slashes inside a name do not lead out of the output folder. -/
theorem slashedNames_written_below_output :
    (slashedNames.run { output := ⟨.here, ["out"]⟩ } {}).result =
        .ok [⟨.here, ["out", "shop", "cart.proto"]⟩, ⟨.slash, ["tmp", "shop.proto"]⟩] ∧
      ¬ Layout.flat.Escapes "Shop/../Cart" ∧ Layout.flat.Escapes "/tmp/shop" ∧
      List.Forall₂ (fun n file =>
          (¬ Layout.flat.Escapes n.name → file.IsBelow ⟨.here, ["out"]⟩) ∧
            (Layout.flat.Escapes n.name → file = Layout.flat.file n.name ∧ file.isAbsolute = true))
        slashedNames.namespaces [⟨.here, ["out", "shop", "cart.proto"]⟩, ⟨.slash, ["tmp", "shop.proto"]⟩] := by
  have hplace : slashedNames.place { output := ⟨.here, ["out"]⟩ } =
      .ok [("Shop/../Cart", ⟨.here, ["shop", "cart.proto"]⟩), ("/tmp/shop", ⟨.slash, ["tmp", "shop.proto"]⟩)] := by
    decide +kernel
  -- whether a file can be written does not depend on what is to be written
  have hwrite : ∀ cart shop : Rendered,
      (writeOutputs {} [⟨⟨.here, ["out", "shop", "cart.proto"]⟩, cart⟩, ⟨⟨.slash, ["tmp", "shop.proto"]⟩, shop⟩]).result =
        .ok [⟨.here, ["out", "shop", "cart.proto"]⟩, ⟨.slash, ["tmp", "shop.proto"]⟩] := by
    intro cart shop
    cbv
  have hrun : (slashedNames.run { output := ⟨.here, ["out"]⟩ } {}).result =
      .ok [⟨.here, ["out", "shop", "cart.proto"]⟩, ⟨.slash, ["tmp", "shop.proto"]⟩] := by
    rw [Program.run, hplace]
    exact hwrite _ _
  exact ⟨hrun, by decide +kernel, by decide +kernel, Program.written_below_output rfl hrun⟩

/-- A namespace whose name starts with a slash. -/
def rootedName : Program :=
  ⟨[⟨"/tmp/shop", [], []⟩]⟩

/-- Its file is not below the output folder. -/
theorem rootedName_written_elsewhere :
    (rootedName.run { output := ⟨.here, ["out"]⟩ } {}).result = .ok [⟨.slash, ["tmp", "shop.proto"]⟩] ∧
      ¬ Path.IsBelow ⟨.slash, ["tmp", "shop.proto"]⟩ ⟨.here, ["out"]⟩ := by
  have hplace : rootedName.place { output := ⟨.here, ["out"]⟩ } =
      .ok [("/tmp/shop", ⟨.slash, ["tmp", "shop.proto"]⟩)] := by
    decide +kernel
  have hwrite : ∀ shop : Rendered,
      (writeOutputs {} [⟨⟨.slash, ["tmp", "shop.proto"]⟩, shop⟩]).result = .ok [⟨.slash, ["tmp", "shop.proto"]⟩] := by
    intro shop
    cbv
  refine ⟨?_, ?_⟩
  · rw [Program.run, hplace]
    exact hwrite _
  · rintro ⟨added, -, -, heq⟩
    cases congrArg Path.root heq

end ProtoEmit
