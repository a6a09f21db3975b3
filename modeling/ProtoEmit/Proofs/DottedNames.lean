/-
  Which components of a file's path hold a dot.

  Dots part the name of a package, so no folder of the nested layout has one in its name, and in the flat layout there
  are no folders unless a name holds a slash. Every file ends in `.proto`. So only the last component has a dot, and
  no file stands where another one needs a folder.
-/

import Mathlib.Data.List.Infix
import Mathlib.Data.List.TakeWhile
import ProtoEmit.Proofs.BelowOutput

namespace ProtoEmit

/-! ## Pieces and endings -/

namespace Text

/-- What is added without a separator goes to the last piece. -/
theorem exists_split_append (sep : Char) (s : String) {t : String} (h : sep ∉ t.toList) :
    ∃ init last, split sep s = init ++ [last] ∧ split sep (s ++ t) = init ++ [last ++ t] := by
  obtain ⟨init, last, hsplit⟩ : ∃ init last, split sep s = init ++ [last] :=
    ⟨_, _, (List.dropLast_append_getLast (split_ne_nil sep s)).symm⟩
  refine ⟨init, last, hsplit, ?_⟩
  have htext : s ++ t = (String.singleton sep).intercalate (init ++ [last ++ t]) := by
    have hs := intercalate_split sep s
    rw [hsplit] at hs
    rw [← hs]
    by_cases hinit : init = []
    · simp [hinit]
    · rw [String.intercalate_append_of_ne_nil hinit (List.cons_ne_nil _ _),
        String.intercalate_append_of_ne_nil hinit (List.cons_ne_nil _ _), String.intercalate_singleton,
        String.intercalate_singleton, String.append_assoc]
  rw [htext]
  refine split_intercalate (List.append_ne_nil_of_right_ne_nil _ (List.cons_ne_nil _ _)) fun p hp => ?_
  have hpieces : ∀ p ∈ init ++ [last], sep ∉ p.toList := fun p hp => not_mem_of_mem_split (hsplit ▸ hp)
  rcases List.mem_append.1 hp with hp | hp
  · exact hpieces p (List.mem_append_left _ hp)
  · rw [List.mem_singleton.1 hp, String.toList_append, List.mem_append, not_or]
    exact ⟨hpieces last (List.mem_append_right _ (List.mem_singleton_self last)), h⟩

end Text

/-! ## Components of paths -/

/-- Of some components only the last one holds a dot. -/
def DottedLast (parts : List String) : Prop :=
  ∃ folders file, parts = folders ++ [file] ∧ (∀ folder ∈ folders, '.' ∉ folder.toList) ∧ '.' ∈ file.toList

/-- A dot ends the path: if one path starts another, they are the same. -/
theorem DottedLast.eq_of_isPrefix {parts parts' : List String} (h : DottedLast parts) (h' : DottedLast parts')
    (hstarts : parts <+: parts') : parts = parts' := by
  obtain ⟨folders, file, rfl, -, hfile⟩ := h
  obtain ⟨folders', file', rfl, hfolders', -⟩ := h'
  rcases List.prefix_concat_iff.1 hstarts with heq | hshorter
  · exact heq
  · have hmem : file ∈ folders' := hshorter.subset (List.mem_append_right _ (List.mem_singleton_self file))
    exact absurd hfile (hfolders' file hmem)

theorem DottedLast.append {parts : List String} (h : DottedLast parts) {folders : List String}
    (hfolders : ∀ folder ∈ folders, '.' ∉ folder.toList) : DottedLast (folders ++ parts) := by
  obtain ⟨inner, file, rfl, hinner, hfile⟩ := h
  refine ⟨folders ++ inner, file, (List.append_assoc _ _ _).symm, fun folder hfolder => ?_, hfile⟩
  rcases List.mem_append.1 hfolder with hfolder | hfolder
  · exact hfolders folder hfolder
  · exact hinner folder hfolder

namespace Path

/-- Paths that are not absolute are put behind one another. -/
theorem foldl_join_of_relative {qs : List Path} (h : ∀ q ∈ qs, q.isAbsolute = false) (p : Path) :
    qs.foldl join p = ⟨p.root, p.parts ++ qs.flatMap (·.parts)⟩ := by
  induction qs generalizing p with
  | nil => simp
  | cons q qs ih =>
    obtain ⟨hq, hqs⟩ := List.forall_mem_cons.1 h
    have hjoin : p.join q = ⟨p.root, p.parts ++ q.parts⟩ := by simp [join, hq]
    rw [List.foldl_cons, hjoin, ih hqs, List.flatMap_cons, List.append_assoc]

/-- A component without a slash is a path by itself. -/
theorem ofString_of_isComponent {s : String} (h : '/' ∉ s.toList) (hs : isComponent s = true) :
    ofString s = ⟨.here, [s]⟩ := by
  have hlead : s.toList.takeWhile (· == '/') = [] := by
    rw [List.takeWhile_eq_nil_iff]
    intro hpos hhead
    exact h (by simpa using beq_iff_eq.1 hhead ▸ List.getElem_mem hpos)
  rw [ofString, hlead, Text.split_of_not_mem h]
  simp [hs, Root.ofLeading]

/-- Components hold only characters of the text that they come from. -/
theorem mem_of_mem_parts_ofString {s component : String} (h : component ∈ (ofString s).parts) {c : Char}
    (hc : c ∈ component.toList) : c ∈ s.toList :=
  (Text.infix_of_mem_split (List.mem_of_mem_filter h)).subset hc

end Path

/-! ## Files of namespaces -/

/-- Dots apart, a package name has characters before the digits only from the name of its namespace. -/
theorem Package.not_mem_name {namespaceName : String} {c : Char} (hc : Text.BeforeDigits c) (hdot : c ≠ '.')
    (h : c ∉ namespaceName.toList) : c ∉ (name namespaceName).toList := by
  intro hname
  obtain ⟨piece, hpiece, hmem⟩ := Text.exists_mem_split hname hdot
  -- it stands in a part, which is a part of the namespace's name in lower case
  by_cases hparts : parts namespaceName = []
  · rw [split_name_of_parts_eq_nil hparts] at hpiece
    rw [List.mem_singleton.1 hpiece] at hmem
    cases hmem
  · rw [split_name hparts] at hpiece
    obtain ⟨part, hpart, rfl⟩ := List.mem_map.1 hpiece
    rw [hc.mem_lower_iff] at hmem
    exact h ((Text.infix_of_mem_split (List.mem_of_mem_filter hpart)).subset hmem)

/-- A package name has slashes only from the name of its namespace. -/
theorem Package.slash_not_mem_name {namespaceName : String} (h : '/' ∉ namespaceName.toList) :
    '/' ∉ (name namespaceName).toList :=
  not_mem_name (by decide) (by decide) h

namespace Layout

/-- With its ending, any text counts as a component. -/
theorem isComponent_ending (s : String) : Path.isComponent (s ++ ending) = true := by
  have hp : 'p' ∈ (s ++ ending).toList := by simp [ending]
  rw [Path.isComponent, Bool.and_eq_true, bne_iff_ne, bne_iff_ne]
  constructor
  · intro heq
    rw [heq] at hp
    exact absurd hp (by decide)
  · intro heq
    rw [heq] at hp
    exact absurd hp (by decide)

/-- The ending of a text is that of its last component. -/
theorem exists_parts_ofString_ending (s : String) :
    ∃ folders stem, (Path.ofString (s ++ ending)).parts = folders ++ [stem ++ ending] ∧
      folders ⊆ (Text.split '/' s).dropLast := by
  have hslash : '/' ∉ ending.toList := by decide
  obtain ⟨init, last, hsplit, hending⟩ := Text.exists_split_append '/' s hslash
  refine ⟨init.filter Path.isComponent, last, ?_, ?_⟩
  · simp [Path.ofString, hending, isComponent_ending last]
  · rw [hsplit, List.dropLast_concat]
    exact List.filter_subset_self _

/-- With its ending, a text without dots is a path whose last component alone has one. -/
theorem dottedLast_ofString_ending {s : String} (h : ∀ piece ∈ (Text.split '/' s).dropLast, '.' ∉ piece.toList) :
    DottedLast (Path.ofString (s ++ ending)).parts := by
  obtain ⟨folders, stem, hparts, hfolders⟩ := exists_parts_ofString_ending s
  exact ⟨folders, stem ++ ending, hparts, fun folder hfolder => h folder (hfolders hfolder), by simp [ending]⟩

/-- The last component of every file has the ending. -/
theorem exists_parts_file (layout : Layout) (name : String) :
    ∃ folders stem, (layout.file name).parts = folders ++ [stem ++ ending] := by
  cases layout with
  | flat =>
    obtain ⟨folders, stem, hparts, -⟩ := exists_parts_ofString_ending (Package.name name)
    exact ⟨folders, stem, hparts⟩
  | nested =>
    obtain ⟨outer, last, -, hfile⟩ := exists_fileOfPackage_nested (Package.name name)
    obtain ⟨folders, stem, hparts, -⟩ := exists_parts_ofString_ending last
    rw [file, hfile, Path.joinAll, List.foldl_append, List.foldl_cons, List.foldl_nil, Path.join]
    split
    · exact ⟨folders, stem, hparts⟩
    · rw [hparts, ← List.append_assoc]
      exact ⟨_, stem, rfl⟩

/-- The text of every file ends with the ending. -/
theorem exists_toString_file (layout : Layout) (name : String) :
    ∃ front, (layout.file name).toString = front ++ ending := by
  obtain ⟨folders, stem, hparts⟩ := exists_parts_file layout name
  obtain ⟨front, hfront⟩ : ∃ front, "/".intercalate (folders ++ [stem ++ ending]) = front ++ ending := by
    by_cases hfolders : folders = []
    · exact ⟨stem, by simp [hfolders]⟩
    · rw [String.intercalate_append_of_ne_nil hfolders (List.cons_ne_nil _ _), String.intercalate_singleton,
        ← String.append_assoc]
      exact ⟨_, rfl⟩
  rw [Path.toString, hparts, hfront]
  split
  · exact ⟨_, String.append_assoc.symm⟩
  · exact ⟨front, if_neg (by simp)⟩

/-- A file that is not absolute has a dot in its last component alone, if no slash makes folders of a flat name. -/
theorem dottedLast_file {layout : Layout} {name : String} (hslash : layout = .flat → '/' ∉ name.toList)
    (hrelative : (layout.file name).isAbsolute = false) : DottedLast (layout.file name).parts := by
  cases layout with
  | flat =>
    refine dottedLast_ofString_ending ?_
    rw [Text.split_of_not_mem (Package.slash_not_mem_name (hslash rfl))]
    exact fun _ hpiece => absurd hpiece List.not_mem_nil
  | nested =>
    obtain ⟨folders, stem, hsplit, hfile⟩ := exists_fileOfPackage_nested (Package.name name)
    have hdot : ∀ part ∈ folders ++ [stem], '.' ∉ part.toList := fun part hpart =>
      Text.not_mem_of_mem_split (hsplit ▸ hpart)
    rw [file, hfile, Path.joinAll] at hrelative ⊢
    rw [Path.isAbsolute_foldl_join, Bool.or_eq_false_iff, List.any_eq_false] at hrelative
    have hall : ∀ q ∈ folders.map Path.ofString ++ [Path.ofString (stem ++ ending)], q.isAbsolute = false :=
      fun q hq => Bool.eq_false_iff.2 (hrelative.2 q hq)
    rw [Path.foldl_join_of_relative hall, List.nil_append, List.flatMap_append, List.flatMap_singleton]
    -- the folders come from the first parts, and more of them from slashes in the last one
    refine DottedLast.append (dottedLast_ofString_ending fun piece hpiece hmem => ?_) fun component hcomponent hmem => ?_
    · have hpiece' := List.mem_of_mem_dropLast hpiece
      exact hdot stem (List.mem_append_right _ (List.mem_singleton_self stem))
        ((Text.infix_of_mem_split hpiece').subset hmem)
    · obtain ⟨q, hq, hcomponent⟩ := List.mem_flatMap.1 hcomponent
      obtain ⟨part, hpart, rfl⟩ := List.mem_map.1 hq
      exact hdot part (List.mem_append_left _ hpart) (Path.mem_of_mem_parts_ofString hcomponent hmem)

end Layout

end ProtoEmit
