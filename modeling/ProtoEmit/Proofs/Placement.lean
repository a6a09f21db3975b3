/-
  Where files go.

  Paths in normal form can be told apart by their text, since the text can be read back. Placing namespaces
  succeeds exactly if their files are pairwise different, and then it gives each of them its file.
-/

import Mathlib.Data.List.Nodup
import ProtoEmit.Package
import ProtoEmit.Proofs.Split

namespace ProtoEmit

/-! ## Normal paths -/

namespace Path

/-- No component of a path is empty or `.`, and none holds a slash. -/
def Normal (p : Path) : Prop :=
  ∀ c ∈ p.parts, isComponent c = true ∧ '/' ∉ c.toList

theorem normal_ofString (s : String) : (ofString s).Normal := by
  intro c hc
  obtain ⟨hsplit, hcomponent⟩ := List.mem_filter.1 hc
  exact ⟨hcomponent, Text.not_mem_of_mem_split hsplit⟩

theorem Normal.join {p q : Path} (hp : p.Normal) (hq : q.Normal) : (p.join q).Normal := by
  unfold Path.join
  split
  · exact hq
  · intro c hc
    rcases List.mem_append.1 hc with h | h
    · exact hp c h
    · exact hq c h

theorem Normal.parent {p : Path} (hp : p.Normal) : p.parent.Normal :=
  fun c hc => hp c (List.dropLast_subset p.parts hc)

theorem normal_foldl_join {p : Path} (hp : p.Normal) {qs : List Path} (hqs : ∀ q ∈ qs, q.Normal) :
    (qs.foldl Path.join p).Normal := by
  induction qs generalizing p with
  | nil => exact hp
  | cons q qs ih =>
    rw [List.foldl_cons]
    apply ih (hp.join (hqs q List.mem_cons_self))
    intro x hx
    exact hqs x (List.mem_cons_of_mem _ hx)

/-- Leading slashes apart, the text of normal components reads back as these components. -/
theorem filter_split_intercalate {p : Path} (h : p.Normal) :
    (Text.split '/' ("/".intercalate p.parts)).filter isComponent = p.parts := by
  by_cases hne : p.parts = []
  · rw [hne]
    rfl
  · have hsplit : Text.split '/' ("/".intercalate p.parts) = p.parts :=
      Text.split_intercalate hne fun c hc => (h c hc).2
    rw [hsplit]
    exact List.filter_eq_self.2 fun c hc => (h c hc).1

theorem takeWhile_slash_intercalate {p : Path} (h : p.Normal) :
    ("/".intercalate p.parts).toList.takeWhile (· == '/') = [] := by
  cases hparts : p.parts with
  | nil => rfl
  | cons c cs =>
    obtain ⟨hcomponent, hslash⟩ := h c (by simp [hparts])
    have hne : c.toList ≠ [] := by
      intro hnil
      rw [String.toList_eq_nil_iff] at hnil
      rw [hnil] at hcomponent
      exact absurd hcomponent (by decide)
    obtain ⟨x, xs, hx⟩ := List.exists_cons_of_ne_nil hne
    have hxslash : x ≠ '/' := by
      rintro rfl
      exact hslash (by simp [hx])
    obtain ⟨rest, hrest⟩ := Text.exists_toList_intercalate_cons "/" c cs
    rw [hrest, hx, List.cons_append, List.takeWhile_cons_of_neg (by simpa using hxslash)]

theorem split_slash_append (s : String) : Text.split '/' ("/" ++ s) = "" :: Text.split '/' s := by
  simpa using @Text.split_append '/' "" (by simp) s

theorem takeWhile_slash_append (s : String) :
    ("/" ++ s).toList.takeWhile (· == '/') = '/' :: s.toList.takeWhile (· == '/') := by
  rw [String.toList_append]
  rfl

/-- The text of a normal path reads back as the path. -/
theorem ofString_toString {p : Path} (h : p.Normal) : ofString p.toString = p := by
  have hparts := filter_split_intercalate h
  have hlead := takeWhile_slash_intercalate h
  obtain ⟨root, parts⟩ := p
  cases root with
  | here =>
    by_cases hne : parts = []
    · subst hne
      rfl
    · have htext : toString ⟨.here, parts⟩ = "/".intercalate parts := by
        simp [toString, isAbsolute, hne]
      rw [htext, ofString, hparts, hlead]
      rfl
  | slash =>
    have htext : toString ⟨.slash, parts⟩ = "/" ++ "/".intercalate parts := rfl
    rw [htext, ofString, split_slash_append, List.filter_cons_of_neg (by decide), hparts, takeWhile_slash_append, hlead]
    rfl
  | twoSlashes =>
    have htext : toString ⟨.twoSlashes, parts⟩ = "/" ++ ("/" ++ "/".intercalate parts) := by
      rw [← String.append_assoc]
      rfl
    rw [htext, ofString, split_slash_append, split_slash_append, List.filter_cons_of_neg (by decide),
      List.filter_cons_of_neg (by decide), hparts, takeWhile_slash_append, takeWhile_slash_append, hlead]
    rfl

/-- Normal paths with one text are equal. -/
theorem Normal.toString_inj {p q : Path} (hp : p.Normal) (hq : q.Normal) (h : p.toString = q.toString) : p = q := by
  rw [← ofString_toString hp, h, ofString_toString hq]

end Path

namespace Layout

/-- The file of a namespace is a path in normal form. -/
theorem normal_file (layout : Layout) (name : String) : (layout.file name).Normal := by
  unfold file fileOfPackage
  cases layout with
  | flat => exact Path.normal_ofString _
  | nested =>
    have hempty : (⟨.here, []⟩ : Path).Normal := by
      intro c hc
      cases hc
    refine Path.normal_foldl_join hempty ?_
    intro q hq
    rcases List.mem_append.1 hq with h | h
    · obtain ⟨s, -, rfl⟩ := List.mem_map.1 h
      exact Path.normal_ofString s
    · rw [List.mem_singleton.1 h]
      exact Path.normal_ofString _

/-! ## Placing namespaces -/

/-- Names whose files stay free once a further name is placed: those of other files. -/
theorem free_append_iff (layout : Layout) (placed : List (String × Path)) (name : String) (names : List String) :
    (∀ other ∈ names, layout.file other ∉ (placed ++ [(name, layout.file name)]).map (·.2)) ↔
      layout.file name ∉ names.map layout.file ∧ ∀ other ∈ names, layout.file other ∉ placed.map (·.2) := by
  rw [List.map_append]
  constructor
  · intro h
    refine ⟨?_, fun other hother hmem => h other hother (List.mem_append_left _ hmem)⟩
    intro hmem
    obtain ⟨other, hother, heq⟩ := List.mem_map.1 hmem
    exact h other hother (by simp [heq])
  · rintro ⟨hname, hplaced⟩ other hother hmem
    rcases List.mem_append.1 hmem with hmem | hmem
    · exact hplaced other hother hmem
    · have heq : layout.file other = layout.file name := by simpa using hmem
      exact hname (List.mem_map.2 ⟨other, hother, heq⟩)

/-- Placing goes on to the end exactly if no file is taken, and then it adds the files in order. -/
theorem placeFrom_eq_ok_iff (layout : Layout) (placed : List (String × Path)) (names : List String)
    (files : List (String × Path)) :
    layout.placeFrom placed names = .ok files ↔
      files = placed ++ names.map (fun name => (name, layout.file name)) ∧
        (names.map layout.file).Nodup ∧ ∀ name ∈ names, layout.file name ∉ placed.map (·.2) := by
  induction names generalizing placed with
  | nil => simp [placeFrom, eq_comm]
  | cons name names ih =>
    rw [placeFrom]
    cases hfind : placed.find? (fun p => p.2 == layout.file name) with
    | some owner =>
      have htaken : layout.file name ∈ placed.map (·.2) :=
        List.mem_map.2 ⟨owner, List.mem_of_find?_eq_some hfind, by simpa using List.find?_some hfind⟩
      constructor
      · intro h
        cases h
      · rintro ⟨-, -, hall⟩
        exact absurd htaken (hall name List.mem_cons_self)
    | none =>
      have hfree : layout.file name ∉ placed.map (·.2) := by
        intro hmem
        obtain ⟨owner, howner, heq⟩ := List.mem_map.1 hmem
        exact List.find?_eq_none.1 hfind owner howner (by simp [heq])
      simp only [ih, free_append_iff, List.append_assoc, List.cons_append, List.nil_append, List.map_cons,
        List.nodup_cons, List.forall_mem_cons]
      tauto

/-- Namespaces can be placed exactly if no two of them share a file, and then each has its own. -/
theorem place_eq_ok_iff (layout : Layout) (names : List String) (files : List (String × Path)) :
    layout.place names = .ok files ↔
      files = names.map (fun name => (name, layout.file name)) ∧ (names.map layout.file).Nodup := by
  rw [place, placeFrom_eq_ok_iff]
  simp

end Layout

end ProtoEmit
