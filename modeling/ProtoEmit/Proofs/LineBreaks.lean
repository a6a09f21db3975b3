/-
  Lines without line breaks.

  A file is written line by line, with a line break after each. The texts of a program go into these lines as they
  are, so a line break in one of them breaks a line. If no text of a program holds one, no line of its files does, and
  the written text is cut into the very lines that it was made of.
-/

import ProtoEmit.Proofs.DottedNames
import ProtoEmit.Proofs.Lines
import ProtoEmit.Proofs.TextRoundTrip
import ProtoEmit.Proofs.TypeLookup

namespace ProtoEmit

/-! ## Texts on one line -/

/-- A text without a line break. -/
def OneLine (s : String) : Prop :=
  '\n' ∉ s.toList

instance : DecidablePred OneLine :=
  fun s => inferInstanceAs (Decidable ('\n' ∉ s.toList))

@[simp] theorem oneLine_append_iff {s t : String} : OneLine (s ++ t) ↔ OneLine s ∧ OneLine t := by
  simp [OneLine]

namespace OneLine

theorem intercalate {sep : String} (hsep : OneLine sep) {parts : List String} (h : ∀ part ∈ parts, OneLine part) :
    OneLine (sep.intercalate parts) := by
  induction parts with
  | nil => simp [OneLine]
  | cons first rest ih =>
    rw [List.forall_mem_cons] at h
    cases rest with
    | nil => simpa using h.1
    | cons second rest =>
      rw [String.intercalate_cons_cons]
      simp [hsep, h.1, ih h.2]

theorem append_step {indent : String} (h : OneLine indent) : OneLine (indent ++ indentStep) :=
  oneLine_append_iff.2 ⟨h, by decide⟩

theorem of_mem_split {sep : Char} {s piece : String} (h : OneLine s) (hpiece : piece ∈ Text.split sep s) :
    OneLine piece :=
  fun hmem => h ((Text.infix_of_mem_split hpiece).subset hmem)

theorem lowerFirst {s : String} (h : OneLine s) : OneLine (Text.lowerFirst s) := by
  have hbreak : Text.BeforeDigits '\n' := by decide
  unfold OneLine at h
  unfold OneLine Text.lowerFirst
  cases hs : s.toList with
  | nil => decide
  | cons c cs =>
    rw [hs, List.mem_cons, not_or] at h
    rw [String.toList_ofList, List.mem_append, not_or]
    exact ⟨fun hmem => h.1 (hbreak.eq_of_mem_lowerChar hmem).symm, h.2⟩

theorem packageName {namespaceName : String} (h : OneLine namespaceName) : OneLine (Package.name namespaceName) :=
  Package.not_mem_name (by decide) (by decide) h

theorem ofInt (n : Int) : OneLine n.repr :=
  Text.not_mem_toList_toString_int n (by decide) (by decide)

/-! ## Paths -/

theorem pathText {file : Path} (h : ∀ part ∈ file.parts, OneLine part) : OneLine file.toString := by
  have hparts : OneLine ("/".intercalate file.parts) := intercalate (by decide) h
  have hroot : ∀ root : Path.Root, OneLine root.text := by
    rintro (_ | _ | _) <;> decide
  unfold Path.toString
  split
  · exact oneLine_append_iff.2 ⟨hroot _, hparts⟩
  · split
    · decide
    · exact hparts

theorem of_mem_ofString {s : String} (h : OneLine s) : ∀ part ∈ (Path.ofString s).parts, OneLine part :=
  fun _ hpart hmem => h (Path.mem_of_mem_parts_ofString hpart hmem)

theorem layoutFile {name : String} (h : OneLine name) (layout : Layout) : OneLine (layout.file name).toString := by
  refine pathText fun part hpart => ?_
  have hending : OneLine Layout.ending := by decide
  cases layout with
  | flat => exact of_mem_ofString (oneLine_append_iff.2 ⟨h.packageName, hending⟩) part hpart
  | nested =>
    obtain ⟨folders, stem, hsplit, hfile⟩ := Layout.exists_fileOfPackage_nested (Package.name name)
    rw [Layout.file, hfile] at hpart
    have hpieces : ∀ piece ∈ folders ++ [stem], OneLine piece := fun piece hpiece =>
      h.packageName.of_mem_split (hsplit ▸ hpiece)
    rcases Path.mem_parts_foldl_join hpart with hpart | ⟨q, hq, hpart⟩
    · cases hpart
    · rcases List.mem_append.1 hq with hq | hq
      · obtain ⟨folder, hfolder, rfl⟩ := List.mem_map.1 hq
        exact of_mem_ofString (hpieces folder (List.mem_append_left _ hfolder)) part hpart
      · rw [List.mem_singleton.1 hq] at hpart
        exact of_mem_ofString (oneLine_append_iff.2 ⟨hpieces stem (by simp), hending⟩) part hpart

end OneLine

/-! ## Blocks -/

/-- A field's line whose texts are on one line. -/
def FieldLine.IsOneLine (f : FieldLine) : Prop :=
  OneLine f.type ∧ OneLine f.name

/-- A block whose texts are each on one line. -/
inductive Block.IsOneLined : Block → Prop
  | enumeration {e : EnumBlock} (horigin : OneLine e.origin) (hname : OneLine e.name)
      (hvalues : ∀ v ∈ e.values, OneLine v.name) : IsOneLined (.enumeration e)
  | message {origin name : String} {nested : List Block} {before group after : List FieldLine}
      (horigin : OneLine origin) (hname : OneLine name) (hnested : ∀ b ∈ nested, IsOneLined b)
      (hfields : ∀ f ∈ before ++ group ++ after, f.IsOneLine) :
      IsOneLined (.message origin name nested before group after)

section Blocks

variable {references : Bool} {indent : String}

theorem FieldLine.IsOneLine.text {f : FieldLine} (h : f.IsOneLine) (hindent : OneLine indent) :
    OneLine (f.text indent) := by
  have hrepeated : OneLine (if f.repeated then "repeated " else "") := by split <;> decide
  have hunpacked : OneLine (if f.unpacked then " [packed=false]" else "") := by split <;> decide
  simp +decide [FieldLine.text, hindent, hrepeated, h.1, h.2, OneLine.ofInt, hunpacked]

theorem oneLine_of_mem_originLines {origin : String} (horigin : OneLine origin) (hindent : OneLine indent) :
    ∀ line ∈ originLines references indent origin, OneLine line := by
  unfold originLines
  split
  · simp +decide [hindent, horigin]
  · simp

theorem oneLine_of_mem_enumLines {e : EnumBlock} (horigin : OneLine e.origin) (hname : OneLine e.name)
    (hvalues : ∀ v ∈ e.values, OneLine v.name) (hindent : OneLine indent) :
    ∀ line ∈ e.lines references indent, OneLine line := by
  have hvalue : ∀ v ∈ e.values, OneLine (e.valueLine (indent ++ indentStep) v) := by
    intro v hv
    simp +decide [EnumBlock.valueLine, hindent, hname, hvalues v hv, OneLine.ofInt]
  have halias : ∀ line ∈ (if e.aliased then [indent ++ indentStep ++ "option allow_alias = true;"] else []),
      OneLine line := by
    split
    · simp +decide [hindent]
    · simp
  simp only [EnumBlock.lines, List.forall_mem_append, List.forall_mem_map]
  refine ⟨⟨⟨⟨oneLine_of_mem_originLines horigin hindent, ?_⟩, halias⟩, hvalue⟩, ?_⟩
  · simp +decide [hindent, hname]
  · simp +decide [hindent]

theorem oneLine_of_mem_groupLines {group : List FieldLine} (h : ∀ f ∈ group, f.IsOneLine) (hindent : OneLine indent) :
    ∀ line ∈ groupLines indent group, OneLine line := by
  unfold groupLines
  split
  · simp
  · simp only [List.forall_mem_append, List.forall_mem_map]
    refine ⟨⟨?_, fun f hf => (h f hf).text hindent.append_step⟩, ?_⟩
    · simp +decide [hindent]
    · simp +decide [hindent]

/-- A block whose texts are each on one line has lines without line breaks. -/
theorem Block.IsOneLined.lines {b : Block} (hb : b.IsOneLined) (hindent : OneLine indent) :
    ∀ line ∈ b.lines references indent, OneLine line := by
  induction hb generalizing indent with
  | enumeration horigin hname hvalues => exact oneLine_of_mem_enumLines horigin hname hvalues hindent
  | @message origin name nested before group after horigin hname _ hfields ih =>
    simp only [List.forall_mem_append] at hfields
    obtain ⟨⟨hbefore, hgroup⟩, hafter⟩ := hfields
    have hinner := hindent.append_step
    simp only [Block.lines, Block.linesAll_eq_flatMap, List.forall_mem_append, List.forall_mem_map,
      List.forall_mem_flatMap]
    refine ⟨⟨⟨⟨⟨⟨oneLine_of_mem_originLines horigin hindent, ?_⟩, fun b hb => ih b hb hinner⟩,
      fun f hf => (hbefore f hf).text hinner⟩, oneLine_of_mem_groupLines hgroup hinner⟩,
      fun f hf => (hafter f hf).text hinner⟩, ?_⟩
    · simp +decide [hindent, hname]
    · simp +decide [hindent]

end Blocks

/-! ## Declarations -/

/-- A document whose texts are each on one line. -/
def Json.IsOneLined (j : Json) : Prop :=
  ∀ s ∈ j.texts, OneLine s

instance : DecidablePred Json.IsOneLined :=
  fun j => inferInstanceAs (Decidable (∀ s ∈ j.texts, OneLine s))

namespace Json

@[simp] theorem isOneLined_string_iff {s : String} : (Json.string s).IsOneLined ↔ OneLine s := by
  simp [IsOneLined, texts]

@[simp] theorem isOneLined_array_iff {items : List Json} :
    (Json.array items).IsOneLined ↔ ∀ j ∈ items, j.IsOneLined := by
  unfold IsOneLined
  rw [texts]
  induction items with
  | nil => simp [textsOfItems]
  | cons item items ih => rw [textsOfItems, List.forall_mem_append, List.forall_mem_cons, ih]

@[simp] theorem isOneLined_object_iff {members : List (String × Json)} :
    (Json.object members).IsOneLined ↔ ∀ m ∈ members, m.2.IsOneLined := by
  unfold IsOneLined
  rw [texts]
  induction members with
  | nil => simp [textsOfMembers]
  | cons member members ih => rw [textsOfMembers, List.forall_mem_append, List.forall_mem_cons, ih]

end Json

theorem Field.isOneLine_line {f : Field} (h : f.toJson.IsOneLined) (scope : Scope) (inGroup : Bool) :
    (f.line scope inGroup).IsOneLine := by
  simp only [Field.toJson, Json.isOneLined_object_iff, List.forall_mem_cons, Json.isOneLined_string_iff] at h
  obtain ⟨hname, hword, hreference, -⟩ := h
  refine ⟨?_, hname.lowerFirst⟩
  rw [Field.line]
  cases htype : f.type with
  | scalar s => rwa [htype] at hword
  | reference r =>
    rw [htype, FieldType.referenceJson, Reference.toJson] at hreference
    simp only [Json.isOneLined_object_iff, List.forall_mem_cons, Json.isOneLined_string_iff] at hreference
    obtain ⟨howner, hpath, -⟩ := hreference
    rw [FieldType.text, Reference.text]
    split
    · rw [relativeTo_eq_drop]
      exact .intercalate (by decide) fun part hpart => hpath.of_mem_split (List.mem_of_mem_drop hpart)
    · simp +decide [howner.packageName, hpath]

theorem Enumeration.isOneLined_outline {e : Enumeration} (h : e.toJson.IsOneLined) :
    (Block.enumeration e.outline).IsOneLined := by
  simp only [Enumeration.toJson, Json.isOneLined_object_iff, List.forall_mem_cons, Json.isOneLined_string_iff,
    Json.isOneLined_array_iff, List.forall_mem_map] at h
  obtain ⟨-, hname, horigin, hvalues, -⟩ := h
  have hvalue : ∀ v ∈ e.values, OneLine v.name := by
    intro v hv
    have hv := hvalues v hv
    simp only [EnumValue.toJson, Json.isOneLined_object_iff, List.forall_mem_cons, Json.isOneLined_string_iff] at hv
    exact hv.1
  refine .enumeration horigin hname fun v hv => ?_
  rw [e.values_outline_perm.mem_iff, Enumeration.completed] at hv
  split at hv
  · exact hvalue v hv
  · rcases List.mem_cons.1 hv with rfl | hv
    · simp +decide [Enumeration.extraZero, hname]
    · exact hvalue v hv

theorem Message.isOneLine_fieldLines {m : Message} (h : ∀ f ∈ m.fields, f.toJson.IsOneLined) (scope : Scope) :
    ∀ l ∈ (m.outline scope).fieldLines, l.IsOneLine := by
  intro l hl
  rw [(Message.fieldLines_outline_perm scope m).mem_iff, List.mem_append, List.mem_map, List.mem_map] at hl
  have hall : ∀ f, f ∈ m.grouping.group ∨ f ∈ m.grouping.flat → f ∈ m.fields := fun f hf =>
    m.grouping_perm.mem_iff.1 (List.mem_append.2 hf)
  rcases hl with ⟨f, hf, rfl⟩ | ⟨f, hf, rfl⟩
  · exact Field.isOneLine_line (h f (hall f (.inl hf))) _ _
  · exact Field.isOneLine_line (h f (hall f (.inr hf))) _ _

mutual

theorem Message.isOneLined_outline (m : Message) (h : m.toJson.IsOneLined) (scope : Scope) :
    (m.outline scope).IsOneLined := by
  match m with
  | ⟨name, origin, fields, nested, isPrivate⟩ =>
    simp only [Message.toJson, Declaration.toJsons_eq_map, Json.isOneLined_object_iff, List.forall_mem_cons,
      Json.isOneLined_string_iff, Json.isOneLined_array_iff, List.forall_mem_map] at h
    obtain ⟨-, hname, horigin, hfields, hnested, -⟩ := h
    have hlines := Message.isOneLine_fieldLines (m := ⟨name, origin, fields, nested, isPrivate⟩) hfields scope
    have hchildren :
        ∀ b ∈ (Message.outline scope ⟨name, origin, fields, nested, isPrivate⟩).children, b.IsOneLined := by
      intro b hb
      obtain ⟨d, hd, -, rfl⟩ := Message.mem_children_outline.1 hb
      exact Declaration.isOneLined_outline_of_mem nested hnested (scope.enter name) d hd
    rw [Message.outline_eq] at hlines hchildren ⊢
    exact .message horigin hname hchildren hlines
termination_by structural m

theorem Declaration.isOneLined_outline (d : Declaration) (h : d.toJson.IsOneLined) (scope : Scope) :
    (d.outline scope).IsOneLined := by
  match d with
  | .message m => exact Message.isOneLined_outline m h scope
  | .enumeration e => exact Enumeration.isOneLined_outline h
termination_by structural d

theorem Declaration.isOneLined_outline_of_mem (ds : List Declaration) (h : ∀ d ∈ ds, d.toJson.IsOneLined)
    (scope : Scope) : ∀ d ∈ ds, (d.outline scope).IsOneLined := by
  match ds with
  | [] => simp
  | d :: rest =>
    rw [List.forall_mem_cons] at h ⊢
    exact ⟨Declaration.isOneLined_outline d h.1 scope, Declaration.isOneLined_outline_of_mem rest h.2 scope⟩
termination_by structural ds

end

/-! ## Files -/

theorem oneLine_of_mem_headerLines {name : String} (h : OneLine name) :
    ∀ line ∈ headerLines (some name), OneLine line := by
  simp +decide [headerLines, h.packageName]

theorem oneLine_of_mem_importLines {files : List Path} (h : ∀ file ∈ files, OneLine file.toString) :
    ∀ line ∈ importLines files, OneLine line := by
  rw [importLines, List.forall_mem_append]
  constructor
  · intro line hline
    obtain ⟨text, htext, rfl⟩ := List.mem_map.1 hline
    obtain ⟨file, hfile, rfl⟩ := List.mem_map.1 (Text.mem_sortByName.1 htext)
    simp +decide [h file hfile]
  · simp +decide

/-- If the texts of a namespace, and of the files of all namespaces, are each on one line, no line of its file holds
    a line break. -/
theorem Namespace.oneLine_of_mem_unit {n : Namespace} (h : n.toJson.IsOneLined) {files : List (String × Path)}
    (hfiles : ∀ placed ∈ files, OneLine placed.2.toString) (references : Bool) :
    ∀ line ∈ (n.unit references files).lines, OneLine line := by
  simp only [Namespace.toJson, Json.isOneLined_object_iff, List.forall_mem_cons, Json.isOneLined_string_iff,
    Json.isOneLined_array_iff, List.forall_mem_map] at h
  obtain ⟨hname, hmessages, henumerations, -⟩ := h
  have himports : ∀ file ∈ n.importFiles files, OneLine file.toString := by
    intro file hfile
    obtain ⟨owner, -, hlookup⟩ := List.mem_filterMap.1 hfile
    obtain ⟨before, after, rfl, -⟩ := List.lookup_eq_some_iff.1 hlookup
    exact hfiles (owner, file) (by simp)
  have htypes : ∀ d ∈ n.publicTypes, d.toJson.IsOneLined := by
    intro d hd
    rcases List.mem_append.1 (List.mem_of_mem_filter hd) with hd | hd
    · obtain ⟨e, he, rfl⟩ := List.mem_map.1 hd
      exact henumerations e he
    · obtain ⟨m, hm, rfl⟩ := List.mem_map.1 hd
      exact hmessages m hm
  simp only [Namespace.unit, renderBlocks, Namespace.unitBlocks, Declaration.outlines_eq_map,
    Block.linesAll_eq_flatMap, List.forall_mem_append, List.forall_mem_flatMap, List.forall_mem_map]
  refine ⟨⟨oneLine_of_mem_headerLines hname, oneLine_of_mem_importLines himports⟩, fun d hd => ?_⟩
  rw [Declaration.interleaved, Text.mem_sortByName] at hd
  exact (Declaration.isOneLined_outline d (htypes d hd) _).lines (by decide)

/-- In a program whose texts are each on one line, the files of all namespaces have lines without line breaks. -/
theorem Program.oneLine_of_mem_unit {p : Program} (h : p.toJson.IsOneLined) (s : Settings) {n : Namespace}
    (hn : n ∈ p.namespaces) : ∀ line ∈ (n.unit s.references (p.files s)).lines, OneLine line := by
  simp only [Program.toJson, Json.isOneLined_object_iff, List.forall_mem_cons, Json.isOneLined_array_iff,
    List.forall_mem_map] at h
  refine Namespace.oneLine_of_mem_unit (h.1 n hn) ?_ _
  simp only [Program.files, Program.namespaceNames, List.map_map, List.forall_mem_map]
  intro m hm
  have hm := h.1 m hm
  simp only [Namespace.toJson, Json.isOneLined_object_iff, List.forall_mem_cons, Json.isOneLined_string_iff] at hm
  exact hm.1.layoutFile _

/-- Lines without line breaks come back from the text that they make, with what stands after the last line break. -/
theorem Rendered.split_text {r : Rendered} (h : ∀ line ∈ r.lines, OneLine line) :
    Text.split '\n' r.text = r.lines ++ [""] := by
  rw [Rendered.text]
  generalize r.lines = lines at h ⊢
  induction lines with
  | nil => decide
  | cons line lines ih =>
    rw [List.forall_mem_cons] at h
    rw [List.map_cons, String.join_cons]
    exact (Text.split_append h.1 _).trans (congrArg (line :: ·) (ih h.2))

end ProtoEmit
