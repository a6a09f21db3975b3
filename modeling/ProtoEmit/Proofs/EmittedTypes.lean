/-
  Which types of a namespace are declared in its text.

  A path leads to a public type, or to a type nested in an emitted message. The block of the type stands at this
  path, and its lines are one piece of the namespace's file and of its part of a dump. The marks of groups are the
  one exception: nested in a message they are left out, even if a field has one of them as its type.
-/

import ProtoEmit.Proofs.ImportAgreement

namespace ProtoEmit

/-! ## The lines of one block among the lines of many -/

/-- The indentation of what stands in so many messages. -/
def indentation : Nat → String
  | 0 => ""
  | depth + 1 => indentStep ++ indentation depth

namespace Block

variable {bs bs' : List Block} {b c : Block} {path : List String}

theorem isInfix_linesAll_of_mem (h : b ∈ bs) (references : Bool) (indent : String) :
    b.lines references indent <:+: linesAll references indent bs := by
  rw [linesAll_eq_flatMap, List.flatMap]
  exact List.infix_of_mem_flatten (List.mem_map_of_mem h)

/-- What stands in a block is one piece of its lines. -/
theorem isInfix_lines_of_children (b : Block) (references : Bool) (indent : String) :
    linesAll references (indent ++ indentStep) b.children <:+: b.lines references indent := by
  cases b with
  | enumeration e => exact List.nil_infix
  | message origin name nested before group after =>
    simp only [lines, List.append_assoc]
    rw [← List.append_assoc (originLines references indent origin)]
    exact ⟨_, _, List.append_assoc _ _ _⟩

/-- The lines of a block at any depth are one piece of all lines, indented by the blocks around it. -/
theorem At.isInfix_linesAll (h : At bs path b) (references : Bool) (indent : String) :
    b.lines references (indent ++ indentation (path.length - 1)) <:+: linesAll references indent bs := by
  induction h generalizing indent with
  | here hb => simpa [indentation] using isInfix_linesAll_of_mem hb references indent
  | @inside bs b c path hb hc ih =>
    have hlength : path.length = path.length - 1 + 1 := by cases hc <;> rfl
    have hindent : indent ++ indentation ((b.name :: path).length - 1) =
        indent ++ indentStep ++ indentation (path.length - 1) := by
      rw [List.length_cons, Nat.add_sub_cancel, hlength, indentation, String.append_assoc]
      rfl
    rw [hindent]
    exact ((ih (indent ++ indentStep)).trans (isInfix_lines_of_children b references indent)).trans
      (isInfix_linesAll_of_mem hb references indent)

/-! ## Blocks inside blocks -/

theorem At.mono (h : At bs path b) (hsub : bs ⊆ bs') : At bs' path b := by
  cases h with
  | here hb => exact .here (hsub hb)
  | inside hb hc => exact .inside (hsub hb) hc

/-- A block inside one to which a path leads is one name further. -/
theorem At.child (h : At bs path b) (hc : c ∈ b.children) : At bs (path ++ [c.name]) c := by
  induction h with
  | here hb => exact .inside hb (.here hc)
  | inside hb _ ih => exact .inside hb (ih hc)

/-- A block that stands inside another one is not that of a mark. -/
theorem At.isMark_eq_false (h : At bs path b) (hbs : ∀ b ∈ bs, ∃ (d : Declaration) (scope : Scope), d.outline scope = b)
    (hlength : 1 < path.length) : b.isMark = false := by
  induction h with
  | here => exact absurd hlength (Nat.lt_irrefl 1)
  | @inside bs b c path hb hc ih =>
    have hchildren : ∀ c ∈ b.children, ∃ (d : Declaration) (scope : Scope), d.isMark = false ∧ d.outline scope = c := by
      intro c hc
      obtain ⟨d, scope, rfl⟩ := hbs b hb
      cases d with
      | enumeration e => cases hc
      | message m =>
        obtain ⟨d, -, hmark, heq⟩ := Message.mem_children_outline.1 hc
        exact ⟨d, _, hmark, heq⟩
    by_cases hpath : 1 < path.length
    · refine ih (fun c hc => ?_) hpath
      obtain ⟨d, scope, -, heq⟩ := hchildren c hc
      exact ⟨d, scope, heq⟩
    · -- the path ends with a block right inside `b`
      cases hc with
      | here hc =>
        obtain ⟨d, scope, hmark, rfl⟩ := hchildren _ hc
        rw [Declaration.isMark_outline, hmark]
      | inside _ hd => cases hd <;> simp at hpath

end Block

/-! ## The types of a namespace -/

/-- A mark that stands in a message. -/
def Declaration.IsNestedMark (d : Declaration) (path : List String) : Prop :=
  d.isMark = true ∧ 1 < path.length

instance (d : Declaration) (path : List String) : Decidable (d.IsNestedMark path) :=
  inferInstanceAs (Decidable (_ ∧ _))

namespace Namespace

variable {n : Namespace} {path : List String} {d : Declaration}

/-- `n.Declares path d`: the names `path` lead to `d`, a public type or one that is nested in an emitted message. -/
inductive Declares (n : Namespace) : List String → Declaration → Prop
  | top {d : Declaration} (h : d ∈ n.publicTypes) : Declares n [d.name] d
  | nested {around : List String} {c : Message} {d : Declaration} (h : n.Emits around c) (hd : d ∈ c.nested) :
      Declares n (around ++ [d.name]) d

theorem Emits.exists_eq_append {c : Message} (h : n.Emits path c) : ∃ around, path = around ++ [c.name] := by
  obtain ⟨m, -, -, hreach⟩ := h
  exact hreach.exists_eq_append

/-- A type has its block at its path exactly if it is no mark in a message. -/
theorem Declares.at_outline_iff (h : n.Declares path d) :
    Block.At n.unitBlocks path (d.outline ⟨n.name, path.dropLast⟩) ↔ ¬ d.IsNestedMark path := by
  constructor
  · rintro hat ⟨hmark, hlength⟩
    have hnot := hat.isMark_eq_false (fun b hb => (mem_unitBlocks.1 hb).imp fun d hd => ⟨_, hd.2⟩) hlength
    rw [Declaration.isMark_outline, hmark] at hnot
    exact absurd hnot (by decide)
  · intro hmark
    cases h with
    | top hd =>
      have hat := Block.At.here (mem_unitBlocks.2 ⟨d, hd, rfl⟩)
      rwa [Declaration.name_outline] at hat
    | @nested around c d hc hd =>
      obtain ⟨outer, rfl⟩ := hc.exists_eq_append
      -- the path has two names at least, so the type is no mark at all
      have hplain : d.isMark = false := by
        by_contra hnot
        exact hmark ⟨by simpa using hnot, by simp⟩
      have hat := hc.at_outline.child (Message.mem_children_outline.2 ⟨d, hd, hplain, rfl⟩)
      rw [Declaration.name_outline] at hat
      rw [List.dropLast_concat] at hat ⊢
      exact hat

/-- A file and a dump show the same blocks of a namespace. -/
theorem unitBlocks_subset_dumpBlocks (n : Namespace) : n.unitBlocks ⊆ n.dumpBlocks := by
  intro b hb
  obtain ⟨d, hd, rfl⟩ := mem_unitBlocks.1 hb
  unfold dumpBlocks Declaration.grouped enumerationsFirst
  rw [Declaration.outlines_eq_map]
  refine List.mem_map_of_mem ?_
  cases hkind : d.isEnumeration <;> simp [hd, hkind]

/-- The type of a field is declared, if it is a type of the same namespace and no mark in a message.

    The field has its line in any case. The lines of the type's declaration are one piece of the namespace's file
    and of its part of a dump. -/
theorem referenced_type_declared {c : Message} {f : Field} {target : List String} (hc : n.Emits path c)
    (hf : f ∈ c.fields) (htype : f.type = .reference ⟨n.name, Text.joinDots target⟩) (hd : n.Declares target d)
    (references : Bool) (files : List (String × Path)) :
    (∃ inGroup indent,
      (f.line ⟨n.name, path⟩ inGroup).type = Reference.text ⟨n.name, Text.joinDots target⟩ ⟨n.name, path⟩ ∧
        (f.line ⟨n.name, path⟩ inGroup).text indent ∈ (n.unit references files).lines) ∧
    (Block.At n.unitBlocks target (d.outline ⟨n.name, target.dropLast⟩) ↔ ¬ d.IsNestedMark target) ∧
    (¬ d.IsNestedMark target →
      (d.outline ⟨n.name, target.dropLast⟩).lines references (indentation (target.length - 1)) <:+:
          (n.unit references files).lines ∧
        (d.outline ⟨n.name, target.dropLast⟩).lines references (indentation (target.length - 1)) <:+:
          (n.dumpSection references).lines) := by
  refine ⟨?_, hd.at_outline_iff, ?_⟩
  · obtain ⟨inGroup, indent, hline⟩ := hc.exists_text_mem_unit hf references files
    refine ⟨inGroup, indent, ?_, hline⟩
    rw [Field.line, htype, FieldType.text]
  · intro hmark
    have hat := hd.at_outline_iff.2 hmark
    -- the same block stands in a dump, whose outer blocks are those of the file in another order
    have hunit := hat.isInfix_linesAll references ""
    have hdump := (hat.mono n.unitBlocks_subset_dumpBlocks).isInfix_linesAll references ""
    rw [String.empty_append] at hunit hdump
    exact ⟨hunit.trans ⟨_, [], List.append_nil _⟩, hdump.trans ⟨_, _, rfl⟩⟩

end Namespace

/-! ## A type two messages deep, and a mark -/

/-- A line of an order, whose kind is a type of its own. -/
def orderLine : Message :=
  ⟨"Line", "", [⟨"Kind", .reference ⟨"Shop", "Order.Line.Kind"⟩, { tag := 1 }⟩],
    [.enumeration ⟨"Kind", "", [⟨"None", 0⟩], true⟩], true⟩

def orderLines : Namespace :=
  ⟨"Shop", [⟨"Order", "", [], [.message orderLine], false⟩], []⟩

theorem orderLines_kind_declared :
    orderLines.Emits ["Order", "Line"] orderLine ∧
      orderLines.Declares ["Order", "Line", "Kind"] (.enumeration ⟨"Kind", "", [⟨"None", 0⟩], true⟩) ∧
      ["\t\tenum Kind \x7b", "\t\t\tKind_None = 0;", "\t\t\x7d", ""] <:+: (orderLines.unit false []).lines := by
  have hemits : orderLines.Emits ["Order", "Line"] orderLine :=
    ⟨_, List.mem_cons_self, rfl, .inside List.mem_cons_self (.self orderLine)⟩
  have hdeclares : orderLines.Declares ["Order", "Line", "Kind"] (.enumeration ⟨"Kind", "", [⟨"None", 0⟩], true⟩) :=
    .nested hemits List.mem_cons_self
  have htype : FieldType.reference ⟨"Shop", "Order.Line.Kind"⟩ =
      .reference ⟨orderLines.name, Text.joinDots ["Order", "Line", "Kind"]⟩ := by
    decide
  obtain ⟨-, -, hdeclared⟩ := Namespace.referenced_type_declared hemits List.mem_cons_self htype hdeclares false []
  refine ⟨hemits, hdeclares, ?_⟩
  have hlines : (Declaration.outline ⟨"Shop", ["Order", "Line"]⟩ (.enumeration ⟨"Kind", "", [⟨"None", 0⟩], true⟩)).lines
      false (indentation 2) = ["\t\tenum Kind \x7b", "\t\t\tKind_None = 0;", "\t\t\x7d", ""] := by
    cbv
  rw [← hlines]
  exact (hdeclared (by decide)).1

/-- An order with a field of the type that marks its group. -/
def caseOrder : Message :=
  ⟨"Order", "", [⟨"Case", .reference ⟨"Shop", "Order.MessageOneofCase"⟩, { tag := 1 }⟩],
    [.enumeration ⟨"MessageOneofCase", "", [⟨"None", 0⟩], true⟩], false⟩

def caseOrders : Namespace :=
  ⟨"Shop", [caseOrder], []⟩

/-- The field has its line, and no declaration of its type is there. -/
theorem caseOrders_mark_not_declared :
    caseOrders.Emits ["Order"] caseOrder ∧
      caseOrders.Declares ["Order", "MessageOneofCase"]
        (.enumeration ⟨"MessageOneofCase", "", [⟨"None", 0⟩], true⟩) ∧
      Block.linesAll false "" caseOrders.unitBlocks =
        ["message Order \x7b", "\tMessageOneofCase case = 1;", "\x7d", ""] ∧
      ["Order", "MessageOneofCase"] ∉ caseOrders.typePaths := by
  have hemits : caseOrders.Emits ["Order"] caseOrder := ⟨_, List.mem_cons_self, rfl, .self caseOrder⟩
  have hpaths : caseOrders.typePaths = [["Order"]] := by cbv
  rw [hpaths]
  refine ⟨hemits, .nested hemits List.mem_cons_self, ?_, by decide⟩
  cbv

end ProtoEmit
