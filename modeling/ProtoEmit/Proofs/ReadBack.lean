/-
  Reading a message back from its lines.

  The lines of a block take the reader from any stack of open blocks to the same stack with the shape of the
  block put in. A message whose names are identifiers therefore comes back with its whole structure, nested types
  and fields included, and its lines determine that structure up to the order of the declarations.
-/

import Mathlib
import ProtoEmit.Proofs.Identifier
import ProtoEmit.Proofs.Shapes

namespace ProtoEmit

/-! ## Reading the parts of a block -/

section Parts

variable {indent : String} (hindent : IsTabs indent)

include hindent

theorem readLines_valueLines {e : EnumBlock} (hname : IsToken e.name) {values : List EnumValue}
    (hvalues : ∀ v ∈ values, IsToken v.name) (before : List EnumValue) (outer : List Frame) :
    readLines (.enumeration e.name before :: outer) (values.map (e.valueLine indent)) =
      some (.enumeration e.name (before ++ values) :: outer) := by
  induction values generalizing before with
  | nil => rw [List.map_nil, readLines_nil, List.append_nil]
  | cons v values ih =>
    rw [List.forall_mem_cons] at hvalues
    rw [List.map_cons, readLines_cons, readLine_valueLine hindent hname hvalues.1, Option.bind_some, ih hvalues.2]
    simp

theorem readLines_texts {lines : List FieldLine} (hlines : ∀ f ∈ lines, f.IsPlain) (name : String) (nested : List Shape)
    (fields : List FieldShape) (inGroup : Bool) (outer : List Frame) :
    readLines (.message name nested fields inGroup :: outer) (lines.map (FieldLine.text indent)) =
      some (.message name nested (fields ++ lines.map (FieldLine.shape inGroup)) inGroup :: outer) := by
  induction lines generalizing fields with
  | nil => rw [List.map_nil, List.map_nil, readLines_nil, List.append_nil]
  | cons f lines ih =>
    rw [List.forall_mem_cons] at hlines
    rw [List.map_cons, readLines_cons, readLine_text hindent hlines.1, Option.bind_some, ih hlines.2]
    simp [FieldLine.shape]

/-- The block of the alternatives only adds fields to the message around it. -/
theorem readLines_groupLines {group : List FieldLine} (hgroup : ∀ f ∈ group, f.IsPlain) (name : String)
    (nested : List Shape) (fields : List FieldShape) (outer : List Frame) :
    readLines (.message name nested fields false :: outer) (groupLines indent group) =
      some (.message name nested (fields ++ group.map (FieldLine.shape true)) false :: outer) := by
  unfold groupLines
  cases group with
  | nil => simp [readLines_nil]
  | cons f group =>
    rw [if_neg (by simp), readLines_append, readLines_append, readLines_cons, readLine_openGroup hindent,
      Statement.run, Option.bind_some, readLines_nil, Option.bind_some,
      readLines_texts hindent.append_step hgroup, Option.bind_some, readLines_cons, readLine_close hindent]
    rfl

/-- After its last line a block is put into the one around it. -/
theorem readLines_end (frames : List Frame) :
    readLines frames [indent ++ "\x7d", ""] = Statement.close.run frames := by
  rw [readLines_cons, readLine_close hindent]
  cases Statement.close.run frames with
  | none => rfl
  | some frames' => rw [Option.bind_some, readLines_cons, readLine_blank, Option.bind_some, readLines_nil]

end Parts

/-! ## Reading a block -/

/-- A block all of whose names are single words. -/
inductive Block.IsPlain : Block → Prop
  | enumeration {e : EnumBlock} (hname : IsToken e.name) (hvalues : ∀ v ∈ e.values, IsToken v.name) :
      IsPlain (.enumeration e)
  | message {origin name : String} {nested : List Block} {before group after : List FieldLine} (hname : IsToken name)
      (hnested : ∀ b ∈ nested, IsPlain b) (hfields : ∀ f ∈ before ++ group ++ after, f.IsPlain) :
      IsPlain (.message origin name nested before group after)

theorem readLines_enumLines {indent : String} (hindent : IsTabs indent) {e : EnumBlock} (hname : IsToken e.name)
    (hvalues : ∀ v ∈ e.values, IsToken v.name) (frames : List Frame) :
    readLines frames (e.lines false indent) = putShape (.enumeration e.name e.values) frames := by
  have halias : readLines (.enumeration e.name [] :: frames)
      (if e.aliased then [indent ++ indentStep ++ "option allow_alias = true;"] else []) =
        some (.enumeration e.name [] :: frames) := by
    split
    · rw [readLines_cons, readLine_allowAlias hindent.append_step]
      rfl
    · rfl
  simp only [EnumBlock.lines, originLines, Bool.false_and, Bool.false_eq_true, if_false, List.nil_append,
    readLines_append]
  rw [readLines_cons, readLine_openEnumeration hindent hname, Option.bind_some, readLines_nil, Option.bind_some,
    halias, Option.bind_some, readLines_valueLines hindent.append_step hname hvalues, Option.bind_some,
    List.nil_append, readLines_end hindent]
  rfl

/-- Blocks that are each read as their shapes are read one after the other into the message around them. -/
theorem readLines_linesAll {indent : String} {bs : List Block}
    (h : ∀ b ∈ bs, ∀ frames, readLines frames (b.lines false indent) = putShape b.shape frames) (name : String)
    (nested : List Shape) (fields : List FieldShape) (outer : List Frame) :
    readLines (.message name nested fields false :: outer) (Block.linesAll false indent bs) =
      some (.message name (nested ++ Block.shapes bs) fields false :: outer) := by
  induction bs generalizing nested with
  | nil => rw [Block.linesAll, Block.shapes, readLines_nil, List.append_nil]
  | cons b bs ih =>
    rw [List.forall_mem_cons] at h
    rw [Block.linesAll, readLines_append, h.1, putShape, Option.bind_some, ih h.2, Block.shapes]
    simp

/-- From any stack, the lines of a block put in its shape. -/
theorem Block.IsPlain.readLines_lines {b : Block} (hb : b.IsPlain) {indent : String} (hindent : IsTabs indent)
    (frames : List Frame) : readLines frames (b.lines false indent) = putShape b.shape frames := by
  -- the induction goes over all stacks, since nested blocks are read while the message is open
  induction hb generalizing indent frames with
  | enumeration hname hvalues => exact readLines_enumLines hindent hname hvalues frames
  | @message origin name nested before group after hname _ hfields ih =>
    simp only [List.forall_mem_append] at hfields
    obtain ⟨⟨hbefore, hgroup⟩, hafter⟩ := hfields
    have hinner : IsTabs (indent ++ indentStep) := hindent.append_step
    simp only [Block.lines, originLines, Bool.false_and, Bool.false_eq_true, if_false, List.nil_append,
      readLines_append]
    rw [readLines_cons, readLine_openMessage hindent hname, Option.bind_some, readLines_nil, Option.bind_some,
      readLines_linesAll (fun b hb frames => ih b hb hinner frames), Option.bind_some,
      readLines_texts hinner hbefore, Option.bind_some, readLines_groupLines hinner hgroup, Option.bind_some,
      readLines_texts hinner hafter, Option.bind_some, readLines_end hindent]
    rfl

theorem Block.IsPlain.readShape_lines {b : Block} (hb : b.IsPlain) : readShape (b.lines false "") = some b.shape := by
  have htabs : IsTabs "" := by simp [IsTabs]
  rw [readShape, hb.readLines_lines htabs]
  rfl

/-! ## Messages with plain names -/

/-- A field with identifiers for its name and in its type. -/
def Field.IsPlain (f : Field) : Prop :=
  IsIdentifier f.name ∧ f.type.IsPlain

/-- An enumeration with identifiers for its name and its values' names. -/
def Enumeration.IsPlain (e : Enumeration) : Prop :=
  IsIdentifier e.name ∧ ∀ v ∈ e.values, IsIdentifier v.name

/-- What plainness asks of a declaration itself; a message is asked among the messages. -/
def Declaration.IsPlainType : Declaration → Prop
  | .message _ => True
  | .enumeration e => e.IsPlain

/-- A message whose own names, and those of its fields and enumerations, are identifiers. -/
def Message.HasPlainNames (m : Message) : Prop :=
  IsIdentifier m.name ∧ (∀ f ∈ m.fields, f.IsPlain) ∧ ∀ d ∈ m.nested, d.IsPlainType

/-- A message all of whose names, at any depth, are identifiers. -/
def Message.IsPlain (m : Message) : Prop :=
  ∀ c ∈ m.all, c.HasPlainNames

instance : DecidablePred Field.IsPlain :=
  fun _ => inferInstanceAs (Decidable (_ ∧ _))

instance : DecidablePred Enumeration.IsPlain :=
  fun _ => inferInstanceAs (Decidable (_ ∧ _))

instance : DecidablePred Declaration.IsPlainType
  | .message _ => inferInstanceAs (Decidable True)
  | .enumeration e => inferInstanceAs (Decidable e.IsPlain)

instance : DecidablePred Message.HasPlainNames :=
  fun _ => inferInstanceAs (Decidable (_ ∧ _ ∧ _))

instance : DecidablePred Message.IsPlain :=
  fun m => inferInstanceAs (Decidable (∀ c ∈ m.all, c.HasPlainNames))

theorem Field.IsPlain.line {f : Field} (h : f.IsPlain) (scope : Scope) (inGroup : Bool) :
    (f.line scope inGroup).IsPlain := by
  refine ⟨h.2.isToken_text scope, h.1.lowerFirst.isToken, ?_⟩
  intro hunpacked
  simp only [Field.line, Bool.and_eq_true] at hunpacked
  exact hunpacked.1.2

theorem Enumeration.IsPlain.outline {e : Enumeration} (h : e.IsPlain) : (Block.enumeration e.outline).IsPlain := by
  refine .enumeration h.1.isToken ?_
  intro v hv
  rw [e.values_outline_perm.mem_iff, Enumeration.completed] at hv
  split at hv
  · exact (h.2 v hv).isToken
  · rcases List.mem_cons.1 hv with rfl | hv
    · exact h.1.isToken.append (by decide)
    · exact (h.2 v hv).isToken

/-- The lines of a message's fields are plain, those of the alternatives and the others. -/
theorem Message.HasPlainNames.fieldLines {m : Message} (h : m.HasPlainNames) (scope : Scope) :
    ∀ f ∈ (m.outline scope).fieldLines, f.IsPlain := by
  intro f hf
  rw [(Message.fieldLines_outline_perm scope m).mem_iff, List.mem_append, List.mem_map, List.mem_map] at hf
  have hall : ∀ g, g ∈ m.grouping.group ∨ g ∈ m.grouping.flat → g ∈ m.fields := by
    intro g hg
    exact (takeFields_perm (markedNames m.nested) m.fields).mem_iff.1 (List.mem_append.2 hg)
  rcases hf with ⟨g, hg, rfl⟩ | ⟨g, hg, rfl⟩
  · exact (h.2.1 g (hall g (.inl hg))).line _ _
  · exact (h.2.1 g (hall g (.inr hg))).line _ _

mutual

theorem Message.IsPlain.outline {m : Message} (h : m.IsPlain) (scope : Scope) : (m.outline scope).IsPlain := by
  match m with
  | ⟨name, origin, fields, nested, isPrivate⟩ =>
    rw [Message.IsPlain, Message.all, List.forall_mem_cons] at h
    obtain ⟨hown, hmessages⟩ := h
    have hfields := hown.fieldLines scope
    have hchildren : ∀ b ∈ (Message.outline scope ⟨name, origin, fields, nested, isPrivate⟩).children, b.IsPlain := by
      intro b hb
      obtain ⟨d, hd, -, rfl⟩ := Message.mem_children_outline.1 hb
      exact Declaration.isPlain_outline_of_mem hmessages hown.2.2 (scope.enter name) d hd
    rw [Message.outline_eq] at hfields hchildren ⊢
    exact .message hown.1.isToken hchildren hfields
termination_by structural m

theorem Declaration.isPlain_outline {d : Declaration} (h : ∀ c ∈ d.messages, c.HasPlainNames) (htype : d.IsPlainType)
    (scope : Scope) : (d.outline scope).IsPlain := by
  match d with
  | .message m => exact Message.IsPlain.outline h scope
  | .enumeration e => exact Enumeration.IsPlain.outline htype
termination_by structural d

theorem Declaration.isPlain_outline_of_mem {ds : List Declaration}
    (h : ∀ c ∈ Declaration.allMessages ds, c.HasPlainNames) (htypes : ∀ d ∈ ds, d.IsPlainType) (scope : Scope) :
    ∀ d ∈ ds, (d.outline scope).IsPlain := by
  match ds with
  | [] => simp
  | d :: rest =>
    rw [Declaration.allMessages, List.forall_mem_append] at h
    rw [List.forall_mem_cons] at htypes ⊢
    exact ⟨Declaration.isPlain_outline h.1 htypes.1 scope,
      Declaration.isPlain_outline_of_mem h.2 htypes.2 scope⟩
termination_by structural ds

end

/-- A message with plain names is read back from its lines with its whole structure; so two of them with the same
    lines have the same structure, up to the order of their declarations. -/
theorem Message.structure_read_back {m m' : Message} (hm : m.IsPlain) (hm' : m'.IsPlain) (scope scope' : Scope) :
    (∃ s, readShape ((m.outline scope).lines false "") = some s ∧ s.Same (m.shape scope))
      ∧ ((m.outline scope).lines false "" = (m'.outline scope').lines false "" →
          (m.shape scope).Same (m'.shape scope')) := by
  have hread := (hm.outline scope).readShape_lines
  refine ⟨⟨_, hread, m.same_shape_outline scope⟩, ?_⟩
  intro hlines
  -- equal lines are read as one shape, which both messages have
  have hread' := (hm'.outline scope').readShape_lines
  rw [← hlines, hread, Option.some.injEq] at hread'
  have hsame := m'.same_shape_outline scope'
  rw [← hread'] at hsame
  exact (m.same_shape_outline scope).symm.trans hsame

section Payment

-- Lower-casing a package name runs through long tables.
set_option maxRecDepth 2000

/-- A message with alternatives, an enumeration without zero and a nested message. -/
def payment : Message where
  name := "Payment"
  fields :=
    [⟨"Cards", .reference ⟨"Shop.Money", "Card"⟩, ⟨.repeated, 4, false⟩⟩,
      ⟨"State", .reference ⟨"Shop", "Payment.State"⟩, ⟨.singular, 2, true⟩⟩,
      ⟨"Note", .scalar .string, ⟨.singular, 3, true⟩⟩]
  nested :=
    [.message { name := "Bank", fields := [⟨"Code", .scalar .int32, ⟨.singular, -1, true⟩⟩] },
      .enumeration { name := "MessageOneofCase", values := [⟨"Cards", 0⟩, ⟨"Note", 1⟩] },
      .enumeration { name := "State", values := [⟨"Paid", 2⟩, ⟨"Open", 1⟩] }]

/-- The same message, declared in another order. -/
def paymentReordered : Message where
  name := "Payment"
  fields :=
    [⟨"Note", .scalar .string, ⟨.singular, 3, true⟩⟩,
      ⟨"State", .reference ⟨"Shop", "Payment.State"⟩, ⟨.singular, 2, true⟩⟩,
      ⟨"Cards", .reference ⟨"Shop.Money", "Card"⟩, ⟨.repeated, 4, false⟩⟩]
  nested :=
    [.enumeration { name := "State", values := [⟨"Open", 1⟩, ⟨"Paid", 2⟩] },
      .enumeration { name := "MessageOneofCase", values := [⟨"Note", 1⟩, ⟨"Cards", 0⟩] },
      .message { name := "Bank", fields := [⟨"Code", .scalar .int32, ⟨.singular, -1, true⟩⟩] }]

theorem payment_read_back :
    payment.IsPlain ∧ paymentReordered.IsPlain
      ∧ (∃ s, readShape ((payment.outline ⟨"Shop", []⟩).lines false "") = some s ∧ s.Same (payment.shape ⟨"Shop", []⟩))
      ∧ (payment.outline ⟨"Shop", []⟩).lines false "" = (paymentReordered.outline ⟨"Shop", []⟩).lines false ""
      ∧ (payment.shape ⟨"Shop", []⟩).Same (paymentReordered.shape ⟨"Shop", []⟩) := by
  have hplain : payment.IsPlain := by decide +kernel
  have hplain' : paymentReordered.IsPlain := by decide +kernel
  have hlines : (payment.outline ⟨"Shop", []⟩).lines false "" =
      (paymentReordered.outline ⟨"Shop", []⟩).lines false "" := by
    cbv
  obtain ⟨hread, hsame⟩ := Message.structure_read_back hplain hplain' ⟨"Shop", []⟩ ⟨"Shop", []⟩
  exact ⟨hplain, hplain', hread, hlines, hsame hlines⟩

end Payment

end ProtoEmit
