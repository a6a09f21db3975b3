/-
  Programs and their documents.

  The document of a program has every member written out, each under a key of its own and in a form that its decoder
  takes as it is. So it reads back to the same program, at any depth of nesting, if only the names that must not be
  empty are not. Decoding accepts no other programs, so whatever was accepted once is accepted again and unchanged.
-/

import ProtoEmit.Proofs.Decoding
import ProtoEmit.Proofs.Nesting

namespace ProtoEmit

open Decoder

/-! ## Names -/

/-- A message whose fields have names, and so on down. -/
def Message.HasNames (m : Message) : Prop :=
  ∀ c ∈ m.all, ∀ f ∈ c.fields, f.name ≠ ""

/-- A namespace with a name, whose messages have names for their fields. -/
def Namespace.HasNames (n : Namespace) : Prop :=
  n.name ≠ "" ∧ ∀ m ∈ n.messages, m.HasNames

/-- A program without empty names of namespaces and fields. -/
def Program.HasNames (p : Program) : Prop :=
  ∀ n ∈ p.namespaces, n.HasNames

theorem Message.hasNames_iff {m : Message} :
    m.HasNames ↔ (∀ f ∈ m.fields, f.name ≠ "") ∧ ∀ c, .message c ∈ m.nested → c.HasNames := by
  simp only [HasNames, mem_all_iff]
  constructor
  · intro h
    exact ⟨h m ⟨_, .self m⟩, fun c hc d ⟨_, hd⟩ => h d ⟨_, .inside hc hd⟩⟩
  · rintro ⟨hfields, hnested⟩ c ⟨path, hc⟩
    cases hc with
    | self => exact hfields
    | inside hd hc => exact hnested _ hd c ⟨_, hc⟩

/-! ## Documents that are read back -/

/-- A list reads back if each of its items does. -/
theorem Decoder.list_map_toJson {α : Type} {d : Decoder α} {toJson : α → Json} {as : List α}
    (h : ∀ a ∈ as, d (toJson a) = .valid a) : Decoder.list d (.array (as.map toJson)) = .valid as := by
  refine list_eq_valid_iff.2 ⟨_, rfl, ?_⟩
  rw [List.forall₂_map_left_iff, List.forall₂_same]
  exact h

theorem Reference.decode_toJson (r : Reference) : Schema.reference r.toJson = .valid r :=
  Schema.reference_eq_valid_iff.2 ⟨_, rfl, by simp, .of_lookup rfl rfl, .of_lookup rfl rfl⟩

theorem FieldOptions.decode_toJson (o : FieldOptions) : Schema.fieldOptions o.toJson = .valid o :=
  Schema.fieldOptions_eq_valid_iff.2
    ⟨_, rfl, by simp, .of_lookup rfl (Schema.label_eq_valid_iff.2 rfl), .of_lookup rfl rfl, .of_lookup rfl rfl⟩

theorem FieldType.decode_referenceJson (type : FieldType) :
    nullable Schema.reference type.referenceJson = .valid type.parts.2 := by
  cases type with
  | scalar s => rfl
  | reference r => exact nullable_eq_valid_some_iff.2 ⟨Json.noConfusion, r.decode_toJson⟩

theorem Field.decode_toJson {f : Field} (hname : f.name ≠ "") : Schema.field f.toJson = .valid f :=
  Schema.field_eq_valid_iff.2
    ⟨_, rfl, by simp, .of_lookup rfl (name_eq_valid_iff.2 ⟨rfl, hname⟩),
      .of_lookup rfl (Schema.typeWord_eq_valid_iff.2 rfl), .of_lookup rfl f.type.decode_referenceJson,
      .of_lookup rfl f.options.decode_toJson⟩

theorem EnumValue.decode_toJson (v : EnumValue) : Schema.enumValue v.toJson = .valid v :=
  Schema.enumValue_eq_valid_iff.2 ⟨_, rfl, by simp, .of_lookup rfl rfl, .of_lookup rfl rfl⟩

theorem Enumeration.decode_toJson (e : Enumeration) : Schema.enumeration e.toJson = .valid e := by
  have hvalues := Decoder.list_map_toJson fun v (_ : v ∈ e.values) => v.decode_toJson
  exact Schema.enumeration_eq_valid_iff.2
    ⟨_, rfl, by simp, fun v h => (Option.some.inj h).symm, .of_lookup rfl rfl, .of_lookup rfl rfl,
      .of_lookup rfl hvalues, .of_lookup rfl rfl⟩

mutual

theorem Message.decode_toJson (m : Message) (h : m.HasNames) : Schema.message m.toJson = .valid m := by
  match m, h with
  | ⟨name, origin, fields, nested, isPrivate⟩, h =>
    obtain ⟨hnames, hinside⟩ := Message.hasNames_iff.1 h
    have hfields := Decoder.list_map_toJson fun f hf => Field.decode_toJson (hnames f hf)
    have hnested := list_eq_valid_iff.2 ⟨_, rfl, Declaration.decode_toJsons nested hinside⟩
    exact Schema.message_eq_valid_iff.2
      ⟨_, rfl, by simp, fun v h => (Option.some.inj h).symm, .of_lookup rfl rfl, .of_lookup rfl rfl,
        .of_lookup rfl hfields, .of_lookup rfl hnested, .of_lookup rfl rfl⟩
termination_by structural m

theorem Declaration.decode_toJson (d : Declaration) (h : ∀ c, d = .message c → c.HasNames) :
    Schema.declaration d.toJson = .valid d := by
  match d, h with
  | .message m, h =>
    -- the kind is written, so the type is read as a message again
    have hm := Message.decode_toJson m (h m rfl)
    refine Schema.declaration_eq_valid_iff.2 (.inl ⟨?_, m, hm, rfl⟩)
    cases m
    rfl
  | .enumeration e, _ => exact Schema.declaration_eq_valid_iff.2 (.inr ⟨rfl, e, e.decode_toJson, rfl⟩)
termination_by structural d

theorem Declaration.decode_toJsons (ds : List Declaration) (h : ∀ c, .message c ∈ ds → c.HasNames) :
    List.Forall₂ (fun item d => Schema.declaration item = .valid d) (Declaration.toJsons ds) ds := by
  match ds, h with
  | [], _ => exact .nil
  | d :: rest, h =>
    refine .cons (Declaration.decode_toJson d fun c hc => h c ?_)
      (Declaration.decode_toJsons rest fun c hc => h c (List.mem_cons_of_mem _ hc))
    rw [hc]
    exact List.mem_cons_self
termination_by structural ds

end

theorem Namespace.decode_toJson {n : Namespace} (h : n.HasNames) : Schema.namespaceDecl n.toJson = .valid n := by
  have hmessages := Decoder.list_map_toJson fun m hm => Message.decode_toJson m (h.2 m hm)
  have henumerations := Decoder.list_map_toJson fun e (_ : e ∈ n.enumerations) => e.decode_toJson
  exact Schema.namespaceDecl_eq_valid_iff.2
    ⟨_, rfl, by simp, .of_lookup rfl (name_eq_valid_iff.2 ⟨rfl, h.1⟩), .of_lookup rfl hmessages,
      .of_lookup rfl henumerations⟩

theorem Program.decode_toJson {p : Program} (h : p.HasNames) : Schema.program p.toJson = .valid p := by
  have hnamespaces := Decoder.list_map_toJson fun n hn => Namespace.decode_toJson (h n hn)
  exact Schema.program_eq_valid_iff.2 ⟨_, rfl, by simp, .of_lookup rfl hnamespaces⟩

/-! ## Programs that are accepted -/

/-- Every item of a list comes from a document. -/
theorem Decoder.Takes.exists_item {α : Type} {key : String} {d : Decoder α} {ms : Members} {as : List α}
    (h : Takes key (some []) (Decoder.list d) ms as) {a : α} (ha : a ∈ as) : ∃ item, d item = .valid a := by
  obtain ⟨v, -, hv⟩ | ⟨-, hnone⟩ := h
  · obtain ⟨items, -, hitems⟩ := list_eq_valid_iff.1 hv
    obtain ⟨item, -, hitem⟩ := exists_partner_of_mem hitems ha
    exact ⟨item, hitem⟩
  · rw [← Option.some.inj hnone] at ha
    cases ha

theorem Decoder.Takes.name_ne {key : String} {ms : Members} {s : String} (h : Takes key none Decoder.name ms s) :
    s ≠ "" := by
  obtain ⟨v, -, hv⟩ | ⟨-, hnone⟩ := h
  · exact (name_eq_valid_iff.1 hv).2
  · cases hnone

theorem Field.name_ne_of_decode {j : Json} {f : Field} (h : Schema.field j = .valid f) : f.name ≠ "" := by
  obtain ⟨ms, -, -, hname, -⟩ := Schema.field_eq_valid_iff.1 h
  exact hname.name_ne

mutual

theorem Message.hasNames_of_decode (m : Message) {j : Json} (h : Schema.message j = .valid m) : m.HasNames := by
  match m, h with
  | ⟨name, origin, fields, nested, isPrivate⟩, h =>
    obtain ⟨ms, -, -, -, -, -, hfields, hnested, -⟩ := Schema.message_eq_valid_iff.1 h
    have hinside := Declaration.hasNames_of_decodes nested fun d hd => hnested.exists_item hd
    refine Message.hasNames_iff.2 ⟨fun f hf => ?_, fun c hc => hinside _ hc c rfl⟩
    obtain ⟨item, hitem⟩ := hfields.exists_item hf
    exact Field.name_ne_of_decode hitem
termination_by structural m

theorem Declaration.hasNames_of_decode (d : Declaration) {j : Json} (h : Schema.declaration j = .valid d) :
    ∀ c, d = .message c → c.HasNames := by
  match d, h with
  | .message m, h =>
    rintro c ⟨⟩
    obtain ⟨-, c, hc, heq⟩ | ⟨-, e, -, heq⟩ := Schema.declaration_eq_valid_iff.1 h
    · cases heq
      exact Message.hasNames_of_decode m hc
    · cases heq
  | .enumeration e, _ =>
    intro c hc
    cases hc
termination_by structural d

theorem Declaration.hasNames_of_decodes (ds : List Declaration)
    (h : ∀ d ∈ ds, ∃ item, Schema.declaration item = .valid d) : ∀ d ∈ ds, ∀ c, d = .message c → c.HasNames := by
  match ds, h with
  | [], _ =>
    intro d hd
    cases hd
  | d :: rest, h =>
    obtain ⟨item, hitem⟩ := h d List.mem_cons_self
    rw [List.forall_mem_cons]
    exact ⟨Declaration.hasNames_of_decode d hitem,
      Declaration.hasNames_of_decodes rest fun e he => h e (List.mem_cons_of_mem _ he)⟩
termination_by structural ds

end

theorem Namespace.hasNames_of_decode {n : Namespace} {j : Json} (h : Schema.namespaceDecl j = .valid n) :
    n.HasNames := by
  obtain ⟨ms, -, -, hname, hmessages, -⟩ := Schema.namespaceDecl_eq_valid_iff.1 h
  refine ⟨hname.name_ne, fun m hm => ?_⟩
  obtain ⟨item, hitem⟩ := hmessages.exists_item hm
  exact Message.hasNames_of_decode m hitem

theorem Program.hasNames_of_decode {p : Program} {j : Json} (h : Schema.program j = .valid p) : p.HasNames := by
  obtain ⟨ms, -, -, hnamespaces⟩ := Schema.program_eq_valid_iff.1 h
  intro n hn
  obtain ⟨item, hitem⟩ := hnamespaces.exists_item hn
  exact Namespace.hasNames_of_decode hitem

end ProtoEmit
