/-
  Paths: the names that lead from the outside to a type.

  A message of a namespace is emitted if it is public or stands, at any depth, in one that is. The names around
  it, its own last, lead to its block in the output, and the line of each of its fields is among the lines of
  the namespace's file. The paths of all blocks are the types that the output declares.
-/

import Mathlib.Data.List.Basic
import ProtoEmit.Proofs.Contents
import ProtoEmit.Unit

namespace ProtoEmit

/-! ## Paths of messages -/

/-- `m.Reaches path c`: the names `path`, that of `m` first, lead through nested messages to `c`. -/
inductive Message.Reaches : Message → List String → Message → Prop
  | self (m : Message) : Reaches m [m.name] m
  | inside {m d c : Message} {path : List String} (hd : .message d ∈ m.nested) (h : Reaches d path c) :
      Reaches m (m.name :: path) c

/-- `n.Emits path c`: message `c` stands at `path` in the output of `n`. -/
def Namespace.Emits (n : Namespace) (path : List String) (c : Message) : Prop :=
  ∃ m ∈ n.messages, m.isPrivate = false ∧ m.Reaches path c

/-- The last name of a path is that of the message that it leads to. -/
theorem Message.Reaches.exists_eq_append {m c : Message} {path : List String} (h : m.Reaches path c) :
    ∃ around, path = around ++ [c.name] := by
  induction h with
  | self m => exact ⟨[], rfl⟩
  | @inside m d c path _ _ ih =>
    obtain ⟨around, rfl⟩ := ih
    exact ⟨m.name :: around, rfl⟩

mutual

/-- The messages in a message are those to which a path leads. -/
theorem Message.mem_all_iff (m c : Message) : c ∈ m.all ↔ ∃ path, m.Reaches path c := by
  match m with
  | ⟨name, origin, fields, nested, isPrivate⟩ =>
    rw [Message.all, List.mem_cons, Declaration.mem_allMessages_iff nested c]
    constructor
    · rintro (rfl | ⟨d, hd, path, h⟩)
      · exact ⟨_, .self _⟩
      · exact ⟨_, .inside hd h⟩
    · rintro ⟨path, h⟩
      cases h with
      | self => exact .inl rfl
      | inside hd h => exact .inr ⟨_, hd, _, h⟩
termination_by structural m

theorem Declaration.mem_messages_iff (d : Declaration) (c : Message) :
    c ∈ d.messages ↔ ∃ m, d = .message m ∧ ∃ path, m.Reaches path c := by
  match d with
  | .message m =>
    rw [Declaration.messages, Message.mem_all_iff m c]
    simp
  | .enumeration e => simp [Declaration.messages]
termination_by structural d

theorem Declaration.mem_allMessages_iff (ds : List Declaration) (c : Message) :
    c ∈ Declaration.allMessages ds ↔ ∃ m, .message m ∈ ds ∧ ∃ path, m.Reaches path c := by
  match ds with
  | [] => simp [Declaration.allMessages]
  | d :: rest =>
    rw [Declaration.allMessages, List.mem_append, Declaration.mem_messages_iff d c,
      Declaration.mem_allMessages_iff rest c]
    constructor
    · rintro (⟨m, rfl, h⟩ | ⟨m, hm, h⟩)
      · exact ⟨m, List.mem_cons_self, h⟩
      · exact ⟨m, List.mem_cons_of_mem _ hm, h⟩
    · rintro ⟨m, hm, h⟩
      rcases List.mem_cons.1 hm with rfl | hm
      · exact .inl ⟨m, rfl, h⟩
      · exact .inr ⟨m, hm, h⟩
termination_by structural ds

end

/-! ## Paths of blocks -/

namespace Block

/-- `At bs path b`: the names `path` lead from the blocks `bs` through nested ones to `b`. -/
inductive At : List Block → List String → Block → Prop
  | here {bs : List Block} {b : Block} (h : b ∈ bs) : At bs [b.name] b
  | inside {bs : List Block} {b c : Block} {path : List String} (h : b ∈ bs) (hc : At b.children path c) :
      At bs (b.name :: path) c

mutual

/-- The paths of a block and of all blocks inside it. -/
def paths : Block → List (List String)
  | .enumeration e => [[e.name]]
  | .message _ name nested _ _ _ => [name] :: (pathsAll nested).map (name :: ·)
termination_by structural b => b

/-- The paths of blocks and of all blocks inside them. -/
def pathsAll : List Block → List (List String)
  | [] => []
  | b :: rest => paths b ++ pathsAll rest
termination_by structural bs => bs

end

theorem at_cons_iff {b : Block} {rest : List Block} {path : List String} {c : Block} :
    At (b :: rest) path c ↔
      (path = [b.name] ∧ b = c) ∨ (∃ below, path = b.name :: below ∧ At b.children below c) ∨ At rest path c := by
  constructor
  · intro h
    cases h with
    | here h =>
      rcases List.mem_cons.1 h with rfl | h
      · exact .inl ⟨rfl, rfl⟩
      · exact .inr (.inr (.here h))
    | inside h hc =>
      rcases List.mem_cons.1 h with rfl | h
      · exact .inr (.inl ⟨_, rfl, hc⟩)
      · exact .inr (.inr (.inside h hc))
  · rintro (⟨rfl, rfl⟩ | ⟨below, rfl, hc⟩ | h)
    · exact .here List.mem_cons_self
    · exact .inside List.mem_cons_self hc
    · cases h with
      | here h => exact .here (List.mem_cons_of_mem _ h)
      | inside h hc => exact .inside (List.mem_cons_of_mem _ h) hc

mutual

theorem mem_paths_iff (b : Block) (path : List String) :
    path ∈ b.paths ↔ path = [b.name] ∨ ∃ below, path = b.name :: below ∧ ∃ c, At b.children below c := by
  match b with
  | .enumeration e =>
    have hnone : ∀ below c, ¬ At ([] : List Block) below c := by
      intro below c h
      cases h <;> contradiction
    simp [paths, children, name, hnone]
  | .message origin name nested before group after =>
    simp only [paths, children, Block.name, List.mem_cons, List.mem_map]
    constructor
    · rintro (h | ⟨below, hbelow, rfl⟩)
      · exact .inl h
      · exact .inr ⟨below, rfl, (mem_pathsAll_iff nested below).1 hbelow⟩
    · rintro (h | ⟨below, rfl, hbelow⟩)
      · exact .inl h
      · exact .inr ⟨below, (mem_pathsAll_iff nested below).2 hbelow, rfl⟩
termination_by structural b

/-- The paths of blocks are those that lead to a block. -/
theorem mem_pathsAll_iff (bs : List Block) (path : List String) : path ∈ pathsAll bs ↔ ∃ b, At bs path b := by
  match bs with
  | [] =>
    simp only [pathsAll, List.not_mem_nil, false_iff]
    rintro ⟨b, h⟩
    cases h <;> contradiction
  | b :: rest =>
    simp only [pathsAll, List.mem_append, mem_paths_iff b path, mem_pathsAll_iff rest path, at_cons_iff]
    constructor
    · rintro ((rfl | ⟨below, rfl, c, hc⟩) | ⟨c, hc⟩)
      · exact ⟨b, .inl ⟨rfl, rfl⟩⟩
      · exact ⟨c, .inr (.inl ⟨below, rfl, hc⟩)⟩
      · exact ⟨c, .inr (.inr hc)⟩
    · rintro ⟨c, ⟨rfl, rfl⟩ | ⟨below, rfl, hc⟩ | hc⟩
      · exact .inl (.inl rfl)
      · exact .inl (.inr ⟨below, rfl, c, hc⟩)
      · exact .inr ⟨c, hc⟩
termination_by structural bs

end

/-- Where a path leads to a block, every shorter one that is not empty leads to a block around it. -/
theorem At.take {bs : List Block} {path : List String} {b : Block} (h : At bs path b) {k : Nat} (hpos : 0 < k) :
    ∃ c, At bs (path.take k) c := by
  induction h generalizing k with
  | @here bs b h =>
    obtain ⟨k, rfl⟩ := Nat.exists_eq_succ_of_ne_zero hpos.ne'
    exact ⟨b, by simpa using At.here h⟩
  | @inside bs b c path h _ ih =>
    obtain ⟨k, rfl⟩ := Nat.exists_eq_succ_of_ne_zero hpos.ne'
    rw [List.take_succ_cons]
    by_cases hk : k = 0
    · exact ⟨b, by simpa [hk] using At.here h⟩
    · obtain ⟨d, hd⟩ := ih (Nat.pos_of_ne_zero hk)
      exact ⟨d, .inside h hd⟩

end Block

/-! ## From messages to blocks -/

/-- A message's block stands below the block of the message from which it is reached. -/
theorem Message.Reaches.at_outline {m c : Message} {path : List String} (h : m.Reaches path c) {scope : Scope}
    {bs : List Block} (hm : m.outline scope ∈ bs) :
    Block.At bs path (c.outline ⟨scope.owner, scope.path ++ path.dropLast⟩) := by
  have hname : ∀ (m : Message) (scope : Scope), (m.outline scope).name = m.name := fun m scope =>
    Declaration.name_outline scope (.message m)
  induction h generalizing scope bs with
  | self m =>
    rw [← hname m scope]
    simpa using Block.At.here hm
  | @inside m d c path hd hreach ih =>
    have hmem : d.outline (scope.enter m.name) ∈ (m.outline scope).children :=
      Message.mem_children_outline.2 ⟨.message d, hd, rfl, rfl⟩
    have hat := Block.At.inside hm (ih hmem)
    have hpath : (m.name :: path).dropLast = m.name :: path.dropLast := by
      obtain ⟨around, rfl⟩ := hreach.exists_eq_append
      rw [← List.cons_append, List.dropLast_concat, List.dropLast_concat]
    rw [hname m scope] at hat
    simpa [Scope.enter, hpath] using hat

namespace Namespace

/-- The paths of the types that the file of a namespace declares. -/
def typePaths (n : Namespace) : List (List String) :=
  Block.pathsAll n.unitBlocks

theorem mem_typePaths {n : Namespace} {path : List String} :
    path ∈ n.typePaths ↔ ∃ b, Block.At n.unitBlocks path b :=
  Block.mem_pathsAll_iff _ _

theorem mem_unitBlocks {n : Namespace} {b : Block} :
    b ∈ n.unitBlocks ↔ ∃ d ∈ n.publicTypes, d.outline ⟨n.name, []⟩ = b := by
  unfold unitBlocks Declaration.interleaved
  rw [Declaration.outlines_eq_map, List.mem_map]
  simp only [Text.mem_sortByName]

/-- The block of an emitted message stands at its path. -/
theorem Emits.at_outline {n : Namespace} {path : List String} {c : Message} (h : n.Emits path c) :
    Block.At n.unitBlocks path (c.outline ⟨n.name, path.dropLast⟩) := by
  obtain ⟨m, hm, hpublic, hreach⟩ := h
  have hmem : m.outline ⟨n.name, []⟩ ∈ n.unitBlocks := by
    refine mem_unitBlocks.2 ⟨.message m, ?_, rfl⟩
    simp [publicTypes, hm, Declaration.isPrivate, hpublic]
  simpa using hreach.at_outline hmem

/-- Every field of an emitted message has its line in the message's block, its type named as seen from inside
    the message. -/
theorem Emits.exists_line {n : Namespace} {path : List String} {c : Message} (h : n.Emits path c) {f : Field}
    (hf : f ∈ c.fields) :
    ∃ inGroup, f.line ⟨n.name, path⟩ inGroup ∈ (c.outline ⟨n.name, path.dropLast⟩).fieldLines := by
  obtain ⟨inGroup, hline⟩ := Message.exists_line_of_mem_fields ⟨n.name, path.dropLast⟩ hf
  obtain ⟨m, -, -, hreach⟩ := h
  obtain ⟨around, rfl⟩ := hreach.exists_eq_append
  refine ⟨inGroup, ?_⟩
  simpa [Scope.enter] using hline

end Namespace

end ProtoEmit
