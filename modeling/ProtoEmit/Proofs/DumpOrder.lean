/-
  The two ways to write a namespace: in a file of its own, and in a dump.

  Both show the same types, each in the same lines. They differ in the order: a file lists enumerations and messages
  together by name, a dump lists all enumerations first. As sorting by name is stable, taking the enumerations and
  the messages of the one apart gives the other, also where names have one sort key.
-/

import ProtoEmit.Proofs.Lines

namespace ProtoEmit

/-- The order of a dump is that of a file, the enumerations taken to the front. -/
theorem Declaration.grouped_eq_filter_interleaved (ds : List Declaration) :
    grouped ds = (interleaved ds).filter isEnumeration ++ (interleaved ds).filter fun d => !d.isEnumeration := by
  rw [interleaved, Text.filter_sortByName, Text.filter_sortByName]
  rfl

/-- The line that opens a type that stands in no message. -/
def Declaration.openingLine : Declaration → String
  | .enumeration e => "enum " ++ e.name ++ " \x7b"
  | .message m => "message " ++ m.name ++ " \x7b"

namespace Namespace

/-- The lines of a type that stands in no message. -/
def typeLines (n : Namespace) (references : Bool) (d : Declaration) : List String :=
  (d.outline ⟨n.name, []⟩).lines references ""

theorem openingLine_mem_typeLines (n : Namespace) (references : Bool) (d : Declaration) :
    d.openingLine ∈ n.typeLines references d := by
  cases d with
  | enumeration e => simp [Declaration.openingLine, typeLines, Declaration.outline, Block.lines, EnumBlock.lines,
      Enumeration.outline]
  | message m =>
    rw [typeLines, Declaration.outline, Message.outline_eq]
    simp [Declaration.openingLine, Block.lines]

theorem lines_outlines (n : Namespace) (references : Bool) (ds : List Declaration) :
    (renderBlocks references (Declaration.outlines ⟨n.name, []⟩ ds)).lines = ds.flatMap (n.typeLines references) := by
  rw [renderBlocks, Block.linesAll_eq_flatMap, Declaration.outlines_eq_map, List.flatMap_map]
  rfl

theorem lines_unit (n : Namespace) (references : Bool) (files : List (String × Path)) :
    (n.unit references files).lines =
      headerLines (some n.name) ++ importLines (n.importFiles files) ++
        (Declaration.interleaved n.publicTypes).flatMap (n.typeLines references) := by
  rw [unit, unitBlocks, lines_outlines]

theorem lines_dumpSection (n : Namespace) (references : Bool) :
    (n.dumpSection references).lines =
      ["//----- Begin " ++ n.name ++ " -----", ""] ++
        (Declaration.grouped n.publicTypes).flatMap (n.typeLines references) ++
        ["", "//----- End " ++ n.name ++ " -----", "//------------------------------"] := by
  rw [dumpSection, dumpBlocks, lines_outlines]

/-- The file of a namespace and its part of a dump show the same types in the same lines.

    The file lists every type that is not private once, in some order, and the line that opens the type is among its
    lines. The dump lists the enumerations in this order and then the messages in this order, between the marks of the
    namespace. -/
theorem dump_regroups_unit (n : Namespace) (before after : List Namespace) (references : Bool)
    (files : List (String × Path)) :
    ∃ types : List Declaration,
      types.Perm ((n.enumerations.map Declaration.enumeration ++ n.messages.map Declaration.message).filter
        fun d => !d.isPrivate) ∧
      (∀ d ∈ types, d.openingLine ∈ n.typeLines references d) ∧
      (n.unit references files).lines =
        headerLines (some n.name) ++ importLines (n.importFiles files) ++ types.flatMap (n.typeLines references) ∧
      (Program.dump references ⟨before ++ n :: after⟩).lines =
        headerLines none ++ before.flatMap (fun m => (m.dumpSection references).lines) ++
          (["//----- Begin " ++ n.name ++ " -----", ""] ++
            ((types.filter fun d => d.isEnumeration).flatMap (n.typeLines references) ++
              (types.filter fun d => !d.isEnumeration).flatMap (n.typeLines references)) ++
            ["", "//----- End " ++ n.name ++ " -----", "//------------------------------"]) ++
          after.flatMap fun m => (m.dumpSection references).lines := by
  refine ⟨Declaration.interleaved n.publicTypes, Text.sortByName_perm _ _,
    fun d _ => n.openingLine_mem_typeLines references d, lines_unit n references files, ?_⟩
  -- the two pieces are the grouped types, and these are the section of `n`
  rw [← List.flatMap_append, ← Declaration.grouped_eq_filter_interleaved, ← lines_dumpSection]
  simp [Program.dump, List.flatMap_map]

end Namespace

end ProtoEmit
