/-
  What the file of a namespace depends on.

  A unit is made from its namespace and from the files of the namespaces that it refers to, and the file of a
  namespace follows from its name and the layout. So of all that a program has besides the namespace only one thing
  shows in the unit: which of the namespaces that it refers to are there.
-/

import ProtoEmit.Proofs.ImportAgreement
import ProtoEmit.Proofs.RunChanges

namespace ProtoEmit

namespace Namespace

/-- The other namespaces that `n` refers to are in both programs or in neither. -/
def SeesSame (n : Namespace) (p q : Program) : Prop :=
  ∀ owner, owner ≠ n.name → n.RefersTo owner → (owner ∈ p.namespaceNames ↔ owner ∈ q.namespaceNames)

/-- A unit looks up only the files of the namespaces that it is to import. -/
theorem unit_congr {n : Namespace} {files files' : List (String × Path)}
    (h : ∀ owner ∈ n.sortedImports, files.lookup owner = files'.lookup owner) (references : Bool) :
    n.unit references files = n.unit references files' := by
  have hfound : n.importFiles files = n.importFiles files' := List.filterMap_congr h
  have hmissing : n.missingImports files = n.missingImports files' := by
    refine List.filter_congr fun owner howner => ?_
    rw [h owner howner]
  rw [unit, unit, hfound, hmissing]

theorem SeesSame.unit_eq {n : Namespace} {p q : Program} (h : n.SeesSame p q) (s : Settings) :
    n.unit s.references (p.files s) = n.unit s.references (q.files s) := by
  refine unit_congr (fun owner howner => ?_) _
  obtain ⟨hne, hrefers⟩ := mem_sortedImports_iff.1 howner
  have hiff := h owner hne hrefers
  by_cases hp : owner ∈ p.namespaceNames
  · rw [Program.lookup_files_of_mem hp, Program.lookup_files_of_mem (hiff.1 hp)]
  · rw [Program.lookup_files_of_not_mem hp, Program.lookup_files_of_not_mem (mt hiff.2 hp)]

end Namespace

namespace Program

/-- The output of the namespace at an index. -/
theorem getElem?_units_of_placed {p : Program} {s : Settings} {files : List (String × Path)} {i : Nat} {n : Namespace}
    (hdump : s.dump = false) (hplace : p.place s = .ok files) (hn : p.namespaces[i]? = some n) :
    (p.units s files)[i]? = some ⟨s.target n, n.unit s.references (p.files s)⟩ := by
  have hlayout : s.layout.place p.namespaceNames = .ok files := by simpa [place, hdump] using hplace
  have hfiles : files = p.files s := ((Layout.place_eq_ok_iff _ _ _).1 hlayout).1
  rw [hfiles, units_files, List.getElem?_map, hn]
  rfl

/-- Two programs that have the namespace `n`, and have the same ones of those that `n` refers to, write the same for
    it: to the same path, the same text, with the same reports. The other namespaces may be any. -/
theorem output_unaffected_elsewhere {p q : Program} {s : Settings} {n : Namespace} {i j : Nat}
    {pfiles qfiles : List (String × Path)} (hdump : s.dump = false) (hp : p.place s = .ok pfiles)
    (hq : q.place s = .ok qfiles) (hi : p.namespaces[i]? = some n) (hj : q.namespaces[j]? = some n)
    (hsame : n.SeesSame p q) :
    ∃ o, (p.units s pfiles)[i]? = some o ∧ (q.units s qfiles)[j]? = some o ∧
      ∀ t u written written', (p.run s t).result = .ok written → (q.run s u).result = .ok written' →
        (∀ m ∈ p.namespaces ++ q.namespaces, (s.layout.file m.name).isAbsolute = false) →
        (p.run s t).tree.read o.file = .ok o.content.text.toUTF8 ∧
          (q.run s u).tree.read o.file = .ok o.content.text.toUTF8 := by
  have hunit := hsame.unit_eq s
  refine ⟨_, getElem?_units_of_placed hdump hp hi, ?_, ?_⟩
  · rw [getElem?_units_of_placed hdump hq hj, hunit]
  · intro t u written written' hrun hrun' hrelative
    obtain ⟨hrelp, hrelq⟩ := List.forall_mem_append.1 hrelative
    refine ⟨read_target_of_ok hdump hrelp hrun (List.mem_of_getElem? hi), ?_⟩
    rw [read_target_of_ok hdump hrelq hrun' (List.mem_of_getElem? hj), fileBytes, ← hunit]
    rfl

end Program

/-! ## One namespace in two programs -/

/-- A cart that refers to orders and to coupons. -/
def cartNamespace : Namespace :=
  ⟨"Shop", [⟨"Cart", "", [⟨"Order", .reference ⟨"Orders", "Order"⟩, { tag := 1 }⟩,
    ⟨"Coupon", .reference ⟨"Coupons", "Coupon"⟩, { tag := 2 }⟩], [], false⟩], []⟩

def smallMarket : Program :=
  ⟨[cartNamespace, ⟨"Orders", [], []⟩]⟩

/-- Orders have changed, games are new, and still there are no coupons. -/
def largeMarket : Program :=
  ⟨[⟨"Games", [], []⟩, ⟨"Orders", [⟨"Order", "", [], [], false⟩], []⟩, cartNamespace]⟩

def marketSettings : Settings :=
  { output := ⟨.here, ["out"]⟩ }

theorem cart_output_unaffected :
    cartNamespace.SeesSame smallMarket largeMarket ∧
      ∃ content, (smallMarket.run marketSettings {}).tree.read ⟨.here, ["out", "shop.proto"]⟩ = .ok content ∧
        (largeMarket.run marketSettings {}).tree.read ⟨.here, ["out", "shop.proto"]⟩ = .ok content := by
  have hsmall : smallMarket.place marketSettings =
      .ok [("Shop", ⟨.here, ["shop.proto"]⟩), ("Orders", ⟨.here, ["orders.proto"]⟩)] := by
    decide +kernel
  have hlarge : largeMarket.place marketSettings =
      .ok [("Games", ⟨.here, ["games.proto"]⟩), ("Orders", ⟨.here, ["orders.proto"]⟩),
        ("Shop", ⟨.here, ["shop.proto"]⟩)] := by
    decide +kernel
  have himports : cartNamespace.imports = ["Orders", "Coupons"] := by cbv
  have hsame : cartNamespace.SeesSame smallMarket largeMarket := by
    intro owner hne hrefers
    have howner := Namespace.mem_imports_iff.2 ⟨hne, hrefers⟩
    rw [himports] at howner
    rcases List.mem_cons.1 howner with rfl | howner
    · decide
    · rw [List.mem_singleton.1 howner]
      decide
  -- whether a file can be written does not depend on what is to be written
  have hwrite : ∀ shop orders : Rendered,
      (writeOutputs {} [⟨⟨.here, ["out", "shop.proto"]⟩, shop⟩, ⟨⟨.here, ["out", "orders.proto"]⟩, orders⟩]).result =
        .ok [⟨.here, ["out", "shop.proto"]⟩, ⟨.here, ["out", "orders.proto"]⟩] := by
    intro shop orders
    cbv
  have hwrite' : ∀ games orders shop : Rendered,
      (writeOutputs {} [⟨⟨.here, ["out", "games.proto"]⟩, games⟩, ⟨⟨.here, ["out", "orders.proto"]⟩, orders⟩,
          ⟨⟨.here, ["out", "shop.proto"]⟩, shop⟩]).result =
        .ok [⟨.here, ["out", "games.proto"]⟩, ⟨.here, ["out", "orders.proto"]⟩, ⟨.here, ["out", "shop.proto"]⟩] := by
    intro games orders shop
    cbv
  have hrun : (smallMarket.run marketSettings {}).result =
      .ok [⟨.here, ["out", "shop.proto"]⟩, ⟨.here, ["out", "orders.proto"]⟩] := by
    rw [Program.run, hsmall]
    exact hwrite _ _
  have hrun' : (largeMarket.run marketSettings {}).result =
      .ok [⟨.here, ["out", "games.proto"]⟩, ⟨.here, ["out", "orders.proto"]⟩, ⟨.here, ["out", "shop.proto"]⟩] := by
    rw [Program.run, hlarge]
    exact hwrite' _ _ _
  have hrelative : ∀ m ∈ smallMarket.namespaces ++ largeMarket.namespaces,
      (marketSettings.layout.file m.name).isAbsolute = false := by
    decide +kernel
  obtain ⟨o, ho, -, hread⟩ := Program.output_unaffected_elsewhere (i := 0) (j := 2) rfl hsmall hlarge rfl rfl hsame
  have hfile : o.file = ⟨.here, ["out", "shop.proto"]⟩ := by
    cases ho
    rfl
  exact ⟨hsame, _, hfile ▸ hread {} {} _ _ hrun hrun' hrelative⟩

end ProtoEmit
