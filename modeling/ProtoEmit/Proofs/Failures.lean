/-
  How loading and running fail.

  Each of the two loaders and a run have errors that they are meant to fail with. They fail in other ways too, and
  this module says exactly when, whatever the limits on nested work are. A program's file must be named without a zero
  character and hold UTF-8. The search for settings must start in a folder that is there and meet no path that is too
  long to be looked up, and the file that it finds must be UTF-8, keep to the limits on digits and nesting, and have a
  table for its tools. A run of a program within what is printed must come to no file whose path has a zero character,
  or around which more folders are missing than are asked for at once.
-/

import ProtoEmit.Proofs.Rerun
import ProtoEmit.Proofs.TextRoundTrip
import ProtoEmit.Settings.Load

namespace ProtoEmit

/-! ## What is documented -/

/-- A refusal by the system of files, as it is passed on in a message. -/
def Refusal.isSystem : Refusal → Bool
  | .tooDeep | .zeroCharacter => false
  | _ => true

theorem Refusal.isSystem_eq_false_iff {why : Refusal} :
    why.isSystem = false ↔ why = .tooDeep ∨ why = .zeroCharacter := by
  cases why <;> simp [Refusal.isSystem]

def LoadError.isDocumented : LoadError → Bool
  | .unreadable _ why => why.isSystem
  | .notText => false
  | .invalid _ _ => true

def SettingsError.isDocumented : SettingsError → Bool
  | .unreadable _ why => why.isSystem
  | .noCurrentFolder | .unchecked _ _ | .notText | .hugeInteger _ | .tooDeep _ | .toolsNotTable _ => false
  | _ => true

def RunError.isDocumented : RunError → Bool
  | .collision _ => true
  | .cannotWrite _ why => why.isSystem
  | .alreadyRan => false

/-- Something is returned, or the error is a documented one. -/
def EndsAsDocumented {ε α : Type} (isDocumented : ε → Bool) (result : Except ε α) : Prop :=
  (∃ a, result = .ok a) ∨ ∃ e, result = .error e ∧ isDocumented e = true

section Ends

variable {ε α : Type} {isDocumented : ε → Bool}

@[simp] theorem endsAsDocumented_ok (a : α) : EndsAsDocumented isDocumented (.ok a : Except ε α) :=
  .inl ⟨a, rfl⟩

@[simp] theorem endsAsDocumented_error (e : ε) :
    EndsAsDocumented isDocumented (.error e : Except ε α) ↔ isDocumented e = true := by
  simp [EndsAsDocumented]

theorem endsAsDocumented_map {β : Type} (f : α → β) (result : Except ε α) :
    EndsAsDocumented isDocumented (result.map f) ↔ EndsAsDocumented isDocumented result := by
  cases result with
  | error e => simp [Except.map]
  | ok a => simp [Except.map]

end Ends

/-! ## Refused paths -/

/-- A name of the path holds a zero character. -/
def Path.HasZero (p : Path) : Prop :=
  p.parts.any (·.contains '\x00') = true

instance (p : Path) : Decidable p.HasZero :=
  inferInstanceAs (Decidable (_ = true))

namespace FileTree

variable {t t' : FileTree} {p : Path} {place : Place} {why : Refusal}

theorem follow_error_cases {names : List String} (h : t.follow place names = .error why) :
    why = .missing ∨ why = .notFolder ∨ why = .nameTooLong := by
  induction names generalizing place with
  | nil => cases h
  | cons name rest ih =>
    rw [follow] at h
    split at h
    · cases h
      exact .inl rfl
    · cases h
      exact .inr (.inl rfl)
    · split at h
      · exact ih h
      · split at h
        · cases h
          exact .inr (.inr rfl)
        · exact ih h

theorem locate_of_hasZero (h : p.HasZero) : t.locate p = .error .zeroCharacter := by
  unfold Path.HasZero at h
  rw [locate, if_pos h]

theorem locate_error_cases (h : t.locate p = .error why) :
    why = .zeroCharacter ∧ p.HasZero ∨ why.isSystem = true ∧ why ≠ .exists := by
  rw [locate] at h
  split at h
  · cases h
    exact .inl ⟨rfl, ‹_›⟩
  · right
    split at h
    · cases h
      exact ⟨rfl, by simp⟩
    · rcases follow_error_cases h with rfl | rfl | rfl
      · exact ⟨rfl, by simp⟩
      · exact ⟨rfl, by simp⟩
      · exact ⟨rfl, by simp⟩

theorem not_hasZero_of_locate (h : t.locate p = .ok place) : ¬ p.HasZero := by
  intro hzero
  cases h.symm.trans (locate_of_hasZero hzero)

/-- A path is refused by the system, unless it has a zero character. -/
theorem isSystem_of_locate_error (h : t.locate p = .error why) : why.isSystem = true ↔ ¬ p.HasZero := by
  rcases locate_error_cases h with ⟨rfl, hzero⟩ | ⟨hsystem, -⟩
  · exact iff_of_false (by simp [Refusal.isSystem]) (not_not_intro hzero)
  · refine iff_of_true hsystem fun hzero => ?_
    cases h.symm.trans (locate_of_hasZero hzero)
    cases hsystem

theorem not_hasZero_of_read {content : ByteArray} (h : t.read p = .ok content) : ¬ p.HasZero := by
  rw [read] at h
  split at h
  · cases h
  · rename_i hlocate
    exact not_hasZero_of_locate hlocate

theorem isSystem_of_read_error (h : t.read p = .error why) : why.isSystem = true ↔ ¬ p.HasZero := by
  rw [read] at h
  split at h
  · rename_i hlocate
    cases h
    exact isSystem_of_locate_error hlocate
  · rename_i hlocate
    have hzero := not_hasZero_of_locate hlocate
    split at h
    · cases h
      exact iff_of_true rfl hzero
    · cases h
      exact iff_of_true rfl hzero
    · cases h

/-! ## Folders that are refused -/

theorem openFolder_refused_cases (h : (t.openFolder p).2 = some why) :
    why = .zeroCharacter ∧ p.HasZero ∨ why.isSystem = true := by
  rcases openFolder_cases t p with ⟨_, herror, heq⟩ | ⟨_, -, -, heq⟩ | ⟨_, -, -, heq⟩ | ⟨_, _, -, -, heq⟩
  · rw [heq] at h
    cases h
    exact (locate_error_cases herror).imp_right And.left
  · rw [heq] at h
    cases h
  · rw [heq] at h
    cases h
  · rw [heq] at h
    cases h
    exact .inr rfl

theorem openFolder_ne_tooDeep : (t.openFolder p).2 ≠ some .tooDeep := by
  intro h
  rcases openFolder_refused_cases h with ⟨hno, -⟩ | hsystem
  · cases hno
  · cases hsystem

theorem hasZero_of_openFolder (h : (t.openFolder p).2 = some .zeroCharacter) : p.HasZero := by
  rcases openFolder_refused_cases h with ⟨-, hzero⟩ | hsystem
  · exact hzero
  · cases hsystem

/-- What comes of making folders, by whether the innermost is found missing. -/
theorem openFoldersFrom_succ_cases (t : FileTree) (root : Path.Root) (room : Nat) (name : String)
    (outer : List String) :
    t.locate ⟨root, (name :: outer).reverse⟩ ≠ .error .missing ∧
        t.openFoldersFrom root (room + 1) (name :: outer) = t.openFolder ⟨root, (name :: outer).reverse⟩ ∨
      t.locate ⟨root, (name :: outer).reverse⟩ = .error .missing ∧
        ((∃ t', t.openFoldersFrom root room outer = (t', none) ∧
            t.openFoldersFrom root (room + 1) (name :: outer) = t'.openFolder ⟨root, (name :: outer).reverse⟩) ∨
          ∃ t' why, t.openFoldersFrom root room outer = (t', some why) ∧
            t.openFoldersFrom root (room + 1) (name :: outer) = (t', some why)) := by
  by_cases hmissing : t.locate ⟨root, (name :: outer).reverse⟩ = .error .missing
  · exact .inr ⟨hmissing, openFoldersFrom_of_missing (openFolder_of_error hmissing)⟩
  · refine .inl ⟨hmissing, openFoldersFrom_of_not_missing (Nat.succ_ne_zero room) fun h => ?_⟩
    exact hmissing (locate_of_openFolder_missing (Prod.ext rfl h))

/-- Making folders runs out of room exactly if there is none for all of them and each that is tried is missing. -/
theorem openFoldersFrom_tooDeep_iff {root : Path.Root} {room : Nat} {names : List String} :
    (t.openFoldersFrom root room names).2 = some .tooDeep ↔
      room ≤ names.length ∧ ∀ k < room, t.locate ⟨root, (names.drop k).reverse⟩ = .error .missing := by
  induction room generalizing names with
  | zero => simp [openFoldersFrom_zero]
  | succ room ih =>
    cases names with
    | nil => exact iff_of_false openFolder_ne_tooDeep (by simp)
    | cons name outer =>
      -- the innermost folder is tried first, and the others with one less room
      have hsplit : (∀ k < room + 1, t.locate ⟨root, ((name :: outer).drop k).reverse⟩ = .error .missing) ↔
          t.locate ⟨root, (name :: outer).reverse⟩ = .error .missing ∧
            ∀ k < room, t.locate ⟨root, (outer.drop k).reverse⟩ = .error .missing := by
        rw [Nat.forall_lt_succ_left]
        rfl
      rw [hsplit, List.length_cons, Nat.add_le_add_iff_right]
      rcases openFoldersFrom_succ_cases t root room name outer with ⟨hfound, heq⟩ | ⟨hmissing, hrest⟩
      · rw [heq]
        exact iff_of_false openFolder_ne_tooDeep fun h => hfound h.2.1
      · simp only [hmissing, true_and]
        rw [← ih]
        rcases hrest with ⟨t', hmade, heq⟩ | ⟨t', why, hrefused, heq⟩
        · rw [heq, hmade]
          exact iff_of_false openFolder_ne_tooDeep (by simp)
        · rw [heq, hrefused]

/-- Making folders meets a zero character only if their path has one. -/
theorem hasZero_of_openFoldersFrom {root : Path.Root} {room : Nat} {names : List String}
    (h : (t.openFoldersFrom root room names).2 = some .zeroCharacter) : (⟨root, names.reverse⟩ : Path).HasZero := by
  induction room generalizing names with
  | zero =>
    rw [openFoldersFrom_zero] at h
    cases h
  | succ room ih =>
    cases names with
    | nil => exact hasZero_of_openFolder h
    | cons name outer =>
      rcases openFoldersFrom_succ_cases t root room name outer with ⟨-, heq⟩ | ⟨-, ⟨t', -, heq⟩ | ⟨t', why, hrefused, heq⟩⟩
      · rw [heq] at h
        exact hasZero_of_openFolder h
      · rw [heq] at h
        exact hasZero_of_openFolder h
      · -- the folder that was refused lies around the last one, so its names are among those of the path
        rw [heq] at h
        cases h
        have houter := ih (congrArg Prod.snd hrefused)
        unfold Path.HasZero at houter ⊢
        rw [List.reverse_cons, List.any_append, houter, Bool.true_or]

/-- There is no room for all folders on the way to a folder, and those that are asked for are missing. -/
def IsFarOff (t : FileTree) (p : Path) : Prop :=
  t.limits.newFolders ≤ p.parts.length ∧
    ∀ k < t.limits.newFolders, t.locate ⟨p.root, p.parts.take (p.parts.length - k)⟩ = .error .missing

/-- Writing a file breaks off: its folders are too far off, or its path has a zero character and is come to. -/
def BreaksOff (t : FileTree) (p : Path) : Prop :=
  t.IsFarOff p.parent ∨ p.parent.HasZero ∨ p.HasZero ∧ (t.openFolders p.parent).2 = none

theorem openFolders_tooDeep_iff : (t.openFolders p).2 = some .tooDeep ↔ t.IsFarOff p := by
  rw [openFolders, openFoldersFrom_tooDeep_iff, List.length_reverse, IsFarOff]
  simp only [List.drop_reverse, List.reverse_reverse]

/-- Where there is room at all, a zero character is met at the first folder that is asked for. -/
theorem openFolders_zeroCharacter_iff (hnear : ¬ t.IsFarOff p) :
    (t.openFolders p).2 = some .zeroCharacter ↔ p.HasZero := by
  constructor
  · intro h
    have hzero := hasZero_of_openFoldersFrom h
    rwa [List.reverse_reverse] at hzero
  · intro hzero
    have hroom : t.limits.newFolders ≠ 0 := by
      intro hroom
      exact hnear ⟨by simp [hroom], by simp [hroom]⟩
    have hopen : t.openFolder ⟨p.root, p.parts.reverse.reverse⟩ = (t, some .zeroCharacter) := by
      rw [List.reverse_reverse]
      exact openFolder_of_error (locate_of_hasZero hzero)
    rw [openFolders, openFoldersFrom_of_not_missing hroom (by rw [hopen]; simp), hopen]

theorem openFolders_breaksOff_iff :
    (t.openFolders p).2 = some .tooDeep ∨ (t.openFolders p).2 = some .zeroCharacter ↔ t.IsFarOff p ∨ p.HasZero := by
  rw [openFolders_tooDeep_iff]
  by_cases hnear : t.IsFarOff p
  · exact iff_of_true (.inl hnear) (.inl hnear)
  · rw [openFolders_zeroCharacter_iff hnear]

theorem isSystem_of_writeFile_refused {content : ByteArray} (h : (t.writeFile p content).2 = some why) :
    why.isSystem = true ↔ ¬ p.HasZero := by
  rw [writeFile] at h
  split at h
  · rename_i hlocate
    cases h
    exact isSystem_of_locate_error hlocate
  · rename_i hlocate
    split at h
    · cases h
      exact iff_of_true rfl (not_hasZero_of_locate hlocate)
    · cases h

/-- A file is written or refused by the system, unless writing it breaks off. -/
theorem write_isSystem_iff (t : FileTree) (p : Path) (content : ByteArray) :
    (∀ why, (t.write p content).2 = some why → why.isSystem = true) ↔ ¬ t.BreaksOff p := by
  rw [BreaksOff, ← or_assoc, ← openFolders_breaksOff_iff, write]
  cases hopen : t.openFolders p.parent with
  | mk t' refusal =>
    cases refusal with
    | some why =>
      have hcases := @Refusal.isSystem_eq_false_iff why
      cases hsystem : why.isSystem with
      | false => simp [hsystem, hcases.1 hsystem]
      | true =>
        rw [hsystem] at hcases
        simpa [hsystem] using hcases
    | none =>
      by_cases hzero : p.HasZero
      · simp [hzero, writeFile, locate_of_hasZero hzero, Refusal.isSystem]
      · simp only [hzero, false_and, or_false, reduceCtorEq, not_false_eq_true, iff_true]
        intro why hwhy
        exact (isSystem_of_writeFile_refused hwhy).2 hzero

end FileTree

/-! ## Running -/

/-- Files are written up to a documented end, unless writing breaks off at one that is come to. -/
theorem writeOutputs_endsAsDocumented_iff (t : FileTree) (outputs : List Output) :
    EndsAsDocumented RunError.isDocumented (writeOutputs t outputs).result ↔
      ∀ done o later t', outputs = done ++ o :: later → AllWritten t done t' → ¬ t'.BreaksOff o.file := by
  constructor
  · rintro hends done o later t' rfl hdone hbreaks
    obtain ⟨why, hrefused, hwhy⟩ : ∃ why, (t'.write o.file o.content.text.toUTF8).2 = some why ∧
        why.isSystem = false := by
      have hsystem := mt (FileTree.write_isSystem_iff t' o.file o.content.text.toUTF8).1 (not_not_intro hbreaks)
      simpa using hsystem
    rw [(hdone.writeOutputs_append (o :: later)).2, endsAsDocumented_map,
      writeOutputs_of_refused (Prod.ext rfl hrefused), endsAsDocumented_error, RunError.isDocumented, hwhy] at hends
    cases hends
  · intro h
    obtain ⟨done, t₁, hdone, rfl | ⟨o, later, t₂, why, rfl, hrefused⟩⟩ := exists_allWritten t outputs
    · have hresult := (hdone.writeOutputs_append []).2
      rw [List.append_nil] at hresult
      rw [hresult]
      exact endsAsDocumented_ok _
    · have hsystem := (FileTree.write_isSystem_iff t₁ o.file o.content.text.toUTF8).2 (h done o later t₁ rfl hdone)
      rw [(hdone.writeOutputs_append (o :: later)).2, endsAsDocumented_map, writeOutputs_of_refused hrefused,
        endsAsDocumented_error]
      exact hsystem why (by rw [hrefused])

/-- The files that a run writes. A run whose namespaces collide writes none. -/
def Program.outputs (p : Program) (s : Settings) : List Output :=
  match p.place s with
  | .error _ => []
  | .ok files => if s.dump then [p.dumpOutput s] else p.units s files

theorem Program.run_endsAsDocumented_iff (p : Program) (s : Settings) (t : FileTree) :
    EndsAsDocumented RunError.isDocumented (p.run s t).result ↔
      EndsAsDocumented RunError.isDocumented (writeOutputs t (p.outputs s)).result := by
  unfold Program.run Program.outputs
  cases p.place s with
  | error c => simp [RunError.isDocumented, writeOutputs]
  | ok files => rfl

/-! ## Settings -/

namespace Settings

/-- The paths where settings are looked for: the given one, or two in the current folder. -/
def candidates (t : FileTree) : Option Path → List Path
  | none => [ownFile, sharedFile].map fun name => (⟨.slash, t.current⟩ : Path).join (.ofString name)
  | some file => [file]

theorem currentFolder_eq_ok_iff {t : FileTree} {folder : Path} :
    currentFolder t = .ok folder ↔ t.kind? t.current = some .folder ∧ folder = ⟨.slash, t.current⟩ := by
  rw [currentFolder, FileTree.kind?]
  cases t.get? t.current with
  | none => simp
  | some e =>
    cases e with
    | file content => simp [Entry.kind]
    | folder es => simp [Entry.kind, eq_comm]

/-- The search among some paths comes to one of them. -/
def ComesTo (t : FileTree) (paths : List Path) (p : Path) : Prop :=
  ∃ before after, paths = before ++ p :: after ∧ ∀ q ∈ before, t.isFile q = .ok false

theorem comesTo_cons_iff {t : FileTree} {first p : Path} {paths : List Path} :
    ComesTo t (first :: paths) p ↔ p = first ∨ t.isFile first = .ok false ∧ ComesTo t paths p := by
  constructor
  · rintro ⟨before, after, hsplit, hbefore⟩
    cases before with
    | nil => exact .inl (List.cons.inj hsplit).1.symm
    | cons q before =>
      obtain ⟨rfl, hpaths⟩ := List.cons.inj hsplit
      obtain ⟨hfirst, hbefore⟩ := List.forall_mem_cons.1 hbefore
      exact .inr ⟨hfirst, before, after, hpaths, hbefore⟩
  · rintro (rfl | ⟨hfirst, before, after, rfl, hbefore⟩)
    · exact ⟨[], paths, rfl, by simp⟩
    · exact ⟨first :: before, after, rfl, List.forall_mem_cons.2 ⟨hfirst, hbefore⟩⟩

/-- The file that a search finds. -/
theorem firstFile_eq_some_iff {t : FileTree} {paths : List Path} {file : Path} :
    firstFile t paths = .ok (some file) ↔ ComesTo t paths file ∧ t.isFile file = .ok true := by
  induction paths with
  | nil => simp [firstFile, ComesTo]
  | cons first paths ih =>
    rw [firstFile, comesTo_cons_iff]
    cases hfirst : t.isFile first with
    | error why =>
      simp only [reduceCtorEq, false_iff, false_and, or_false, not_and]
      rintro rfl
      simp [hfirst]
    | ok found =>
      cases found with
      | true =>
        simp only [Except.ok.injEq, Option.some.injEq, Bool.true_eq_false, false_and, or_false]
        constructor
        · rintro rfl
          exact ⟨rfl, hfirst⟩
        · rintro ⟨rfl, -⟩
          rfl
      | false =>
        simp only [true_and, ih, or_and_right]
        refine ⟨.inr, fun h => h.resolve_left ?_⟩
        rintro ⟨rfl, htrue⟩
        simp [hfirst] at htrue

theorem isFile_error_iff {t : FileTree} {p : Path} {why : Refusal} :
    t.isFile p = .error why ↔ why = .nameTooLong ∧ t.locate p = .error .nameTooLong := by
  unfold FileTree.isFile
  cases hlocate : t.locate p with
  | error why' => cases why' <;> simp [eq_comm]
  | ok place =>
    simp only
    split <;> simp

/-- A search ends without an answer exactly if it comes to a path that is too long. -/
theorem exists_firstFile_error_iff {t : FileTree} {paths : List Path} :
    (∃ e, firstFile t paths = .error e) ↔ ∃ p, ComesTo t paths p ∧ t.locate p = .error .nameTooLong := by
  induction paths with
  | nil => simp [firstFile, ComesTo]
  | cons first paths ih =>
    rw [firstFile]
    simp only [comesTo_cons_iff]
    cases hfirst : t.isFile first with
    | error why =>
      obtain ⟨rfl, hlong⟩ := isFile_error_iff.1 hfirst
      exact iff_of_true ⟨_, rfl⟩ ⟨first, .inl rfl, hlong⟩
    | ok found =>
      have hshort : t.locate first ≠ .error .nameTooLong := by
        intro hlong
        cases hfirst.symm.trans (isFile_error_iff.2 ⟨rfl, hlong⟩)
      cases found with
      | true =>
        refine iff_of_false (by simp) ?_
        rintro ⟨p, rfl | ⟨hno, -⟩, hlong⟩
        · exact hshort hlong
        · cases hno
      | false =>
        rw [ih]
        constructor
        · rintro ⟨p, hp, hlong⟩
          exact ⟨p, .inr ⟨rfl, hp⟩, hlong⟩
        · rintro ⟨p, rfl | ⟨-, hp⟩, hlong⟩
          · exact absurd hlong hshort
          · exact ⟨p, hp, hlong⟩

/-- The content of a file of settings at which reading them, with values down to some level, breaks off. -/
inductive Spoiled (level : Nat) (file : Path) (content : ByteArray) : Prop where
  | notText (h : String.fromUTF8? content = none)
  | hugeInteger {text : String} (htext : String.fromUTF8? content = some text)
    (h : Toml.read level text = .error .hugeInteger)
  | tooDeep {text : String} (htext : String.fromUTF8? content = some text)
    (h : Toml.read level text = .error .tooDeep)
  | toolsNotTable {text : String} {document : Toml.Table} (htext : String.fromUTF8? content = some text)
    (hread : Toml.read level text = .ok document) (hname : file.name = sharedFile)
    (h : ∀ tools, entryOf "tool" document ≠ .table tools)

theorem entryIn_endsAsDocumented_iff (file : Path) (document : Toml.Table) :
    EndsAsDocumented SettingsError.isDocumented (entryIn file document) ↔
      ¬ (file.name = sharedFile ∧ ∀ tools, entryOf "tool" document ≠ .table tools) := by
  rw [entryIn]
  split
  · rename_i hname
    cases htool : entryOf "tool" document <;> simp [hname, SettingsError.isDocumented]
  · rename_i hname
    simp [hname]

theorem spoiled_iff_of_text {level : Nat} {file : Path} {content : ByteArray} {text : String}
    (htext : String.fromUTF8? content = some text) :
    Spoiled level file content ↔
      Toml.read level text = .error .hugeInteger ∨ Toml.read level text = .error .tooDeep ∨
        ∃ document, Toml.read level text = .ok document ∧
          file.name = sharedFile ∧ ∀ tools, entryOf "tool" document ≠ .table tools := by
  constructor
  · rintro (hnone | ⟨htext', h⟩ | ⟨htext', h⟩ | ⟨htext', hread, hname, h⟩)
    · cases htext.symm.trans hnone
    · cases htext.symm.trans htext'
      exact .inl h
    · cases htext.symm.trans htext'
      exact .inr (.inl h)
    · cases htext.symm.trans htext'
      exact .inr (.inr ⟨_, hread, hname, h⟩)
  · rintro (h | h | ⟨document, hread, hname, h⟩)
    · exact .hugeInteger htext h
    · exact .tooDeep htext h
    · exact .toolsNotTable htext hread hname h

theorem readTable_endsAsDocumented_iff {t : FileTree} {file : Path} {content : ByteArray}
    (h : t.read file = .ok content) :
    EndsAsDocumented SettingsError.isDocumented (readTable t file) ↔
      ¬ Spoiled t.limits.settingsLevel file content := by
  simp only [readTable, h]
  cases htext : String.fromUTF8? content with
  | none => exact iff_of_false (by simp [SettingsError.isDocumented]) (not_not_intro (.notText htext))
  | some text =>
    rw [spoiled_iff_of_text htext]
    simp only
    cases hread : Toml.read t.limits.settingsLevel text with
    | error e => cases e <;> simp [SettingsError.isDocumented]
    | ok document =>
      have hentry := entryIn_endsAsDocumented_iff file document
      simp only [reduceCtorEq, false_or, Except.ok.injEq, exists_eq_left', ← hentry]
      cases entryIn file document with
      | error e => simp
      | ok entry =>
        refine iff_of_true ?_ (endsAsDocumented_ok entry)
        cases entry <;> simp [SettingsError.isDocumented]

theorem isFile_eq_true_iff {t : FileTree} {file : Path} :
    t.isFile file = .ok true ↔ ∃ content, t.read file = .ok content := by
  unfold FileTree.isFile FileTree.read
  cases hlocate : t.locate file with
  | error why => cases why <;> simp
  | ok place =>
    simp only
    cases hget : t.get? place with
    | none => simp
    | some entry => cases entry <;> simp

theorem firstFile_error_isDocumented {t : FileTree} {paths : List Path} {e : SettingsError}
    (h : firstFile t paths = .error e) : e.isDocumented = false := by
  induction paths with
  | nil => cases h
  | cons first paths ih =>
    rw [firstFile] at h
    split at h
    · cases h
      rfl
    · cases h
    · exact ih h

/-- Where the current folder is there, settings are looked for in it. -/
theorem source_none {t : FileTree} (hcurrent : t.kind? t.current = some .folder) :
    source t none = firstFile t (candidates t none) := by
  rw [source, currentFolder_eq_ok_iff.2 ⟨hcurrent, rfl⟩]
  rfl

theorem source_none_of_not_folder {t : FileTree} (hcurrent : t.kind? t.current ≠ some .folder) :
    source t none = .error .noCurrentFolder := by
  rw [source, currentFolder]
  split
  · rename_i hget
    rw [FileTree.kind?, hget] at hcurrent
    exact absurd rfl hcurrent
  · rfl

/-- Unless it finds nothing, the search decides where settings come from. -/
theorem source_of_firstFile {t : FileTree} {file : Option Path} {found : Except SettingsError (Option Path)}
    (hcurrent : file = none → t.kind? t.current = some .folder)
    (h : firstFile t (candidates t file) = found) (hfound : found ≠ .ok none) : source t file = found := by
  cases file with
  | none => exact (source_none (hcurrent rfl)).trans h
  | some f =>
    have h : firstFile t [f] = found := h
    rw [source, h]
    split
    · exact absurd rfl hfound
    · rfl

/-- The settings of a table and of `overrides`, once the table has been read. -/
def ofTable (source : Option Path) (table : Toml.Table) (overrides : Given) : Except SettingsError Settings :=
  let given := Given.update (table.map fun (k, v) => (k, Setting.ofToml v)) overrides
  if (given.lookup outputKey).isNone then .error .noOutput
  else match check given with
    | .valid settings => .ok settings
    | .invalid issues => .error (.invalid source issues)

theorem load_eq (t : FileTree) (file : Option Path) (overrides : Given) :
    load t file overrides =
      (source t file).bind fun found =>
        ((found.map (readTable t)).getD (.ok [])).bind fun table => ofTable found table overrides := by
  unfold load
  cases source t file with
  | error e => rfl
  | ok found => cases found <;> rfl

/-- After a table of settings has been read, whatever is wrong with them is documented. -/
theorem ofTable_endsAsDocumented (source : Option Path) (table : Toml.Table) (overrides : Given) :
    EndsAsDocumented SettingsError.isDocumented (ofTable source table overrides) := by
  unfold ofTable
  simp only
  split
  · simp [SettingsError.isDocumented]
  · split <;> simp [SettingsError.isDocumented]

/-- With a current folder or none needed, settings are loaded up to a documented end, unless the search for their file
    comes to a path that is too long, or to a file whose content is spoiled. -/
theorem load_endsAsDocumented_iff_of_current {t : FileTree} {file : Option Path}
    (hcurrent : file = none → t.kind? t.current = some .folder) (overrides : Given) :
    EndsAsDocumented SettingsError.isDocumented (load t file overrides) ↔
      (∀ p, ComesTo t (candidates t file) p → t.locate p ≠ .error .nameTooLong) ∧
        ∀ f content, ComesTo t (candidates t file) f → t.read f = .ok content →
          ¬ Spoiled t.limits.settingsLevel f content := by
  have hlost := @exists_firstFile_error_iff t (candidates t file)
  rw [load_eq]
  cases hfirst : firstFile t (candidates t file) with
  | error e =>
    rw [hfirst] at hlost
    obtain ⟨p, hp, hlong⟩ := hlost.1 ⟨e, rfl⟩
    rw [source_of_firstFile hcurrent hfirst (by simp)]
    refine iff_of_false ?_ fun h => h.1 p hp hlong
    simp [Except.bind, firstFile_error_isDocumented hfirst]
  | ok found =>
    have hshort : ∀ p, ComesTo t (candidates t file) p → t.locate p ≠ .error .nameTooLong := by
      intro p hp hlong
      obtain ⟨e, he⟩ := hlost.2 ⟨p, hp, hlong⟩
      cases hfirst.symm.trans he
    -- a file that the search comes to and that can be read is the one that it finds
    have hfound : ∀ f content, ComesTo t (candidates t file) f → t.read f = .ok content → found = some f := by
      intro f content hf hread
      have hsome := firstFile_eq_some_iff.2 ⟨hf, isFile_eq_true_iff.2 ⟨content, hread⟩⟩
      exact Except.ok.inj (hfirst.symm.trans hsome)
    cases found with
    | none =>
      refine iff_of_true ?_ ⟨hshort, fun f content hf hread => ?_⟩
      · cases file with
        | none =>
          rw [source_none (hcurrent rfl), hfirst]
          exact ofTable_endsAsDocumented none [] overrides
        | some f =>
          have hmissing : source t (some f) = .error (.fileNotFound f) := by
            have hfirst : firstFile t [f] = .ok none := hfirst
            rw [source, hfirst]
          rw [hmissing]
          exact (endsAsDocumented_error _).2 rfl
      · cases hfound f content hf hread
    | some f =>
      obtain ⟨hf, hisFile⟩ := firstFile_eq_some_iff.1 hfirst
      obtain ⟨content, hread⟩ := isFile_eq_true_iff.1 hisFile
      have htable : EndsAsDocumented SettingsError.isDocumented
          ((readTable t f).bind fun table => ofTable (some f) table overrides) ↔
            ¬ Spoiled t.limits.settingsLevel f content := by
        rw [← readTable_endsAsDocumented_iff hread]
        cases readTable t f with
        | error e => simp [Except.bind]
        | ok table => exact iff_of_true (ofTable_endsAsDocumented _ _ _) (endsAsDocumented_ok _)
      rw [source_of_firstFile hcurrent hfirst (by simp)]
      refine htable.trans ⟨fun h => ⟨hshort, fun f' content' hf' hread' => ?_⟩, fun h => h.2 f content hf hread⟩
      cases hfound f' content' hf' hread'
      cases hread.symm.trans hread'
      exact h

/-- Without a current folder, settings can be loaded only from a file that is given. -/
theorem load_endsAsDocumented_iff (t : FileTree) (file : Option Path) (overrides : Given) :
    EndsAsDocumented SettingsError.isDocumented (load t file overrides) ↔
      (file = none → t.kind? t.current = some .folder) ∧
        (∀ p, ComesTo t (candidates t file) p → t.locate p ≠ .error .nameTooLong) ∧
        ∀ f content, ComesTo t (candidates t file) f → t.read f = .ok content →
          ¬ Spoiled t.limits.settingsLevel f content := by
  by_cases hcurrent : file = none → t.kind? t.current = some .folder
  · rw [load_endsAsDocumented_iff_of_current hcurrent overrides]
    exact (and_iff_right hcurrent).symm
  · obtain ⟨rfl, hgone⟩ := Classical.not_imp.1 hcurrent
    refine iff_of_false ?_ fun h => hcurrent h.1
    rw [load_eq, source_none_of_not_folder hgone]
    simp [Except.bind, SettingsError.isDocumented]

end Settings

/-! ## All three -/

theorem Program.load_endsAsDocumented_iff (t : FileTree) (file : Path) :
    EndsAsDocumented LoadError.isDocumented (Program.load t file) ↔
      ¬ file.HasZero ∧ ∀ content, t.read file = .ok content → String.fromUTF8? content ≠ none := by
  rw [Program.load]
  cases hread : t.read file with
  | error why => simp [LoadError.isDocumented, FileTree.isSystem_of_read_error hread]
  | ok content =>
    have hzero := FileTree.not_hasZero_of_read hread
    cases htext : String.fromUTF8? content with
    | none => simp [htext, LoadError.isDocumented]
    | some text =>
      simp only [hzero, Except.ok.injEq, forall_eq', htext]
      refine iff_of_true ?_ (by simp)
      cases Schema.ofText Schema.program text <;> simp [LoadError.isDocumented]

/-- Settings and programs are loaded and programs run up to a documented end, exactly but for the cases in which
    they break off. The runs are those of programs within what is printed, as programs that were loaded are. -/
theorem failures_documented_iff (t : FileTree) (file : Option Path) (overrides : Settings.Given) (programFile : Path)
    (p : Program) (s : Settings) :
    (EndsAsDocumented SettingsError.isDocumented (Settings.load t file overrides) ↔
      (file = none → t.kind? t.current = some .folder) ∧
        (∀ q, Settings.ComesTo t (Settings.candidates t file) q → t.locate q ≠ .error .nameTooLong) ∧
        ∀ f content, Settings.ComesTo t (Settings.candidates t file) f → t.read f = .ok content →
          ¬ Settings.Spoiled t.limits.settingsLevel f content) ∧
      (EndsAsDocumented LoadError.isDocumented (Program.load t programFile) ↔
        ¬ programFile.HasZero ∧ ∀ content, t.read programFile = .ok content → String.fromUTF8? content ≠ none) ∧
      (Program.load t programFile = .ok p → Json.maxDepth ≤ t.limits.programDepth → p.IsPrintable t.limits) ∧
      (p.IsPrintable t.limits →
        (EndsAsDocumented RunError.isDocumented (p.run s t).result ↔
          ∀ done o later t', p.outputs s = done ++ o :: later → AllWritten t done t' → ¬ t'.BreaksOff o.file)) := by
  refine ⟨Settings.load_endsAsDocumented_iff t file overrides, Program.load_endsAsDocumented_iff t programFile,
    Program.isPrintable_of_load, fun _ => ?_⟩
  rw [p.run_endsAsDocumented_iff, writeOutputs_endsAsDocumented_iff]

/-- A file that tools share, with a number where their table should be. -/
def numberForTools : FileTree :=
  { entries := [("pyproject.toml", .file "tool = 1\n".toUTF8)] }

/-- A file with a byte that is no UTF-8. -/
def strayByte : FileTree :=
  { entries := [("ir.json", .file ⟨#[255]⟩)] }

/-- A namespace with a zero character in its name. -/
def zeroName : Program :=
  ⟨[⟨"a\x00", [], []⟩]⟩

/-- None of the three always comes to a documented end. -/
theorem undocumented_failures :
    (Settings.load numberForTools none [("output_path", .text "out")] = .error (.toolsNotTable "int") ∧
        SettingsError.isDocumented (.toolsNotTable "int") = false) ∧
      (Program.load strayByte ⟨.here, ["ir.json"]⟩ = .error .notText ∧ LoadError.isDocumented .notText = false) ∧
      (zeroName.run { output := ⟨.here, ["out"]⟩ } {}).result =
          .error (.cannotWrite ⟨.here, ["out", "a\x00.proto"]⟩ .zeroCharacter) ∧
        RunError.isDocumented (.cannotWrite ⟨.here, ["out", "a\x00.proto"]⟩ .zeroCharacter) = false := by
  refine ⟨⟨by cbv, rfl⟩, ⟨by cbv, rfl⟩, ?_, rfl⟩
  have hplace : zeroName.place { output := ⟨.here, ["out"]⟩ } = .ok [("a\x00", ⟨.here, ["a\x00.proto"]⟩)] := by
    decide +kernel
  -- a file is refused whatever is to be written
  have hwrite : ∀ content : Rendered,
      (writeOutputs {} [⟨⟨.here, ["out", "a\x00.proto"]⟩, content⟩]).result =
        .error (.cannotWrite ⟨.here, ["out", "a\x00.proto"]⟩ .zeroCharacter) := by
    intro content
    cbv
  rw [Program.run, hplace]
  exact hwrite _

end ProtoEmit
