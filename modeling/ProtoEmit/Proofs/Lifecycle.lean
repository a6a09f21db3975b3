/-
  The life of a compiler.

  In a session compilers are made, asked to compile and replaced in any order, and files change in between. What a
  compiler is at some moment follows from what was done since it was made: it is idle until it is asked to compile,
  and from then on it is done, whichever way its run ended. The intermediate states of a run never show.
-/

import Mathlib
import ProtoEmit.Session

namespace ProtoEmit

/-! ## One compiler -/

namespace Compiler

/-- A compiler that was not asked to compile yet. -/
structure IsIdle (c : Compiler) : Prop where
  state : c.state = .idle
  files : c.files = []

/-- A compiler that was asked to compile. It knows the files that its layout gives to the namespaces, unless it made a
    dump or two namespaces collided. -/
structure IsDone (c : Compiler) : Prop where
  state : c.state = .done
  dumped : c.settings.dump = true → c.files = []
  collided : ∀ e, c.settings.layout.place c.program.namespaceNames = .error e → c.files = []
  placed : c.settings.dump = false → ∀ files, c.settings.layout.place c.program.namespaceNames = .ok files →
    c.files = files

variable {c : Compiler}

/-- The first run is the run of the program, and after it the compiler is done. -/
theorem compile_of_isIdle (h : c.IsIdle) (t : FileTree) :
    (c.compile t).1.IsDone ∧ (c.compile t).1.program = c.program ∧ (c.compile t).1.settings = c.settings ∧
      (c.compile t).2 = c.program.run c.settings t := by
  have hran : c.ran = false := by simp [ran, h.state]
  have hcompile : ∀ c' o, (if c.settings.dump then c.dumpAll t else c.emitAll t) = (c', o) →
      c.compile t = ({ c' with state := .done }, { o with log := .writing c.settings.output :: o.log }) := by
    intro c' o hstage
    rw [compile, hran, hstage]
    rfl
  cases hdump : c.settings.dump with
  | true =>
    rw [hcompile _ _ (by rw [if_pos hdump, dumpAll]), Program.run, Program.place, if_pos hdump]
    refine ⟨⟨rfl, fun _ => h.files, fun _ _ => h.files, fun hno => ?_⟩, rfl, rfl, ?_⟩
    · exact absurd (hdump.symm.trans hno) (by decide)
    · simp only [hdump, if_true]
  | false =>
    have hnot : ¬ c.settings.dump = true := by simp [hdump]
    cases hplace : c.settings.layout.place c.program.namespaceNames with
    | error e =>
      rw [hcompile _ _ (by rw [if_neg hnot, emitAll, hplace]), Program.run, Program.place, if_neg hnot, hplace]
      refine ⟨⟨rfl, fun _ => h.files, fun _ _ => h.files, fun _ files hfiles => ?_⟩, rfl, rfl, rfl⟩
      cases hplace.symm.trans hfiles
    | ok files =>
      -- the files are known before the first of them is written, so they stay if one is refused
      rw [hcompile _ _ (by rw [if_neg hnot, emitAll, hplace]), Program.run, Program.place, if_neg hnot, hplace]
      refine ⟨⟨rfl, fun hyes => absurd hyes hnot, fun e he => ?_, fun _ files' hfiles => ?_⟩, rfl, rfl, ?_⟩
      · cases hplace.symm.trans he
      · exact Except.ok.inj (hplace.symm.trans hfiles)
      · simp only [hdump, Bool.false_eq_true, if_false]

/-- A later run is refused and changes nothing. -/
theorem compile_of_isDone (h : c.IsDone) (t : FileTree) : c.compile t = (c, ⟨t, [], .error .alreadyRan⟩) := by
  have hran : c.ran = true := by simp [ran, h.state]
  rw [compile, if_pos hran]

end Compiler

/-! ## One action -/

namespace Session

theorem compiler?_setCompiler (s : Session) (id : String) (c : Compiler) (other : String) :
    (s.setCompiler id c).compiler? other = if other = id then some c else s.compiler? other := by
  rw [compiler?, setCompiler, List.lookup_cons]
  by_cases h : other = id
  · simp [h]
  · rw [beq_false_of_ne h, if_neg h, compiler?]
    -- what was taken out has another name
    induction s.compilers with
    | nil => rfl
    | cons first rest ih =>
      obtain ⟨name, x⟩ := first
      rw [List.lookup_cons]
      by_cases hname : name = id
      · rw [List.filter_cons_of_neg (by simp [hname]), beq_false_of_ne (hname ▸ h)]
        exact ih
      · rw [List.filter_cons_of_pos (by simp [hname]), List.lookup_cons]
        cases other == name with
        | true => rfl
        | false => exact ih

/-- An action that makes a compiler of a name: there are settings for it. -/
def Makes (s : Session) (id : String) (a : Action) : Prop :=
  ∃ program given settings, a = .create id program given ∧ Settings.load s.tree none given = .ok settings

/-- Where the compiler of a name comes from: an action makes it, or runs it, or leaves it as it was. -/
theorem compiler?_act {s : Session} {a : Action} {id : String} {c : Compiler}
    (h : (s.act a).1.compiler? id = some c) :
    (∃ given, a = .create id c.program given ∧ Settings.load s.tree none given = .ok c.settings ∧ c.IsIdle) ∨
      (¬ s.Makes id a ∧ a = .compile id ∧ ∃ c₀, s.compiler? id = some c₀ ∧ c = (c₀.compile s.tree).1) ∨
      (¬ s.Makes id a ∧ a ≠ .compile id ∧ s.compiler? id = some c) := by
  have hother : ∀ {a : Action}, (∀ program given, a ≠ .create id program given) → ¬ s.Makes id a := by
    rintro a hne ⟨program, given, settings, rfl, -⟩
    exact hne program given rfl
  cases a with
  | putFile file content => exact .inr (.inr ⟨hother (by simp), by simp, h⟩)
  | putFolder folder => exact .inr (.inr ⟨hother (by simp), by simp, h⟩)
  | remove path => exact .inr (.inr ⟨hother (by simp), by simp, h⟩)
  | create id' program given =>
    cases hload : Settings.load s.tree none given with
    | error e =>
      simp only [act, hload] at h
      refine .inr (.inr ⟨?_, by simp, h⟩)
      rintro ⟨program', given', settings, heq, hok⟩
      cases heq
      cases hload.symm.trans hok
    | ok settings =>
      simp only [act, hload, compiler?_setCompiler] at h
      by_cases hid : id = id'
      · rw [if_pos hid, Option.some.injEq] at h
        subst h hid
        exact .inl ⟨given, rfl, hload, rfl, rfl⟩
      · rw [if_neg hid] at h
        refine .inr (.inr ⟨hother fun program' given' heq => hid ?_, by simp, h⟩)
        cases heq
        rfl
  | compile id' =>
    cases hc : s.compiler? id' with
    | none =>
      simp only [act, hc] at h
      refine .inr (.inr ⟨hother (by simp), ?_, h⟩)
      rintro ⟨⟩
      cases hc.symm.trans h
    | some c₀ =>
      have hset : (s.setCompiler id' (c₀.compile s.tree).1).compiler? id = some c := by
        simp only [act, hc] at h
        exact h
      rw [compiler?_setCompiler] at hset
      by_cases hid : id = id'
      · rw [if_pos hid, Option.some.injEq] at hset
        subst hid
        exact .inr (.inl ⟨hother (by simp), rfl, c₀, hc, hset.symm⟩)
      · rw [if_neg hid] at hset
        refine .inr (.inr ⟨hother (by simp), ?_, hset⟩)
        rintro ⟨⟩
        exact hid rfl
  | run program given =>
    refine .inr (.inr ⟨hother (by simp), by simp, ?_⟩)
    cases hload : Settings.load s.tree none given with
    | error e =>
      simp only [act, hload] at h
      exact h
    | ok settings =>
      simp only [act, hload] at h
      exact h

/-- Asking an idle compiler to compile runs its program. -/
theorem act_compile_of_isIdle {s : Session} {id : String} {c : Compiler} (hc : s.compiler? id = some c)
    (h : c.IsIdle) : (s.act (.compile id)).2 = .outcome (c.program.run c.settings s.tree) := by
  simp only [act, hc]
  rw [(Compiler.compile_of_isIdle h s.tree).2.2.2]

/-- Asking a compiler that is done is refused without a report and without a change. -/
theorem act_compile_of_isDone {s : Session} {id : String} {c : Compiler} (hc : s.compiler? id = some c)
    (h : c.IsDone) :
    (s.act (.compile id)).2 = .outcome ⟨s.tree, [], .error .alreadyRan⟩ ∧ (s.act (.compile id)).1.tree = s.tree ∧
      ∀ other, (s.act (.compile id)).1.compiler? other = s.compiler? other := by
  simp only [act, hc, Compiler.compile_of_isDone h, true_and]
  intro other
  refine (compiler?_setCompiler s id c other).trans ?_
  split
  · rename_i heq
    rw [heq, hc]
  · rfl

/-! ## Many actions -/

/-- The session after some actions, started without compilers. -/
def after (t : FileTree) (actions : List Action) : Session :=
  actions.foldl (fun s a => (s.act a).1) ⟨t, []⟩

theorem after_concat (t : FileTree) (actions : List Action) (a : Action) :
    after t (actions ++ [a]) = ((after t actions).act a).1 := by
  simp [after]

/-- The compiler `c` of the name `id` was made, then the actions `since` were done, and none of these made another
    compiler of that name. -/
def MadeBefore (t : FileTree) (actions : List Action) (id : String) (c : Compiler) (since : List Action) : Prop :=
  ∃ before given, actions = before ++ .create id c.program given :: since ∧
    Settings.load (after t before).tree none given = .ok c.settings ∧
    ∀ early a late, since = early ++ a :: late →
      ¬ (after t (before ++ .create id c.program given :: early)).Makes id a

/-- A further action that makes no compiler of the name is one more since the compiler was made. -/
theorem MadeBefore.concat {t : FileTree} {actions since : List Action} {id : String} {c c' : Compiler} {a : Action}
    (h : MadeBefore t actions id c since) (hprogram : c'.program = c.program) (hsettings : c'.settings = c.settings)
    (ha : ¬ (after t actions).Makes id a) : MadeBefore t (actions ++ [a]) id c' (since ++ [a]) := by
  obtain ⟨before, given, rfl, hload, hnone⟩ := h
  refine ⟨before, given, by rw [hprogram]; simp, hsettings ▸ hload, ?_⟩
  rw [hprogram]
  intro early b late hsplit
  rcases List.eq_nil_or_concat late with rfl | ⟨late', x, rfl⟩
  · obtain ⟨rfl, hb⟩ := List.append_inj' hsplit rfl
    cases hb
    exact ha
  · rw [List.concat_eq_append, ← List.cons_append, ← List.append_assoc] at hsplit
    exact hnone early b late' (List.append_inj' hsplit rfl).1

/-- How the compiler `c` of the name `id` stands, and what comes of asking it to compile, after `actions` of which
    `since` came after it was made. -/
structure Standing (t : FileTree) (actions : List Action) (id : String) (c : Compiler) (since : List Action) :
    Prop where
  made : MadeBefore t actions id c since
  idle : .compile id ∉ since → c.IsIdle ∧
    ((after t actions).act (.compile id)).2 = .outcome (c.program.run c.settings (after t actions).tree)
  done : .compile id ∈ since → c.IsDone ∧
    ((after t actions).act (.compile id)).2 = .outcome ⟨(after t actions).tree, [], .error .alreadyRan⟩ ∧
    ((after t actions).act (.compile id)).1.tree = (after t actions).tree ∧
    ∀ other, ((after t actions).act (.compile id)).1.compiler? other = (after t actions).compiler? other

/-- What a compiler is follows from the actions since it was made. -/
theorem exists_madeBefore {t : FileTree} {actions : List Action} {id : String} {c : Compiler}
    (h : (after t actions).compiler? id = some c) :
    ∃ since, MadeBefore t actions id c since ∧ (.compile id ∉ since → c.IsIdle) ∧ (.compile id ∈ since → c.IsDone) := by
  induction actions using List.reverseRecOn generalizing c with
  | nil => cases h
  | append_singleton actions a ih =>
    rw [after_concat] at h
    rcases compiler?_act h with ⟨given, rfl, hload, hidle⟩ | ⟨hmakes, rfl, c₀, hc₀, rfl⟩ | ⟨hmakes, hne, hc⟩
    · refine ⟨[], ⟨actions, given, rfl, hload, fun early a late hsplit => ?_⟩, fun _ => hidle, fun hmem => ?_⟩
      · simp at hsplit
      · cases hmem
    · obtain ⟨since, hmade, hidle, hdone⟩ := ih hc₀
      by_cases hmem : .compile id ∈ since
      · rw [Compiler.compile_of_isDone (hdone hmem)]
        exact ⟨_, hmade.concat rfl rfl hmakes, fun hnot => absurd (by simp) hnot, fun _ => hdone hmem⟩
      · obtain ⟨hthen, hprogram, hsettings, -⟩ := Compiler.compile_of_isIdle (hidle hmem) (after t actions).tree
        exact ⟨_, hmade.concat hprogram hsettings hmakes, fun hnot => absurd (by simp) hnot, fun _ => hthen⟩
    · obtain ⟨since, hmade, hidle, hdone⟩ := ih hc
      refine ⟨_, hmade.concat rfl rfl hmakes, fun hnot => hidle fun hmem => hnot (by simp [hmem]), fun hmem => ?_⟩
      rcases List.mem_append.1 hmem with hmem | hmem
      · exact hdone hmem
      · exact absurd (List.mem_singleton.1 hmem).symm hne

/-- In every session, a compiler is idle until it is first asked to compile, which runs its program; from then on it
    is done, however that run ended, and is only refused. -/
theorem compilers_run_once (t : FileTree) (actions : List Action) (id : String) (c : Compiler)
    (h : (after t actions).compiler? id = some c) : ∃ since, Standing t actions id c since := by
  obtain ⟨since, hmade, hidle, hdone⟩ := exists_madeBefore h
  refine ⟨since, hmade, fun hnot => ⟨hidle hnot, ?_⟩, fun hmem => ⟨hdone hmem, ?_⟩⟩
  · exact act_compile_of_isIdle h (hidle hnot)
  · exact act_compile_of_isDone h (hdone hmem)

end Session

/-! ## A run that fails -/

def shopProgram : Program :=
  ⟨[⟨"Shop", [], []⟩]⟩

/-- A file stands where the output folder goes while the compiler runs, and is gone afterwards. -/
def blockedSession : List Action :=
  [.putFile ⟨.here, ["out"]⟩ "taken".toUTF8, .create "shop" shopProgram [("output_path", .text "out")],
    .compile "shop", .remove ⟨.here, ["out"]⟩]

/-- The compiler after its run was refused. -/
def shopCompiler : Compiler where
  program := shopProgram
  settings := { output := ⟨.here, ["out"]⟩ }
  state := .done
  files := [("Shop", ⟨.here, ["shop.proto"]⟩)]

section

set_option maxRecDepth 2000

theorem blockedSession_run_once :
    (Session.after {} blockedSession).compiler? "shop" = some shopCompiler ∧
      ∃ since, Session.Standing {} blockedSession "shop" shopCompiler since := by
  have hcompiler : (Session.after {} blockedSession).compiler? "shop" = some shopCompiler := by cbv
  exact ⟨hcompiler, Session.compilers_run_once {} blockedSession "shop" shopCompiler hcompiler⟩

end

end ProtoEmit
