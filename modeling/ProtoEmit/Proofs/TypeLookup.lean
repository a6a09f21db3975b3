/-
  Looking up the type names that are printed.

  A reader of the output finds a type by its printed name in the scope of the message that uses it: the innermost
  message around the use that declares a type of the name's first part wins, then the package level, and the
  other parts are followed from there. A printed name leaves out what its path shares with the scope, without
  asking which types the messages further in declare. So the name leads back to the type that it stands for
  exactly if none of those messages declares a type of the name's first part. What is left out is all that is shared,
  up to the last name of the path, and put before the printed name it gives the path again.
-/

import Mathlib.Order.Bounds.Basic
import ProtoEmit.Proofs.Nesting
import ProtoEmit.Proofs.Split

namespace ProtoEmit

/-! ## The rule of look-up -/

/-- The greatest number up to a bound for which a test holds. -/
def greatestUpTo (test : Nat → Bool) : Nat → Option Nat
  | 0 => if test 0 then some 0 else none
  | k + 1 => if test (k + 1) then some (k + 1) else greatestUpTo test k

/-- The type that the parts of a name lead to from inside a message. `declared` are the paths of all types, and
    `scope` are the names of the messages around the use, outermost first: its first `k` names are the scope that
    is `k` messages deep. -/
def followParts (declared : List (List String)) (scope parts : List String) : Option (List String) :=
  match greatestUpTo (fun k => declared.contains (scope.take k ++ parts.take 1)) scope.length with
  | some k => if declared.contains (scope.take k ++ parts) then some (scope.take k ++ parts) else none
  | none => none

/-- The type that a name stands for inside a message. -/
def resolveType (declared : List (List String)) (scope : List String) (name : String) : Option (List String) :=
  followParts declared scope (Text.split '.' name)

theorem greatestUpTo_eq_some_iff (test : Nat → Bool) (bound k : Nat) :
    greatestUpTo test bound = some k ↔ k ≤ bound ∧ test k = true ∧ ∀ j, k < j → j ≤ bound → test j = false := by
  induction bound with
  | zero =>
    by_cases h : test 0 = true
    · rw [greatestUpTo, if_pos h, Option.some.injEq]
      constructor
      · rintro rfl
        exact ⟨le_refl 0, h, fun j hj hj' => absurd hj (by omega)⟩
      · rintro ⟨hk, -, -⟩
        omega
    · rw [greatestUpTo, if_neg h]
      constructor
      · intro hnone
        cases hnone
      · rintro ⟨hk, htest, -⟩
        obtain rfl : k = 0 := by omega
        exact absurd htest h
  | succ bound ih =>
    by_cases h : test (bound + 1) = true
    · rw [greatestUpTo, if_pos h, Option.some.injEq]
      constructor
      · rintro rfl
        exact ⟨le_refl _, h, fun j hj hj' => absurd hj (by omega)⟩
      · rintro ⟨hk, -, hnone⟩
        by_contra hne
        have := hnone (bound + 1) (by omega) (le_refl _)
        rw [h] at this
        cases this
    · rw [greatestUpTo, if_neg h, ih]
      constructor
      · rintro ⟨hk, htest, hnone⟩
        refine ⟨by omega, htest, fun j hj hj' => ?_⟩
        by_cases hlast : j = bound + 1
        · rw [hlast]
          simpa using h
        · exact hnone j hj (by omega)
      · rintro ⟨hk, htest, hnone⟩
        have hk' : k ≠ bound + 1 := by
          rintro rfl
          exact h htest
        exact ⟨by omega, htest, fun j hj hj' => hnone j hj (by omega)⟩

/-! ## The part of a path that a scope shares -/

/-- How many messages enclose both a scope and the type at a path. -/
def sharedDepth (scope path : List String) : Nat :=
  ((scope.zip path.dropLast).takeWhile fun p => p.1 == p.2).length

/-- Whether a message that encloses the scope but not the type at a path, or the innermost one itself, declares a
    type of the name with which the printed path starts. -/
def Shadowed (declared : List (List String)) (scope path : List String) : Prop :=
  ∃ k ≤ scope.length, sharedDepth scope path < k ∧
    scope.take k ++ (path.drop (sharedDepth scope path)).take 1 ∈ declared

instance (declared : List (List String)) (scope path : List String) : Decidable (Shadowed declared scope path) :=
  inferInstanceAs (Decidable (∃ k ≤ scope.length, _))

theorem sharedDepth_cons_cons (own : String) (scope : List String) (name next : String) (path : List String) :
    sharedDepth (own :: scope) (name :: next :: path) =
      if own = name then sharedDepth scope (next :: path) + 1 else 0 := by
  by_cases h : own = name
  · simp [sharedDepth, List.dropLast, h]
  · simp [sharedDepth, List.dropLast, h]

/-- A printed path is the path without the part that it shares with the scope. -/
theorem relativeTo_eq_drop (scope path : List String) : relativeTo scope path = path.drop (sharedDepth scope path) := by
  fun_induction relativeTo scope path with
  | case1 scope name next path ih =>
    rw [sharedDepth_cons_cons, if_pos rfl, List.drop_succ_cons]
    exact ih
  | case2 own scope name next path hne => rw [sharedDepth_cons_cons, if_neg hne, List.drop_zero]
  | case3 scope path hcases =>
    have hzero : sharedDepth scope path = 0 := by
      match scope, path, hcases with
      | [], path, _ => rfl
      | own :: scope, [], _ => rfl
      | own :: scope, [name], _ => rfl
      | own :: scope, name :: next :: path, hcases => exact absurd rfl (hcases own scope name next path rfl)
    rw [hzero, List.drop_zero]

theorem sharedDepth_lt (scope : List String) {path : List String} (hne : path ≠ []) :
    sharedDepth scope path < path.length := by
  have hle := (List.takeWhile_sublist (l := scope.zip path.dropLast) fun p => p.1 == p.2).length_le
  have hpos := List.length_pos_iff.2 hne
  rw [List.length_zip, List.length_dropLast] at hle
  unfold sharedDepth
  omega

theorem sharedDepth_le (scope path : List String) : sharedDepth scope path ≤ scope.length := by
  have hle := (List.takeWhile_sublist (l := scope.zip path.dropLast) fun p => p.1 == p.2).length_le
  rw [List.length_zip] at hle
  unfold sharedDepth
  omega

theorem take_sharedDepth (scope path : List String) :
    scope.take (sharedDepth scope path) = path.take (sharedDepth scope path) := by
  induction scope generalizing path with
  | nil => simp [sharedDepth]
  | cons own scope ih =>
    match path with
    | [] => simp [sharedDepth]
    | [name] => simp [sharedDepth]
    | name :: next :: path =>
      rw [sharedDepth_cons_cons]
      split
      · rename_i heq
        rw [List.take_succ_cons, List.take_succ_cons, ih, heq]
      · rw [List.take_zero, List.take_zero]

/-- No greater part of a path, its last name apart, is shared with a scope. -/
theorem le_sharedDepth {scope path : List String} {k : Nat} (hscope : k ≤ scope.length) (hpath : k < path.length)
    (hshared : scope.take k = path.take k) : k ≤ sharedDepth scope path := by
  induction scope generalizing path k with
  | nil =>
    rw [Nat.le_zero.1 hscope]
    exact Nat.zero_le _
  | cons own scope ih =>
    match k, path with
    | 0, _ => exact Nat.zero_le _
    | k + 1, name :: next :: path =>
      -- the first names agree, and the others are shared by what comes after them
      rw [List.take_succ_cons, List.take_succ_cons] at hshared
      obtain ⟨rfl, hrest⟩ := List.cons.inj hshared
      rw [sharedDepth_cons_cons, if_pos rfl]
      exact Nat.succ_le_succ (ih (Nat.le_of_succ_le_succ hscope) (Nat.lt_of_succ_lt_succ hpath) hrest)
    | k + 1, [_] => exact absurd hpath (by simp)
    | k + 1, [] => exact absurd hpath (by simp)

/-- The shared part of a scope and a path is the longest one that leaves the path its last name. -/
theorem isGreatest_sharedDepth (scope : List String) {path : List String} (hne : path ≠ []) :
    IsGreatest {k | k ≤ scope.length ∧ k < path.length ∧ scope.take k = path.take k} (sharedDepth scope path) := by
  refine ⟨⟨sharedDepth_le scope path, sharedDepth_lt scope hne, take_sharedDepth scope path⟩, ?_⟩
  rintro k ⟨hscope, hpath, hshared⟩
  exact le_sharedDepth hscope hpath hshared

/-! ## Printed names -/

/-- The parts of a printed name are the names of the path that are left. -/
theorem Reference.split_text {r : Reference} {scope : Scope} (h : r.owner = scope.owner) :
    Text.split '.' (r.text scope) = r.segments.drop (sharedDepth scope.path r.segments) := by
  rw [Reference.text, if_pos h, relativeTo_eq_drop]
  refine Text.split_joinDots ?_ ?_
  · have hlt := sharedDepth_lt scope.path (Text.split_ne_nil '.' r.path)
    simpa [Reference.segments] using hlt
  · intro part hpart
    exact Text.not_mem_of_mem_split (List.mem_of_mem_drop hpart)

/-- The name of a type of the same namespace, seen from inside a message: of the scopes that the path of the type
    shares with the message, its last name apart, exactly the longest is left out. The last name stays, and the names
    of that scope with the printed name behind them are the path again. -/
theorem Reference.text_drops_longest_shared_scope {r : Reference} {scope : Scope} (h : r.owner = scope.owner) :
    ∃ k, IsGreatest {k | k ≤ scope.path.length ∧ k < r.segments.length ∧ scope.path.take k = r.segments.take k} k ∧
      (FieldType.reference r).text scope = Text.joinDots (r.segments.drop k) ∧
      (∃ last, r.segments.getLast? = some last ∧
        (Text.split '.' ((FieldType.reference r).text scope)).getLast? = some last) ∧
      Text.joinDots (scope.path.take k ++ [(FieldType.reference r).text scope]) = r.path := by
  have hne : r.segments ≠ [] := Text.split_ne_nil '.' r.path
  have hlt := sharedDepth_lt scope.path hne
  have hleft : r.segments.drop (sharedDepth scope.path r.segments) ≠ [] := by
    rw [Ne, List.drop_eq_nil_iff]
    omega
  have htext : (FieldType.reference r).text scope =
      Text.joinDots (r.segments.drop (sharedDepth scope.path r.segments)) := by
    rw [FieldType.text, Reference.text, if_pos h, relativeTo_eq_drop]
  refine ⟨_, isGreatest_sharedDepth scope.path hne, htext, ⟨_, List.getLast?_eq_some_getLast hne, ?_⟩, ?_⟩
  · -- what is dropped stands before the last name
    have hsplit := Reference.split_text h
    rw [FieldType.text, hsplit, List.getLast?_drop, if_neg (by omega), List.getLast?_eq_some_getLast hne]
  · calc Text.joinDots (scope.path.take (sharedDepth scope.path r.segments) ++ [(FieldType.reference r).text scope])
        = Text.joinDots (r.segments.take (sharedDepth scope.path r.segments) ++
            r.segments.drop (sharedDepth scope.path r.segments)) := by
          rw [htext, Text.joinDots_append_joinDots _ hleft, take_sharedDepth]
      _ = r.path := by rw [List.take_append_drop, Reference.segments, Text.joinDots_split]

/-- A message that names itself shares its whole scope with the path, but the last name is printed. -/
theorem self_reference_keeps_last_name :
    IsGreatest {k | k ≤ ["Outer", "Inner"].length ∧ k < ["Outer", "Inner"].length ∧
        ["Outer", "Inner"].take k = ["Outer", "Inner"].take k} 1 ∧
      (FieldType.reference ⟨"Shop", "Outer.Inner"⟩).text ⟨"Shop", ["Outer", "Inner"]⟩ = "Inner" ∧
      Text.joinDots (["Outer"] ++ ["Inner"]) = "Outer.Inner" := by
  have hsegments : Reference.segments ⟨"Shop", "Outer.Inner"⟩ = ["Outer", "Inner"] := by decide +kernel
  have hone : IsGreatest {k | k ≤ ["Outer", "Inner"].length ∧ k < ["Outer", "Inner"].length ∧
      ["Outer", "Inner"].take k = ["Outer", "Inner"].take k} 1 :=
    ⟨⟨by decide, by decide, rfl⟩, fun k hk => Nat.le_of_lt_succ hk.2.1⟩
  obtain ⟨k, hk, htext, -, hpath⟩ :=
    @Reference.text_drops_longest_shared_scope ⟨"Shop", "Outer.Inner"⟩ ⟨"Shop", ["Outer", "Inner"]⟩ rfl
  rw [hsegments] at hk htext
  obtain rfl : k = 1 := hk.unique hone
  have hprinted : (FieldType.reference ⟨"Shop", "Outer.Inner"⟩).text ⟨"Shop", ["Outer", "Inner"]⟩ = "Inner" := by
    rw [htext]
    rfl
  rw [hprinted] at hpath
  exact ⟨hone, hprinted, hpath⟩

theorem followParts_eq_some_iff {declared : List (List String)} {scope parts found : List String} :
    followParts declared scope parts = some found ↔
      ∃ k, greatestUpTo (fun k => declared.contains (scope.take k ++ parts.take 1)) scope.length = some k ∧
        scope.take k ++ parts = found ∧ found ∈ declared := by
  unfold followParts
  cases greatestUpTo (fun k => declared.contains (scope.take k ++ parts.take 1)) scope.length with
  | none => simp
  | some k =>
    simp only [Option.some.injEq, exists_eq_left', Option.ite_none_right_eq_some, List.contains_iff_mem]
    constructor
    · rintro ⟨hmem, rfl⟩
      exact ⟨rfl, hmem⟩
    · rintro ⟨rfl, hmem⟩
      exact ⟨hmem, rfl⟩

/-- The first part of what is left of a declared path is looked for in vain inside the shared part exactly if the
    path is not shadowed. -/
theorem greatestUpTo_eq_sharedDepth_iff {declared : List (List String)} {scope path : List String}
    (hfirst : path.take (sharedDepth scope path + 1) ∈ declared) :
    greatestUpTo (fun k => declared.contains (scope.take k ++ (path.drop (sharedDepth scope path)).take 1))
        scope.length = some (sharedDepth scope path) ↔ ¬ Shadowed declared scope path := by
  rw [List.take_add, ← take_sharedDepth] at hfirst
  rw [greatestUpTo_eq_some_iff]
  constructor
  · rintro ⟨-, -, hnone⟩ ⟨k, hk', hk, hmem⟩
    have := hnone k hk hk'
    simp [hmem] at this
  · intro h
    refine ⟨sharedDepth_le _ _, by simpa using hfirst, fun j hj hj' => ?_⟩
    rw [Bool.eq_false_iff]
    intro hmem
    exact h ⟨j, hj', hj, by simpa using hmem⟩

/-- If every shorter path of a declared type is declared, then look-up takes the part of a path that is left after
    a scope back to the path exactly if it is not shadowed. -/
theorem followParts_drop_iff {declared : List (List String)} {scope path : List String} (hne : path ≠ [])
    (hclosed : ∀ k, 0 < k → path.take k ∈ declared) :
    followParts declared scope (path.drop (sharedDepth scope path)) = some path ↔ ¬ Shadowed declared scope path := by
  have hlt := sharedDepth_lt scope hne
  have hpath : path ∈ declared := by
    simpa using hclosed path.length (List.length_pos_iff.2 hne)
  rw [← greatestUpTo_eq_sharedDepth_iff (hclosed _ (Nat.succ_pos _)), followParts_eq_some_iff]
  constructor
  · rintro ⟨k, hk, hwhole, -⟩
    -- both sides have as many names, so the scope is as deep as the shared part
    have hlen := congrArg List.length hwhole
    have hbound := ((greatestUpTo_eq_some_iff _ _ _).1 hk).1
    rw [List.length_append, List.length_take, List.length_drop] at hlen
    have hdepth : k = sharedDepth scope path := by omega
    rw [hk, hdepth]
  · intro h
    refine ⟨_, h, ?_, hpath⟩
    rw [take_sharedDepth, List.take_append_drop]

/-- In the file of a namespace, the type name on the line of a field leads back to the type that the field refers
    to exactly if no message between the field and the part that it shares with that type has a namesake. -/
theorem Namespace.printed_type_resolves_iff {n : Namespace} {path : List String} {c : Message}
    (hemits : n.Emits path c) {f : Field} (hf : f ∈ c.fields) {r : Reference} (htype : f.type = .reference r)
    (howner : r.owner = n.name) (hdeclared : r.segments ∈ n.typePaths) :
    ∃ b inGroup, Block.At n.unitBlocks path b ∧ f.line ⟨n.name, path⟩ inGroup ∈ b.fieldLines ∧
      (resolveType n.typePaths path (f.line ⟨n.name, path⟩ inGroup).type = some r.segments ↔
        ¬ Shadowed n.typePaths path r.segments) := by
  obtain ⟨inGroup, hline⟩ := hemits.exists_line hf
  refine ⟨_, inGroup, hemits.at_outline, hline, ?_⟩
  obtain ⟨b, hat⟩ := Namespace.mem_typePaths.1 hdeclared
  have hclosed : ∀ k, 0 < k → r.segments.take k ∈ n.typePaths := fun k hk => Namespace.mem_typePaths.2 (hat.take hk)
  have htext : (f.line ⟨n.name, path⟩ inGroup).type = r.text ⟨n.name, path⟩ := by
    rw [Field.line, htype]
    rfl
  rw [resolveType, htext, Reference.split_text howner]
  exact followParts_drop_iff (Text.split_ne_nil '.' r.path) hclosed

/-! ## Namesakes -/

/-- A field inside `Outer.Left` that refers to the enumeration `Outer.Outer`. -/
def upwardField : Field :=
  ⟨"Kind", .reference ⟨"Shop", "Outer.Outer"⟩, { tag := 1 }⟩

/-- A message with an enumeration of its own name next to the message that uses it. -/
def namesakeAbove : Namespace :=
  ⟨"Shop", [⟨"Outer", "", [], [.enumeration ⟨"Outer", "", [], true⟩,
    .message ⟨"Left", "", [upwardField], [], true⟩], false⟩], []⟩

/-- A namesake further out does no harm. -/
theorem printed_type_resolves_past_outer_namesake :
    namesakeAbove.Emits ["Outer", "Left"] ⟨"Left", "", [upwardField], [], true⟩ ∧
      ["Outer", "Outer"] ∈ namesakeAbove.typePaths ∧
      ¬ Shadowed namesakeAbove.typePaths ["Outer", "Left"] ["Outer", "Outer"] ∧
      ∃ b inGroup, Block.At namesakeAbove.unitBlocks ["Outer", "Left"] b ∧
        upwardField.line ⟨"Shop", ["Outer", "Left"]⟩ inGroup ∈ b.fieldLines ∧
        resolveType namesakeAbove.typePaths ["Outer", "Left"]
          (upwardField.line ⟨"Shop", ["Outer", "Left"]⟩ inGroup).type = some ["Outer", "Outer"] := by
  have hpaths : namesakeAbove.typePaths = [["Outer"], ["Outer", "Outer"], ["Outer", "Left"]] := by decide +kernel
  have hemits : namesakeAbove.Emits ["Outer", "Left"] ⟨"Left", "", [upwardField], [], true⟩ :=
    ⟨_, List.mem_cons_self, rfl, .inside (List.mem_cons_of_mem _ List.mem_cons_self) (.self _)⟩
  have hdeclared : ["Outer", "Outer"] ∈ namesakeAbove.typePaths := by
    rw [hpaths]
    decide
  have hclear : ¬ Shadowed namesakeAbove.typePaths ["Outer", "Left"] ["Outer", "Outer"] := by
    rw [hpaths]
    decide
  obtain ⟨b, inGroup, hat, hline, hiff⟩ :=
    Namespace.printed_type_resolves_iff hemits List.mem_cons_self rfl rfl hdeclared
  exact ⟨hemits, hdeclared, hclear, b, inGroup, hat, hline, hiff.2 hclear⟩

/-- A field inside `Outer.Inner` that refers to `Outer.Inner`. -/
def selfField : Field :=
  ⟨"Parent", .reference ⟨"Shop", "Outer.Inner"⟩, { tag := 1 }⟩

/-- A message inside a message of its own name. -/
def namesakeInside : Namespace :=
  ⟨"Shop", [⟨"Outer", "", [],
    [.message ⟨"Inner", "", [selfField], [.message ⟨"Inner", "", [], [], true⟩], true⟩], false⟩], []⟩

/-- A namesake further in takes the printed name: here the name of `Outer.Inner` leads to `Outer.Inner.Inner`. -/
theorem printed_type_taken_by_inner_namesake :
    namesakeInside.Emits ["Outer", "Inner"] ⟨"Inner", "", [selfField], [.message ⟨"Inner", "", [], [], true⟩], true⟩ ∧
      ["Outer", "Inner"] ∈ namesakeInside.typePaths ∧
      selfField.type.text ⟨"Shop", ["Outer", "Inner"]⟩ = "Inner" ∧
      resolveType namesakeInside.typePaths ["Outer", "Inner"] (selfField.type.text ⟨"Shop", ["Outer", "Inner"]⟩) =
        some ["Outer", "Inner", "Inner"] := by
  have hpaths : namesakeInside.typePaths = [["Outer"], ["Outer", "Inner"], ["Outer", "Inner", "Inner"]] := by decide +kernel
  have htext : selfField.type.text ⟨"Shop", ["Outer", "Inner"]⟩ = "Inner" := by rfl
  refine ⟨⟨_, List.mem_cons_self, rfl, .inside List.mem_cons_self (.self _)⟩, ?_, htext, ?_⟩
  · rw [hpaths]
    decide
  · rw [hpaths, htext]
    rfl

end ProtoEmit
