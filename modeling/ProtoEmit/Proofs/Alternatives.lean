/-
  Which fields are alternatives.

  A mark may list a name several times, and several fields may have one name. The two are matched in order: the
  first mention of a name takes the first field of that name, the next mention takes the next one, and a mention
  for which no field is left takes nothing. So of each name the first fields are taken, as many as the mark asks
  for, and the others stay in their places.
-/

import ProtoEmit.Proofs.Contents
import ProtoEmit.Proofs.Reordering

namespace ProtoEmit

/-! ## Ranks

The rank of an item counts the earlier items with its key. A list and its tail differ in the ranks of one key
only, which is how the inductions below go. -/

section Ranks

variable {α κ : Type} [DecidableEq κ] (key : α → κ)

/-- Each item with the number of earlier items that have its key. -/
def ranked (items : List α) : List (α × Nat) :=
  items.zipIdx.map fun p => (p.1, (items.take p.2).countP fun b => key b = key p.1)

theorem ranked_cons (a : α) (items : List α) :
    ranked key (a :: items) =
      (a, 0) :: (ranked key items).map fun p => (p.1, if key p.1 = key a then p.2 + 1 else p.2) := by
  unfold ranked
  rw [List.zipIdx_cons, List.map_cons, List.zipIdx_succ, List.map_map, List.map_map]
  refine congrArg₂ List.cons (by simp) (List.map_congr_left fun p _ => ?_)
  by_cases h : key p.1 = key a
  · simp [h]
  · simp [h, Ne.symm h]

/-- What is left of a list if, of each key, the first items go: as many of them as the quota says. -/
def beyondQuota (quota : κ → Nat) (items : List α) : List α :=
  ((ranked key items).filter fun p => quota (key p.1) ≤ p.2).map Prod.fst

variable {key}

/-- The first item stays if its quota is used up. Otherwise it counts against the quota of the later ones. -/
theorem beyondQuota_cons (quota : κ → Nat) (a : α) (items : List α) :
    beyondQuota key quota (a :: items) =
      (if quota (key a) = 0 then [a] else [])
        ++ beyondQuota key (fun x => if x = key a then quota x - 1 else quota x) items := by
  have hlater : ((ranked key items).map fun p => (p.1, if key p.1 = key a then p.2 + 1 else p.2)).filter
        (fun p => quota (key p.1) ≤ p.2) =
      ((ranked key items).filter fun p => (if key p.1 = key a then quota (key p.1) - 1 else quota (key p.1)) ≤ p.2).map
        fun p => (p.1, if key p.1 = key a then p.2 + 1 else p.2) := by
    rw [List.filter_map]
    refine congrArg _ (List.filter_congr fun p _ => ?_)
    by_cases h : key p.1 = key a
    · simp only [Function.comp_apply, h, if_true, decide_eq_decide]
      omega
    · simp [h]
  unfold beyondQuota
  rw [ranked_cons, List.filter_cons, hlater]
  by_cases h : quota (key a) = 0
  · simp [h, Function.comp_def]
  · simp [h, Function.comp_def]

theorem beyondQuota_congr {quota quota' : κ → Nat} {items : List α}
    (h : ∀ a ∈ items, quota (key a) = quota' (key a)) : beyondQuota key quota items = beyondQuota key quota' items := by
  unfold beyondQuota
  refine congrArg _ (List.filter_congr fun p hp => ?_)
  obtain ⟨q, hq, rfl⟩ := List.mem_map.1 hp
  rw [h q.1 (List.fst_mem_of_mem_zipIdx hq)]

/-- Nothing goes if nothing may. -/
theorem beyondQuota_zero (items : List α) : beyondQuota key (fun _ => 0) items = items := by
  induction items with
  | nil => rfl
  | cons a items ih => simp [beyondQuota_cons, ih]

/-- With one more item of a key to go, the first item of that key goes too. -/
theorem beyondQuota_raised (quota : κ → Nat) {a : α} {before : List α} (h : ∀ b ∈ before, key b ≠ key a)
    (after : List α) :
    beyondQuota key (fun x => if x = key a then quota x + 1 else quota x) (before ++ a :: after) =
      beyondQuota key quota (before ++ after) := by
  induction before generalizing quota with
  | nil =>
    have hquota : (fun x => if x = key a then (if x = key a then quota x + 1 else quota x) - 1
        else if x = key a then quota x + 1 else quota x) = quota := by
      funext x
      by_cases hx : x = key a <;> simp [hx]
    rw [List.nil_append, beyondQuota_cons, hquota]
    simp
  | cons b before ih =>
    have hb : key b ≠ key a := h b List.mem_cons_self
    -- an item of another key lowers its own quota, before or after the other one is raised
    have hquota : (fun x => if x = key b then (if x = key a then quota x + 1 else quota x) - 1
          else if x = key a then quota x + 1 else quota x) =
        fun x => if x = key a then (if x = key b then quota x - 1 else quota x) + 1
          else if x = key b then quota x - 1 else quota x := by
      funext x
      by_cases hx : x = key b
      · simp [hx, hb]
      · simp [hx]
    rw [List.cons_append, List.cons_append, beyondQuota_cons, beyondQuota_cons, hquota, if_neg hb,
      ih _ fun c hc => h c (List.mem_cons_of_mem _ hc)]

end Ranks

/-! ## The fields that are taken and those that are left -/

theorem exists_split_of_takeField {name : String} {fields rest : List Field} {f : Field}
    (h : takeField name fields = some (f, rest)) :
    ∃ before after, fields = before ++ f :: after ∧ rest = before ++ after ∧ f.name = name ∧
      ∀ g ∈ before, g.name ≠ name := by
  rw [takeField_eq_takeFirst] at h
  simpa using exists_split_of_takeFirst h

/-- Taking the first field of a name shortens the list of the fields of that name and no other. -/
theorem filter_name_of_takeField {name : String} {fields rest : List Field} {f : Field}
    (h : takeField name fields = some (f, rest)) (n : String) :
    (fields.filter fun g => g.name = n) =
      if n = name then f :: rest.filter fun g => g.name = n else rest.filter fun g => g.name = n := by
  obtain ⟨before, after, rfl, rfl, rfl, hbefore⟩ := exists_split_of_takeField h
  rw [List.filter_append, List.filter_append]
  by_cases hn : n = f.name
  · have hnone : before.filter (fun g => g.name = n) = [] := by
      rw [List.filter_eq_nil_iff]
      intro g hg
      simpa [hn] using hbefore g hg
    rw [if_pos hn, hnone, List.filter_cons_of_pos (by simp [hn])]
    rfl
  · rw [if_neg hn, List.filter_cons_of_neg (by simpa using Ne.symm hn)]

theorem filter_name_of_takeField_none {name : String} {fields : List Field} (h : takeField name fields = none) :
    (fields.filter fun g => g.name = name) = [] := by
  rw [List.filter_eq_nil_iff]
  simpa using takeField_eq_none_iff.1 h

/-- Of each name the first fields are taken, as many as the name is listed. -/
theorem filter_name_takeFields (names : List String) (fields : List Field) (n : String) :
    ((takeFields names fields).1.filter fun f => f.name = n) =
      (fields.filter fun f => f.name = n).take (names.count n) := by
  induction names generalizing fields with
  | nil => simp [takeFields]
  | cons name names ih =>
    rw [takeFields]
    cases htake : takeField name fields with
    | none =>
      by_cases hn : n = name
      · have hnone := filter_name_of_takeField_none htake
        rw [← hn] at hnone
        simp [ih, hnone]
      · rw [List.count_cons_of_ne (Ne.symm hn)]
        exact ih fields
    | some taken =>
      obtain ⟨f, rest⟩ := taken
      have hname : f.name = name := (takeField_perm htake).1
      rw [filter_name_of_takeField htake]
      by_cases hn : n = name
      · subst hn
        rw [if_pos rfl, List.count_cons_self, List.take_succ_cons, List.filter_cons_of_pos (by simp [hname]), ih]
      · rw [if_neg hn, List.count_cons_of_ne (Ne.symm hn),
          List.filter_cons_of_neg (by simpa [hname] using Ne.symm hn), ih]

/-- The `k`-th mention of a name takes the `k`-th field of that name, if there is one. -/
theorem takeFields_taken_eq (names : List String) (fields : List Field) :
    (takeFields names fields).1 =
      (ranked id names).filterMap fun p => (fields.filter fun f => f.name = p.1)[p.2]? := by
  induction names generalizing fields with
  | nil => rfl
  | cons name names ih =>
    rw [takeFields, ranked_cons, List.filterMap_cons, List.filterMap_map]
    cases htake : takeField name fields with
    | none =>
      have hnone := filter_name_of_takeField_none htake
      simp only [hnone, List.getElem?_nil, ih]
      refine List.filterMap_congr fun p _ => ?_
      by_cases hp : p.1 = name
      · simp [hp, hnone]
      · simp [hp]
    | some taken =>
      obtain ⟨f, rest⟩ := taken
      simp only [filter_name_of_takeField htake, if_true, List.getElem?_cons_zero, ih]
      refine congrArg _ (List.filterMap_congr fun p _ => ?_)
      by_cases hp : p.1 = name
      · simp [hp]
      · simp [hp]

/-- Of each name the fields after those that are taken stay. -/
theorem takeFields_left_eq (names : List String) (fields : List Field) :
    (takeFields names fields).2 = beyondQuota Field.name (fun n => names.count n) fields := by
  induction names generalizing fields with
  | nil => simp [takeFields, beyondQuota_zero]
  | cons name names ih =>
    rw [takeFields]
    cases htake : takeField name fields with
    | none =>
      have hnone := takeField_eq_none_iff.1 htake
      rw [ih]
      refine beyondQuota_congr fun f hf => ?_
      rw [List.count_cons_of_ne (Ne.symm (hnone f hf))]
    | some taken =>
      obtain ⟨f, rest⟩ := taken
      obtain ⟨before, after, rfl, rfl, rfl, hbefore⟩ := exists_split_of_takeField htake
      have hcount : (fun n => (f.name :: names).count n) =
          fun n => if n = f.name then names.count n + 1 else names.count n := by
        funext n
        by_cases hn : n = f.name
        · simp [hn]
        · simp [hn, Ne.symm hn]
      rw [hcount, beyondQuota_raised _ hbefore]
      exact ih (before ++ after)

/-! ## The message -/

namespace Message

/-- The names that the first mark of a message lists, if it has a mark. -/
def marked (m : Message) : List String :=
  match m.nested.find? Declaration.isMark with
  | some (.enumeration e) => e.values.map (·.name)
  | _ => []

theorem markedNames_nested (m : Message) : markedNames m.nested = m.marked := by
  unfold marked
  induction m.nested with
  | nil => rfl
  | cons d ds ih =>
    cases d with
    | message n => exact ih
    | enumeration e =>
      rw [markedNames]
      by_cases he : e.name = oneofMark
      · rw [if_pos he, List.find?_cons_of_pos ((Declaration.isMark_enumeration_iff e).2 he)]
      · rw [if_neg he, List.find?_cons_of_neg (mt (Declaration.isMark_enumeration_iff e).1 he)]
        exact ih

/-- Of each name the alternatives of a message are the first fields, as many as the first mark lists and the
    message has. They stand in the order of the mark, the `k`-th mention of a name giving the `k`-th field of that
    name, if there is one. The other fields stay in their order, and so do the nested types, of which only
    the enumerations with the name of the mark are left out. -/
theorem alternatives_by_mention (m : Message) :
    (∀ n, (m.grouping.group.filter fun f => f.name = n) =
        (m.fields.filter fun f => f.name = n).take
          (min (m.marked.count n) (m.fields.countP fun f => f.name = n))) ∧
      m.grouping.group = (ranked id m.marked).filterMap
        (fun p => (m.fields.filter fun f => f.name = p.1)[p.2]?) ∧
      m.grouping.flat = beyondQuota Field.name (fun n => m.marked.count n) m.fields ∧
      (m.grouping.group ++ m.grouping.flat).Perm m.fields ∧
      m.grouping.types = m.nested.filter fun d => !(d.isEnumeration && d.name == "MessageOneofCase") := by
  have hgroup : m.grouping.group = (takeFields m.marked m.fields).1 := by
    rw [← markedNames_nested]
    rfl
  have hflat : m.grouping.flat = (takeFields m.marked m.fields).2 := by
    rw [← markedNames_nested]
    rfl
  refine ⟨fun n => ?_, ?_, ?_, m.grouping_perm, rfl⟩
  · rw [hgroup, filter_name_takeFields, List.countP_eq_length_filter, ← List.take_eq_take_min]
  · rw [hgroup, takeFields_taken_eq]
  · rw [hflat, takeFields_left_eq]

end Message

end ProtoEmit
