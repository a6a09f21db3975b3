/-
  Documents and their texts.

  A document is read back from its text if it keeps to the limits of the reader: no value stands inside more
  containers than there may be, and no integer has more digits. The text is first cut into the tokens of the
  document, and from these the containers are put together again. Whatever is read keeps to the limits, so a document
  beyond them is refused.
-/

import ProtoEmit.Proofs.JsonTokens

namespace ProtoEmit.Json

/-! ## Limits -/

mutual

/-- Whether a document keeps to the limits where there may be `room` more containers around a value. -/
def fits (room : Nat) : Json → Bool
  | .integer n => decide (decimalLength n.natAbs ≤ maxDigits)
  | .array items => items.isEmpty || decide (0 < room) && itemsFit (room - 1) items
  | .object members => members.isEmpty || decide (0 < room) && membersFit (room - 1) members
  | _ => true
termination_by structural j => j

def itemsFit (room : Nat) : List Json → Bool
  | [] => true
  | j :: rest => fits room j && itemsFit room rest
termination_by structural js => js

def membersFit (room : Nat) : List (String × Json) → Bool
  | [] => true
  | (_, j) :: rest => fits room j && membersFit room rest
termination_by structural ms => ms

end

theorem itemsFit_iff {room : Nat} {items : List Json} : itemsFit room items = true ↔ ∀ j ∈ items, j.fits room = true := by
  induction items with
  | nil => simp [itemsFit]
  | cons j items ih => simp [itemsFit, ih]

theorem membersFit_iff {room : Nat} {members : List (String × Json)} :
    membersFit room members = true ↔ ∀ member ∈ members, member.2.fits room = true := by
  induction members with
  | nil => simp [membersFit]
  | cons member members ih =>
    obtain ⟨k, j⟩ := member
    simp [membersFit, ih]

theorem fits_array_iff {room : Nat} {items : List Json} :
    (array items).fits room = true ↔ items = [] ∨ 0 < room ∧ ∀ j ∈ items, j.fits (room - 1) = true := by
  simp [fits, itemsFit_iff]

theorem fits_object_iff {room : Nat} {members : List (String × Json)} :
    (object members).fits room = true ↔
      members = [] ∨ 0 < room ∧ ∀ member ∈ members, member.2.fits (room - 1) = true := by
  simp [fits, membersFit_iff]

/-! ## Tokens -/

mutual

/-- The tokens that a document is written with. -/
def tokens : Json → List Token
  | .array items => .openArray :: [.comma].intercalate (itemTokens items) ++ [.closeArray]
  | .object members => .openObject :: [.comma].intercalate (memberTokens members) ++ [.closeObject]
  | .null => [.value .null]
  | .bool b => [.value (.bool b)]
  | .integer n => [.value (.integer n)]
  | .number x => [.value (.number x)]
  | .string s => [.value (.string s)]
termination_by structural j => j

def itemTokens : List Json → List (List Token)
  | [] => []
  | j :: rest => tokens j :: itemTokens rest
termination_by structural js => js

def memberTokens : List (String × Json) → List (List Token)
  | [] => []
  | (k, j) :: rest => (.value (.string k) :: .colon :: tokens j) :: memberTokens rest
termination_by structural ms => ms

end

/-- A text is cut into some tokens, whatever was read before. -/
def Spells (text : String) (ts : List Token) : Prop :=
  ∀ before, ∃ s, Runs Lexing.step text.toList (.between, before) s ∧ Ready (ts.reverse ++ before) s

theorem Spells.of_word {w : String} {v : Json} (hw : w.toList.all isWordChar = true) (hne : w.toList ≠ [])
    (hv : ofWord? w.toList = some v) : Spells w [.value v] :=
  fun before => lexes_word (List.all_eq_true.1 hw) hne hv before

theorem spells_stringText (s : String) : Spells (stringText s) [.value (.string s)] :=
  fun before => ⟨_, lexes_stringText s before, .between _⟩

/-- After a token, a mark of punctuation is a token by itself. -/
theorem Spells.append_mark {text : String} {ts : List Token} (h : Spells text ts) {c : Char} {t : Token}
    (hc : isWordChar c = false) (hmark : ∀ before, startToken before c = some (.between, t :: before)) (before : List Token) :
    Runs Lexing.step (text.toList ++ [c]) (.between, before) (.between, t :: (ts.reverse ++ before)) := by
  obtain ⟨s, hrun, hready⟩ := h before
  exact hrun.append (.singleton ((hready.step_eq hc).trans (hmark _)))

theorem spells_intercalate {texts : List String} {tss : List (List Token)} (h : List.Forall₂ Spells texts tss) :
    Spells (",".intercalate texts) ([.comma].intercalate tss) := by
  induction h with
  | nil => exact fun before => ⟨_, .nil _, .between before⟩
  | @cons text ts texts tss hfirst hrest ih =>
    cases hrest with
    | nil => simpa using hfirst
    | @cons text' ts' texts tss _ _ =>
      intro before
      have hcomma := hfirst.append_mark (show isWordChar ',' = false by decide) (fun _ => rfl) before
      obtain ⟨s, hrun, hready⟩ := ih (.comma :: (ts.reverse ++ before))
      refine ⟨s, ?_, ?_⟩
      · have htext : (",".intercalate (text :: text' :: texts)).toList =
            text.toList ++ [','] ++ (",".intercalate (text' :: texts)).toList := by
          simp [String.toList_intercalate, List.intercalate]
        rw [htext]
        exact hcomma.append hrun
      · have htokens : ([Token.comma].intercalate (ts :: ts' :: tss)).reverse ++ before =
            ([Token.comma].intercalate (ts' :: tss)).reverse ++ .comma :: (ts.reverse ++ before) := by
          simp [List.intercalate]
        rw [htokens]
        exact hready

/-- What is spelled between two marks. -/
theorem Spells.enclosed {first text last : String} {ts : List Token} (h : Spells text ts) {c d : Char} {t u : Token}
    (hfirst : first.toList = [c]) (hopen : ∀ before, startToken before c = some (.between, t :: before))
    (hlast : last.toList = [d]) (hd : isWordChar d = false)
    (hclose : ∀ before, startToken before d = some (.between, u :: before)) :
    Spells (first ++ text ++ last) (t :: ts ++ [u]) := by
  intro before
  refine ⟨_, ?_, .between _⟩
  have hrest := h.append_mark hd hclose (t :: before)
  rw [String.toList_append, String.toList_append, hfirst, hlast]
  simpa using Runs.cons (hopen before) hrest

theorem all_isWordChar_toDigits (n : Nat) : (Nat.toDigits 10 n).all isWordChar = true :=
  List.all_eq_true.2 fun _ hc => isWordChar_of_isDigit (Text.isDigit_of_mem_toDigits hc)

theorem all_isWordChar_toString (n : Int) : (toString n).toList.all isWordChar = true := by
  rw [Text.toList_toString_int, List.all_append, all_isWordChar_toDigits, Bool.and_true]
  split
  · decide
  · rfl

theorem spells_toString {n : Int} (h : decimalLength n.natAbs ≤ maxDigits) :
    Spells (toString n) [.value (.integer n)] := by
  refine .of_word (all_isWordChar_toString n) ?_ (ofWord?_toString h)
  rw [Text.toList_toString_int]
  exact List.append_ne_nil_of_right_ne_nil _ Nat.toDigits_ne_nil

theorem spells_numberText (x : Number) : Spells (numberText x) [.value (.number x)] := by
  cases x with
  | nan => exact .of_word (by decide) (by decide) rfl
  | infinity negative => cases negative <;> exact .of_word (by decide) (by decide) rfl
  | decimal d =>
    have hsign : (if d.negative then "-" else "").toList.all isWordChar = true := by
      split
      · decide
      · decide
    have hdigits : (toString d.digits).toList.all isWordChar = true := by
      have htext : (toString d.digits).toList = Nat.toDigits 10 d.digits := Nat.toList_repr
      rw [htext, all_isWordChar_toDigits]
    have hzero : "0.".toList.all isWordChar = true := by decide
    have he : "e".toList.all isWordChar = true := by decide
    refine .of_word ?_ ?_ (ofWord?_numberText _)
    · rw [numberText]
      simp only [String.toList_append, List.all_append, hsign, hdigits, hzero, he, all_isWordChar_toString,
        Bool.and_self]
    · simp [numberText]

mutual

/-- A document that keeps to the limit on digits is cut into its tokens. -/
theorem spells_text (j : Json) {room : Nat} (h : j.fits room = true) : Spells j.text j.tokens := by
  match j, h with
  | .null, _ =>
    rw [text, tokens]
    exact .of_word (by decide) (by decide) rfl
  | .bool true, _ =>
    rw [text, tokens]
    exact .of_word (by decide) (by decide) rfl
  | .bool false, _ =>
    rw [text, tokens]
    exact .of_word (by decide) (by decide) rfl
  | .integer n, h =>
    rw [fits, decide_eq_true_eq] at h
    rw [text, tokens]
    exact spells_toString h
  | .number x, _ =>
    rw [text, tokens]
    exact spells_numberText x
  | .string s, _ =>
    rw [text, tokens]
    exact spells_stringText s
  | .array items, h =>
    have hitems : ∀ j ∈ items, ∃ room, j.fits room = true := by
      rcases fits_array_iff.1 h with rfl | ⟨-, hitems⟩
      · simp
      · exact fun j hj => ⟨_, hitems j hj⟩
    rw [text, tokens]
    exact (spells_intercalate (spells_items items hitems)).enclosed rfl (fun _ => rfl) rfl (by decide) (fun _ => rfl)
  | .object members, h =>
    have hmembers : ∀ member ∈ members, ∃ room, member.2.fits room = true := by
      rcases fits_object_iff.1 h with rfl | ⟨-, hmembers⟩
      · simp
      · exact fun member hmember => ⟨_, hmembers member hmember⟩
    rw [text, tokens]
    exact (spells_intercalate (spells_members members hmembers)).enclosed rfl (fun _ => rfl) rfl (by decide)
      (fun _ => rfl)
termination_by structural j

theorem spells_items (items : List Json) (h : ∀ j ∈ items, ∃ room, j.fits room = true) :
    List.Forall₂ Spells (itemTexts items) (itemTokens items) := by
  match items, h with
  | [], _ => exact .nil
  | j :: rest, h =>
    obtain ⟨⟨room, hj⟩, hrest⟩ := List.forall_mem_cons.1 h
    exact .cons (spells_text j hj) (spells_items rest hrest)
termination_by structural items

theorem spells_members (members : List (String × Json)) (h : ∀ member ∈ members, ∃ room, member.2.fits room = true) :
    List.Forall₂ Spells (memberTexts members) (memberTokens members) := by
  match members, h with
  | [], _ => exact .nil
  | (k, j) :: rest, h =>
    obtain ⟨⟨room, hj⟩, hrest⟩ := List.forall_mem_cons.1 h
    refine .cons (fun before => ?_) (spells_members rest hrest)
    have hkey := (spells_stringText k).append_mark (show isWordChar ':' = false by decide) (fun _ => rfl) before
    obtain ⟨s, hrun, hready⟩ := spells_text j hj (.colon :: .value (.string k) :: before)
    refine ⟨s, ?_, by simpa using hready⟩
    simpa using hkey.append hrun
termination_by structural members

end

theorem tokens?_text {j : Json} {room : Nat} (h : j.fits room = true) : tokens? j.text.toList = some j.tokens := by
  obtain ⟨s, hrun, hready⟩ := spells_text j h []
  rw [tokens?, hrun, Option.bind_some, hready.finish_eq, List.append_nil, List.reverse_reverse]

/-! ## Containers -/

section Reads

variable {limit : Nat} {stack : List Frame}

/-- No document starts with the end of an array. -/
theorem exists_tokens_eq_cons (j : Json) : ∃ t ts, j.tokens = t :: ts ∧ t ≠ .closeArray := by
  cases j with
  | array items => exact ⟨_, _, by rw [tokens]; rfl, by simp⟩
  | object members => exact ⟨_, _, by rw [tokens]; rfl, by simp⟩
  | _ => exact ⟨_, _, by rw [tokens], by simp⟩

/-- The first item of an array starts as any other value does. -/
theorem step_firstItem {t : Token} (ht : t ≠ .closeArray) :
    Reading.step limit (.firstItem stack) t = Reading.start limit (.array [] :: stack) t := by
  cases t with
  | closeArray => exact absurd rfl ht
  | _ => rfl

theorem runs_firstItem {items : List Json} (hne : items ≠ []) {more : List Token} {r : Reading}
    (h : Runs (Reading.step limit) ([.comma].intercalate (itemTokens items) ++ more) (.value (.array [] :: stack)) r) :
    Runs (Reading.step limit) ([.comma].intercalate (itemTokens items) ++ more) (.firstItem stack) r := by
  obtain ⟨j, rest, rfl⟩ := List.exists_cons_of_ne_nil hne
  obtain ⟨t, ts, htokens, ht⟩ := exists_tokens_eq_cons j
  obtain ⟨ts', hfirst⟩ : ∃ ts', [Token.comma].intercalate (itemTokens (j :: rest)) = t :: ts' := by
    cases rest with
    | nil => exact ⟨ts, by simp [itemTokens, htokens]⟩
    | cons k rest => exact ⟨_, by simp [itemTokens, List.intercalate, htokens]; rfl⟩
  rw [hfirst, List.cons_append, Runs, List.foldlM_cons] at h ⊢
  rw [step_firstItem ht]
  exact h

/-- A value that stands inside few enough containers is started. -/
theorem step_value (hstack : stack.length ≤ limit) (t : Token) :
    Reading.step limit (.value stack) t =
      match t with
      | .value v => some (.after v stack)
      | .openArray => some (.firstItem stack)
      | .openObject => some (.key true [] stack)
      | _ => none := by
  show Reading.start limit stack t = _
  unfold Reading.start
  exact if_neg (Nat.not_lt.2 hstack)

/-- Items that can be read one by one are read up to the end of their array. -/
theorem runs_items {items : List Json} (hne : items ≠ [])
    (h : ∀ j ∈ items, ∀ acc, Runs (Reading.step limit) j.tokens (.value (.array acc :: stack))
      (.after j (.array acc :: stack))) (acc : List Json) :
    Runs (Reading.step limit) ([.comma].intercalate (itemTokens items) ++ [.closeArray])
      (.value (.array acc :: stack)) (.after (.array (acc.reverse ++ items)) stack) := by
  induction items generalizing acc with
  | nil => exact absurd rfl hne
  | cons j items ih =>
    obtain ⟨hj, hitems⟩ := List.forall_mem_cons.1 h
    cases items with
    | nil =>
      have hend : Reading.step limit (.after j (.array acc :: stack)) .closeArray =
          some (.after (.array (acc.reverse ++ [j])) stack) := by
        rw [Reading.step, List.reverse_cons]
      simpa [itemTokens, List.intercalate] using (hj acc).append (.singleton hend)
    | cons k items =>
      have hcomma : Reading.step limit (.after j (.array acc :: stack)) .comma =
          some (.value (.array (j :: acc) :: stack)) := rfl
      have hrest := ih (List.cons_ne_nil k items) hitems (j :: acc)
      rw [List.reverse_cons, List.append_assoc, List.singleton_append] at hrest
      have htokens : [Token.comma].intercalate (itemTokens (j :: k :: items)) ++ [.closeArray] =
          j.tokens ++ .comma :: ([.comma].intercalate (itemTokens (k :: items)) ++ [.closeArray]) := by
        simp [itemTokens, List.intercalate]
      rw [htokens]
      exact (hj acc).append (.cons hcomma hrest)

/-- Members whose values can be read one by one are read up to the end of their object. -/
theorem runs_members {members : List (String × Json)} (hne : members ≠ [])
    (h : ∀ member ∈ members, ∀ acc, Runs (Reading.step limit) member.2.tokens
      (.value (.object acc member.1 :: stack)) (.after member.2 (.object acc member.1 :: stack)))
    (empty : Bool) (acc : List (String × Json)) :
    Runs (Reading.step limit) ([.comma].intercalate (memberTokens members) ++ [.closeObject])
      (.key empty acc stack) (.after (.object (acc.reverse ++ members)) stack) := by
  induction members generalizing acc empty with
  | nil => exact absurd rfl hne
  | cons member members ih =>
    obtain ⟨k, j⟩ := member
    obtain ⟨hj, hmembers⟩ := List.forall_mem_cons.1 h
    have hkey : Reading.step limit (.key empty acc stack) (.value (.string k)) = some (.colon acc k stack) := by
      cases empty <;> rfl
    have hcolon : Reading.step limit (.colon acc k stack) .colon = some (.value (.object acc k :: stack)) := rfl
    cases members with
    | nil =>
      have hend : Reading.step limit (.after j (.object acc k :: stack)) .closeObject =
          some (.after (.object (acc.reverse ++ [(k, j)])) stack) := by
        rw [Reading.step, List.reverse_cons]
      simpa [memberTokens, List.intercalate] using
        Runs.cons hkey (.cons hcolon ((hj acc).append (.singleton hend)))
    | cons next members =>
      have hcomma : Reading.step limit (.after j (.object acc k :: stack)) .comma =
          some (.key false ((k, j) :: acc) stack) := rfl
      have hrest := ih (List.cons_ne_nil next members) hmembers false ((k, j) :: acc)
      rw [List.reverse_cons, List.append_assoc, List.singleton_append] at hrest
      have htokens : [Token.comma].intercalate (memberTokens ((k, j) :: next :: members)) ++ [.closeObject] =
          .value (.string k) :: .colon :: (j.tokens ++ .comma ::
            ([.comma].intercalate (memberTokens (next :: members)) ++ [.closeObject])) := by
        simp [memberTokens, List.intercalate]
      rw [htokens]
      exact .cons hkey (.cons hcolon ((hj acc).append (.cons hcomma hrest)))

mutual

/-- A document that keeps to the limits is put together from its tokens. -/
theorem runs_tokens (j : Json) {stack : List Frame} (hstack : stack.length ≤ limit)
    (h : j.fits (limit - stack.length) = true) :
    Runs (Reading.step limit) j.tokens (.value stack) (.after j stack) := by
  match j, h with
  | .null, _ => exact .singleton (step_value hstack _)
  | .bool b, _ => exact .singleton (step_value hstack _)
  | .integer n, _ => exact .singleton (step_value hstack _)
  | .number x, _ => exact .singleton (step_value hstack _)
  | .string s, _ => exact .singleton (step_value hstack _)
  | .array items, h =>
    have hopen := step_value hstack .openArray
    by_cases hne : items = []
    · subst hne
      exact .cons hopen (.singleton rfl)
    · obtain ⟨hroom, hitems⟩ := (fits_array_iff.1 h).resolve_left hne
      rw [Nat.sub_sub] at hitems
      have hrun := runs_items hne (runs_eachItem items (by omega) hitems) []
      rw [tokens]
      exact .cons hopen (runs_firstItem hne hrun)
  | .object members, h =>
    have hopen := step_value hstack .openObject
    by_cases hne : members = []
    · subst hne
      exact .cons hopen (.singleton rfl)
    · obtain ⟨hroom, hmembers⟩ := (fits_object_iff.1 h).resolve_left hne
      rw [Nat.sub_sub] at hmembers
      have hrun := runs_members hne (runs_eachMember members (by omega) hmembers) true []
      rw [tokens]
      exact .cons hopen hrun
termination_by structural j

theorem runs_eachItem (items : List Json) {stack : List Frame} (hstack : stack.length + 1 ≤ limit)
    (h : ∀ j ∈ items, j.fits (limit - (stack.length + 1)) = true) :
    ∀ j ∈ items, ∀ acc, Runs (Reading.step limit) j.tokens (.value (.array acc :: stack))
      (.after j (.array acc :: stack)) := by
  match items, h with
  | [], _ => simp
  | j :: rest, h =>
    obtain ⟨hj, hrest⟩ := List.forall_mem_cons.1 h
    rw [List.forall_mem_cons]
    exact ⟨fun acc => runs_tokens j hstack hj, runs_eachItem rest hstack hrest⟩
termination_by structural items

theorem runs_eachMember (members : List (String × Json)) {stack : List Frame} (hstack : stack.length + 1 ≤ limit)
    (h : ∀ member ∈ members, member.2.fits (limit - (stack.length + 1)) = true) :
    ∀ member ∈ members, ∀ acc, Runs (Reading.step limit) member.2.tokens
      (.value (.object acc member.1 :: stack)) (.after member.2 (.object acc member.1 :: stack)) := by
  match members, h with
  | [], _ => simp
  | (k, j) :: rest, h =>
    obtain ⟨hj, hrest⟩ := List.forall_mem_cons.1 h
    rw [List.forall_mem_cons]
    exact ⟨fun acc => runs_tokens j hstack hj, runs_eachMember rest hstack hrest⟩
termination_by structural members

end

end Reads

/-- A document that keeps to the limits is read back from its text. -/
theorem readWithin_text {limit : Nat} {j : Json} (h : j.fits limit = true) : readWithin limit j.text = some j := by
  have hrun : j.tokens.foldlM (Reading.step limit) (.value []) = some (.after j []) :=
    runs_tokens j (Nat.zero_le _) h
  simp [readWithin, tokens?_text h, hrun, Reading.finish]

/-! ## What is read keeps to the limits -/

/-- A token whose value, if it has one, may stand inside any number of containers. -/
def Token.Plain (t : Token) : Prop :=
  ∀ v, t = .value v → ∀ room, v.fits room = true

theorem Token.plain_value {v : Json} (hv : ∀ room, v.fits room = true) : (Token.value v).Plain := by
  rintro w ⟨⟩
  exact hv

theorem fits_of_unsigned? {negative : Bool} {w : List Char} {v : Json} (h : unsigned? negative w = some v)
    (room : Nat) : v.fits room = true := by
  unfold unsigned? at h
  simp only at h
  split at h
  · cases h
  · rename_i hwhole
    simp only [Bool.or_eq_true, Bool.not_eq_true', decide_eq_true_eq, not_or, Bool.not_eq_false, not_lt] at hwhole
    obtain ⟨hwhole, hshort⟩ := hwhole
    split at h
    · cases h
      have hne : w.takeWhile Char.isDigit ≠ [] := by
        intro hnil
        rw [hnil] at hwhole
        cases hwhole
      have hlength := decimalLength_ofDigits_le hne fun c hc => List.mem_takeWhile_imp hc
      have habs : (if negative then -(ofDigits (w.takeWhile Char.isDigit) : Int)
          else ofDigits (w.takeWhile Char.isDigit)).natAbs = ofDigits (w.takeWhile Char.isDigit) := by
        split
        · rw [Int.natAbs_neg, Int.natAbs_natCast]
        · rw [Int.natAbs_natCast]
      rw [fits, decide_eq_true_eq, habs]
      exact hlength.trans hshort
    · split at h
      · cases h
      · obtain ⟨e, -, rfl⟩ := Option.map_eq_some_iff.1 h
        rfl
    · obtain ⟨e, -, rfl⟩ := Option.map_eq_some_iff.1 h
      rfl

theorem fits_of_ofWord? {w : List Char} {v : Json} (h : ofWord? w = some v) (room : Nat) : v.fits room = true := by
  unfold ofWord? at h
  iterate 6
    split at h
    · cases h
      rfl
  split at h
  · exact fits_of_unsigned? h room
  · exact fits_of_unsigned? h room

theorem plain_startToken {tokens tokens' : List Token} {c : Char} {l : Lexing}
    (h : startToken tokens c = some (l, tokens')) (hplain : ∀ t ∈ tokens, t.Plain) : ∀ t ∈ tokens', t.Plain := by
  have hmark : ∀ {t : Token}, (∀ v, t ≠ .value v) → ∀ t' ∈ t :: tokens, t'.Plain := by
    intro t ht
    rw [List.forall_mem_cons]
    exact ⟨fun v hv => absurd hv (ht v), hplain⟩
  unfold startToken at h
  split at h
  · cases h
    exact hplain
  · split at h
    · cases h
      exact hplain
    · split at h <;> cases h <;> first | exact hplain | exact hmark (by simp)

theorem plain_step {s s' : Lexing × List Token} {c : Char} (hplain : ∀ t ∈ s.2, t.Plain)
    (h : Lexing.step s c = some s') : ∀ t ∈ s'.2, t.Plain := by
  obtain ⟨l, tokens⟩ := s
  obtain ⟨l', tokens'⟩ := s'
  have hcons : ∀ {v : Json}, (∀ room, v.fits room = true) → ∀ t ∈ Token.value v :: tokens, t.Plain := by
    intro v hv
    rw [List.forall_mem_cons]
    exact ⟨Token.plain_value hv, hplain⟩
  cases l with
  | between => exact plain_startToken h hplain
  | word read =>
    rw [Lexing.step] at h
    split at h
    · cases h
      exact hplain
    · obtain ⟨v, hv, hstart⟩ := Option.bind_eq_some_iff.1 h
      exact plain_startToken hstart (hcons (fits_of_ofWord? hv))
  | text read =>
    rw [Lexing.step] at h
    split at h
    · obtain ⟨cs, -, heq⟩ := Option.map_eq_some_iff.1 h
      cases heq
      exact hcons fun _ => rfl
    · split at h
      · cases h
        exact hplain
      · split at h
        · cases h
        · cases h
          exact hplain
  | escape read =>
    rw [Lexing.step] at h
    split at h
    · cases h
      exact hplain
    · obtain ⟨d, -, heq⟩ := Option.map_eq_some_iff.1 h
      cases heq
      exact hplain
  | hex read missing value =>
    rw [Lexing.step] at h
    obtain ⟨d, -, heq⟩ := Option.map_eq_some_iff.1 h
    simp only at heq
    split at heq
    · cases heq
      exact hplain
    · cases heq
      exact hplain

theorem plain_of_tokens? {cs : List Char} {ts : List Token} (h : tokens? cs = some ts) : ∀ t ∈ ts, t.Plain := by
  obtain ⟨⟨l, tokens⟩, hrun, hfinish⟩ := Option.bind_eq_some_iff.1 h
  have hplain : ∀ t ∈ tokens, t.Plain :=
    Runs.invariant hrun (fun _ _ _ _ => plain_step) (List.forall_mem_nil _)
  cases l with
  | between =>
    cases hfinish
    simpa using hplain
  | word read =>
    obtain ⟨v, hv, rfl⟩ := Option.map_eq_some_iff.1 hfinish
    intro t ht
    rcases List.mem_cons.1 (List.mem_reverse.1 ht) with rfl | ht
    · exact Token.plain_value (fits_of_ofWord? hv)
    · exact hplain t ht
  | text read => cases hfinish
  | escape read => cases hfinish
  | hex read missing value => cases hfinish

/-- What the containers that are open hold so far. -/
def Frame.values : Frame → List Json
  | .array items => items
  | .object members _ => members.map (·.2)

/-- What open containers hold keeps to the limits. -/
def StackFits (limit : Nat) : List Frame → Prop
  | [] => True
  | f :: rest =>
    (∀ v ∈ f.values, rest.length + 1 ≤ limit ∧ v.fits (limit - (rest.length + 1)) = true) ∧ StackFits limit rest

/-- What has been read keeps to the limits. -/
def Reading.Fits (limit : Nat) : Reading → Prop
  | .value stack => StackFits limit stack
  | .firstItem stack => stack.length ≤ limit ∧ StackFits limit stack
  | .key _ members stack => stack.length ≤ limit ∧ StackFits limit (.object members "" :: stack)
  | .colon members k stack => stack.length ≤ limit ∧ StackFits limit (.object members k :: stack)
  | .after v stack => stack.length ≤ limit ∧ v.fits (limit - stack.length) = true ∧ StackFits limit stack

section Limits

variable {limit : Nat} {stack : List Frame}

theorem Reading.fits_start {t : Token} {r : Reading} (ht : t.Plain) (hstack : StackFits limit stack)
    (h : Reading.start limit stack t = some r) : r.Fits limit := by
  unfold Reading.start at h
  split at h
  · cases h
  · rename_i hlength
    have hlength := Nat.not_lt.1 hlength
    split at h
    · cases h
      exact ⟨hlength, ht _ rfl _, hstack⟩
    · cases h
      exact ⟨hlength, hstack⟩
    · cases h
      exact ⟨hlength, by simp [Frame.values], hstack⟩
    · cases h

/-- A container fits if what it holds does. -/
theorem fits_array_of_stack {items : List Json} (h : StackFits limit (.array items :: stack)) :
    (array items.reverse).fits (limit - stack.length) = true := by
  obtain ⟨hitems, -⟩ := h
  rw [fits_array_iff, Nat.sub_sub]
  by_cases hne : items = []
  · exact .inl (by rw [hne]; rfl)
  · obtain ⟨j, hj⟩ := List.exists_mem_of_ne_nil items hne
    have hlength := (hitems j hj).1
    exact .inr ⟨by omega, fun k hk => (hitems k (List.mem_reverse.1 hk)).2⟩

theorem fits_object_of_stack {members : List (String × Json)} {k : String}
    (h : StackFits limit (.object members k :: stack)) :
    (object members.reverse).fits (limit - stack.length) = true := by
  obtain ⟨hmembers, -⟩ := h
  have hvalues : ∀ member ∈ members, stack.length + 1 ≤ limit ∧ member.2.fits (limit - (stack.length + 1)) = true :=
    fun member hmember => hmembers _ (List.mem_map_of_mem hmember)
  rw [fits_object_iff, Nat.sub_sub]
  by_cases hne : members = []
  · exact .inl (by rw [hne]; rfl)
  · obtain ⟨member, hmember⟩ := List.exists_mem_of_ne_nil members hne
    have hlength := (hvalues member hmember).1
    exact .inr ⟨by omega, fun m hm => (hvalues m (List.mem_reverse.1 hm)).2⟩

/-- A value that has been read joins the container around it. -/
theorem stackFits_array_cons {v : Json} {items : List Json} (hlength : stack.length + 1 ≤ limit)
    (hv : v.fits (limit - (stack.length + 1)) = true) (h : StackFits limit (.array items :: stack)) :
    StackFits limit (.array (v :: items) :: stack) :=
  ⟨List.forall_mem_cons.2 ⟨⟨hlength, hv⟩, h.1⟩, h.2⟩

theorem stackFits_object_cons {v : Json} {members : List (String × Json)} {k k' : String}
    (hlength : stack.length + 1 ≤ limit) (hv : v.fits (limit - (stack.length + 1)) = true)
    (h : StackFits limit (.object members k :: stack)) : StackFits limit (.object ((k, v) :: members) k' :: stack) :=
  ⟨List.forall_mem_cons.2 ⟨⟨hlength, hv⟩, h.1⟩, h.2⟩

/-- Each token that is read leaves what has been read within the limits. -/
theorem Reading.fits_step {r r' : Reading} {t : Token} (ht : t.Plain) (hr : r.Fits limit)
    (h : Reading.step limit r t = some r') : r'.Fits limit := by
  cases r with
  | value stack => exact fits_start ht hr h
  | firstItem stack =>
    by_cases hclose : t = .closeArray
    · subst hclose
      cases h
      exact ⟨hr.1, rfl, hr.2⟩
    · have hempty : StackFits limit (.array [] :: stack) := ⟨by simp [Frame.values], hr.2⟩
      rw [step_firstItem hclose] at h
      exact fits_start ht hempty h
  | key empty members stack =>
    cases t with
    | value v =>
      cases v with
      | string k =>
        cases empty <;> cases h <;> exact hr
      | _ => cases empty <;> cases h
    | closeObject =>
      cases empty with
      | true =>
        cases h
        exact ⟨hr.1, rfl, hr.2.2⟩
      | false => cases h
    | _ => cases empty <;> cases h
  | colon members k stack =>
    cases t with
    | colon =>
      cases h
      exact hr.2
    | _ => cases h
  | after v stack =>
    cases stack with
    | nil => cases t <;> cases h
    | cons f stack =>
      -- the value joins the container around it, which is itself one container further out
      obtain ⟨hlength, hv, hstack⟩ := hr
      cases f with
      | array items =>
        have hjoined := stackFits_array_cons hlength hv hstack
        cases t with
        | comma =>
          cases h
          exact hjoined
        | closeArray =>
          cases h
          exact ⟨Nat.le_of_succ_le hlength, fits_array_of_stack hjoined, hstack.2⟩
        | _ => cases h
      | object members k =>
        have hjoined := @stackFits_object_cons _ _ v members k "" hlength hv hstack
        cases t with
        | comma =>
          cases h
          exact ⟨Nat.le_of_succ_le hlength, hjoined⟩
        | closeObject =>
          cases h
          exact ⟨Nat.le_of_succ_le hlength, fits_object_of_stack hjoined, hstack.2⟩
        | _ => cases h

end Limits

/-- Whatever is read keeps to the limits. -/
theorem fits_of_readWithin {limit : Nat} {text : String} {j : Json} (h : readWithin limit text = some j) :
    j.fits limit = true := by
  obtain ⟨ts, hts, h⟩ := Option.bind_eq_some_iff.1 h
  obtain ⟨r, hrun, hfinish⟩ := Option.bind_eq_some_iff.1 h
  have hplain := plain_of_tokens? hts
  have hfits : r.Fits limit :=
    Runs.invariant hrun (fun t ht _ _ => Reading.fits_step (hplain t ht)) trivial
  cases r with
  | after v stack =>
    cases stack with
    | nil =>
      cases hfinish
      exact hfits.2.1
    | cons f stack => cases hfinish
  | value stack => cases hfinish
  | firstItem stack => cases hfinish
  | key empty members stack => cases hfinish
  | colon members k stack => cases hfinish

section Monotone

variable {limit limit' : Nat}

theorem Reading.start_mono (hle : limit ≤ limit') {stack : List Frame} {t : Token} {r : Reading}
    (h : Reading.start limit stack t = some r) : Reading.start limit' stack t = some r := by
  unfold Reading.start at h ⊢
  split at h
  · cases h
  · rename_i hlength
    rw [if_neg (by omega)]
    exact h

theorem Reading.step_mono (hle : limit ≤ limit') {r r' : Reading} {t : Token}
    (h : Reading.step limit r t = some r') : Reading.step limit' r t = some r' := by
  cases r with
  | value stack => exact Reading.start_mono hle h
  | firstItem stack =>
    by_cases hclose : t = .closeArray
    · subst hclose
      exact h
    · rw [step_firstItem hclose] at h ⊢
      exact Reading.start_mono hle h
  | key empty members stack =>
    -- only where a value may start is the limit looked at
    rw [← h]
    cases empty <;> cases t with
      | value v => cases v <;> rfl
      | _ => rfl
  | colon members k stack =>
    rw [← h]
    cases t <;> rfl
  | after v stack =>
    rw [← h]
    cases stack with
    | nil => cases t <;> rfl
    | cons f stack => cases f <;> cases t <;> rfl

/-- With a higher limit, nothing is read otherwise. -/
theorem readWithin_mono (hle : limit ≤ limit') {text : String} {j : Json} (h : readWithin limit text = some j) :
    readWithin limit' text = some j := by
  obtain ⟨ts, hts, h⟩ := Option.bind_eq_some_iff.1 h
  obtain ⟨r, hrun, hfinish⟩ := Option.bind_eq_some_iff.1 h
  have hrun' : ts.foldlM (Reading.step limit') (.value []) = some r :=
    Runs.mono hrun fun _ _ _ => Reading.step_mono hle
  simp [readWithin, hts, hrun', hfinish]

/-- A document that nests too deep is not read back: under a higher limit its text gives the document itself, and so
    it would here. -/
theorem readWithin_text_eq_none (hle : limit ≤ limit') {j : Json} (hfits : j.fits limit' = true)
    (hdeep : j.fits limit = false) : readWithin limit j.text = none := by
  cases hread : readWithin limit j.text with
  | none => rfl
  | some k =>
    have hsame := (readWithin_mono hle hread).symm.trans (readWithin_text hfits)
    obtain rfl := Option.some.inj hsame
    rw [fits_of_readWithin hread] at hdeep
    cases hdeep

end Monotone

end ProtoEmit.Json
