/-
  Reading a column of a table back.

  A cell is shown on the lines that it takes, filled up with blanks. A text of plain characters takes one line: the
  column is as wide as the text or wider, so it is neither broken nor cut, and nothing in it is left out. So where the
  last column has such texts only, they can be read off the lines of the table.
-/

import Mathlib.Data.List.Basic
import ProtoEmit.Proofs.Split
import ProtoEmit.Terminal.Grid

namespace ProtoEmit.Terminal

/-! ## Plain characters -/

/-- A character that is shown as it is: it fills a cell, and ends no line. -/
def isPlain (c : Char) : Bool :=
  charWidth c != 0 && !Text.isLineEnd c

/-- A text of characters that each fill a cell. -/
def Fills (cs : List Char) : Prop :=
  ∀ c ∈ cs, charWidth c ≠ 0

/-- A text that is shown as it is. -/
def IsPlain (cs : List Char) : Prop :=
  ∀ c ∈ cs, isPlain c = true

instance : DecidablePred IsPlain :=
  fun cs => List.decidableBAll (fun c => isPlain c = true) cs

theorem IsPlain.fills {cs : List Char} (h : IsPlain cs) : Fills cs := by
  intro c hc
  have hplain := h c hc
  rw [isPlain, Bool.and_eq_true, bne_iff_ne] at hplain
  exact hplain.1

theorem IsPlain.isLineEnd {cs : List Char} (h : IsPlain cs) {c : Char} (hc : c ∈ cs) : Text.isLineEnd c = false := by
  have hplain := h c hc
  rw [isPlain, Bool.and_eq_true, Bool.not_eq_true'] at hplain
  exact hplain.2

/-- Control characters fill no cell. -/
theorem charWidth_of_lt {c : Char} (h : c.toNat < 32) : charWidth c = 0 := by
  have hrange : Text.inRanges zeroWidthRanges c = true := by
    rw [Text.inRanges, List.any_eq_true]
    refine ⟨(0x0, 0x1F), List.mem_cons_self, ?_⟩
    simp only [Bool.and_eq_true, decide_eq_true_eq]
    omega
  rw [charWidth, if_pos hrange]

theorem Fills.not_mem {cs : List Char} (h : Fills cs) {c : Char} (hc : c.toNat < 32) : c ∉ cs :=
  fun hmem => h c hmem (charWidth_of_lt hc)

theorem Fills.of_append {cs ds : List Char} (h : Fills (cs ++ ds)) : Fills cs ∧ Fills ds :=
  List.forall_mem_append.1 h

theorem fills_blanks (count : Nat) : Fills (blanks count) := by
  intro c hc
  rw [(List.mem_replicate.1 hc).2]
  decide +kernel

/-! ## Widths -/

theorem Measure.add_of_charWidth {m : Measure} (hm : m.joined = false) {c : Char} (hc : charWidth c ≠ 0) :
    m.add c = { m with width := m.width + charWidth c, last := some c } := by
  have hjoiner : c ≠ joiner := by
    rintro rfl
    exact hc (by decide +kernel)
  have hselector : c ≠ pictureSelector := by
    rintro rfl
    exact hc (by decide +kernel)
  rw [Measure.add, if_neg (by simp [hm]), if_neg hjoiner, if_neg hselector, if_neg hc]

/-- A text is as wide after another one as it is alone, and it leaves no joiner behind. -/
theorem Fills.foldl_add {cs : List Char} (h : Fills cs) {m : Measure} (hm : m.joined = false) :
    (cs.foldl Measure.add m).width = m.width + textWidth cs ∧ (cs.foldl Measure.add m).joined = false := by
  induction cs generalizing m with
  | nil => exact ⟨rfl, hm⟩
  | cons c cs ih =>
    obtain ⟨hc, hcs⟩ := List.forall_mem_cons.1 h
    rw [textWidth, List.foldl_cons, List.foldl_cons, m.add_of_charWidth hm hc, Measure.add_of_charWidth rfl hc]
    have hafter := ih hcs (m := { m with width := m.width + charWidth c, last := some c }) hm
    have halone := ih hcs (m := ⟨0 + charWidth c, some c, false⟩) rfl
    refine ⟨?_, hafter.2⟩
    rw [hafter.1, halone.1]
    show m.width + charWidth c + textWidth cs = m.width + (0 + charWidth c + textWidth cs)
    omega

theorem Fills.textWidth_append {cs ds : List Char} (h : Fills (cs ++ ds)) :
    textWidth (cs ++ ds) = textWidth cs + textWidth ds := by
  obtain ⟨hcs, hds⟩ := h.of_append
  rw [textWidth, List.foldl_append]
  exact (hds.foldl_add (hcs.foldl_add rfl).2).1

theorem textWidth_singleton {c : Char} (hc : charWidth c ≠ 0) : textWidth [c] = charWidth c := by
  rw [textWidth, List.foldl_cons, List.foldl_nil, Measure.add_of_charWidth rfl hc]
  exact Nat.zero_add _

theorem Fills.length_le_textWidth {cs : List Char} (h : Fills cs) : cs.length ≤ textWidth cs := by
  induction cs with
  | nil => exact Nat.le_refl 0
  | cons c cs ih =>
    obtain ⟨hc, hcs⟩ := List.forall_mem_cons.1 h
    have hrest := ih hcs
    rw [← List.singleton_append, Fills.textWidth_append h, textWidth_singleton hc, List.length_append,
      List.length_singleton]
    omega

theorem textWidth_blanks (count : Nat) : textWidth (blanks count) = count := by
  have hblank : charWidth ' ' = 1 := by decide +kernel
  induction count with
  | zero => rfl
  | succ count ih =>
    have hcons : blanks (count + 1) = [' '] ++ blanks count := rfl
    have hfills : Fills ([' '] ++ blanks count) := fills_blanks (count + 1)
    rw [hcons, hfills.textWidth_append, textWidth_singleton (by rw [hblank]; decide), hblank, ih, Nat.add_comm]

/-- A text that fits is filled up once. -/
theorem Fills.padCell {cs : List Char} (h : Fills cs) {width : Nat} (hfits : textWidth cs ≤ width) :
    padCell width cs = cs ++ blanks (width - textWidth cs) := by
  have hfilled : Fills (cs ++ blanks (width - textWidth cs)) := List.forall_mem_append.2 ⟨h, fills_blanks _⟩
  have hwidth : textWidth (cs ++ blanks (width - textWidth cs)) = width := by
    rw [hfilled.textWidth_append, textWidth_blanks]
    omega
  rw [Terminal.padCell, padRight, padRight, hwidth, Nat.sub_self]
  exact List.append_nil _

/-! ## Lines -/

/-- Nothing of a plain text is left out. -/
theorem IsPlain.visible {s : String} (h : IsPlain s.toList) : visible s = s.toList := by
  refine List.filter_eq_self.2 fun c hc => ?_
  rw [Bool.not_eq_true', ← Bool.not_eq_true]
  intro hcontrol
  refine h.fills c hc (charWidth_of_lt ?_)
  simp only [isCursorControl, Text.inRanges, List.any_cons, List.any_nil, Bool.or_false, Bool.or_eq_true,
    Bool.and_eq_true, decide_eq_true_eq] at hcontrol
  omega

theorem IsPlain.pieces_newline {cs : List Char} (h : IsPlain cs) : Text.pieces '\n' cs = [cs] :=
  Text.pieces_of_not_mem (h.fills.not_mem (by decide))

theorem IsPlain.lines {s : String} (h : IsPlain s.toList) : lines s = [s.toList] := by
  have htab : '\t' ∉ s.toList := h.fills.not_mem (by decide)
  rw [Terminal.lines, h.visible, h.pieces_newline, List.map_singleton, expandTabs, Text.pieces_of_not_mem htab]
  rfl

theorem IsPlain.widestLine {s : String} (h : IsPlain s.toList) : widestLine s = textWidth s.toList := by
  have hended : (Terminal.visible s).map (fun c => if Text.isLineEnd c then '\n' else c) = s.toList := by
    rw [h.visible]
    refine (List.map_congr_left fun c hc => ?_).trans (List.map_id _)
    rw [if_neg (by simp [h.isLineEnd hc]), id]
  simp [Terminal.widestLine, hended, h.pieces_newline]

theorem flatten_cutBeforeWords (cs : List Char) : (cutBeforeWords cs).flatten = cs := by
  induction cs with
  | nil => rfl
  | cons c cs ih =>
    rw [cutBeforeWords]
    split
    · rename_i hnil
      rw [hnil] at ih
      simp [← ih]
    · rename_i w ws hcut
      rw [hcut] at ih
      split
      · simp [← ih]
      · simp [← ih]

/-- The words of a line hold all of it. -/
theorem flatten_words (cs : List Char) : (words cs).flatten = cs := by
  have hcut := flatten_cutBeforeWords (cs.dropWhile Text.isBlank)
  rw [words]
  split
  · simp
  · rename_i w ws hwords
    rw [hwords] at hcut
    rw [List.flatten_cons, List.append_assoc, ← List.flatten_cons, hcut, List.takeWhile_append_dropWhile]

theorem textWidth_trimEnd_le {cs : List Char} (h : Fills cs) : textWidth (Text.trimEnd cs) ≤ textWidth cs := by
  obtain ⟨rest, hrest⟩ : Text.trimEnd cs <+: cs := by
    have hsuffix := (List.dropWhile_suffix Text.isBlank (l := cs.reverse)).reverse
    rwa [List.reverse_reverse] at hsuffix
  rw [← hrest] at h
  conv_rhs => rw [← hrest]
  rw [h.textWidth_append]
  omega

/-- Words that fit all go on one line. -/
theorem foldl_add_of_fits {ws : List (List Char)} (h : Fills ws.flatten) {width : Nat} {f : Filling}
    (hfits : f.cells + textWidth ws.flatten ≤ width) :
    (ws.foldl (Filling.add width) f).full = f.full ∧ (ws.foldl (Filling.add width) f).line = f.line ++ ws.flatten := by
  induction ws generalizing f with
  | nil => simp
  | cons w ws ih =>
    rw [List.flatten_cons] at h hfits
    have htrim := textWidth_trimEnd_le h.of_append.1
    rw [h.textWidth_append] at hfits
    have hadd : f.add width w = ⟨f.full, f.line ++ w, f.cells + textWidth w⟩ := by
      rw [Filling.add, if_pos (by omega)]
    rw [List.foldl_cons, hadd]
    obtain ⟨hfull, hline⟩ := ih h.of_append.2 (f := ⟨f.full, f.line ++ w, f.cells + textWidth w⟩) (by simp only; omega)
    exact ⟨hfull, by rw [hline]; simp⟩

theorem Fills.breakLine {cs : List Char} (h : Fills cs) {width : Nat} (hfits : textWidth cs ≤ width) :
    breakLine width cs = [cs] := by
  have hwords : (words cs).flatten = cs := flatten_words cs
  have hstart : ({} : Filling).cells + textWidth (words cs).flatten ≤ width := by
    rw [hwords]
    simpa using hfits
  obtain ⟨hfull, hline⟩ := foldl_add_of_fits (hwords.symm ▸ h) hstart
  rw [hwords] at hline
  simp only [Terminal.breakLine, hfull, hline]
  rfl

/-- A plain text that fits is shown on one line, as it is. -/
theorem IsPlain.linesWithin {s : String} (h : IsPlain s.toList) {width : Nat} (hfits : textWidth s.toList ≤ width) :
    linesWithin width s = [s.toList] := by
  have hlength : s.toList.length - width = 0 := by
    have := h.fills.length_le_textWidth
    omega
  have hdrop : dropExcessBlanks width s.toList = s.toList := by
    rw [dropExcessBlanks, hlength, Nat.min_zero, Nat.sub_zero, List.take_length]
  have hcut : cutLine width s.toList = s.toList := by
    rw [cutLine, if_neg (Nat.not_lt.2 hfits)]
  rw [Terminal.linesWithin, h.lines, List.flatMap_singleton, h.fills.breakLine hfits, List.map_singleton, hdrop, hcut]

/-! ## The last column -/

/-- The rule between the cells of a table's body. -/
def bodyBar : Char := '│'

/-- The text of a cell, without the blank before it and the blanks that fill it up; an empty cell has none. -/
def cellText? (cell : List Char) : Option String :=
  let cs := Text.dropEndWhile (· == ' ') (cell.drop 1)
  if cs.isEmpty then none else some (String.ofList cs)

/-- The text of the last cell, in a line of a table's body. -/
def lastCell? (line : String) : Option String :=
  if line.toList.head? = some bodyBar then cellText? ((Text.pieces bodyBar line.toList).dropLast.getLastD [])
  else none

/-- The texts in the last column of a table's body. -/
def lastColumn (lines : List String) : List String :=
  lines.filterMap lastCell?

theorem lastCell?_of_head {line : String} (h : line.toList.head? ≠ some bodyBar) : lastCell? line = none := by
  rw [lastCell?, if_neg h]

/-- The last cell stands between the last two bars. -/
theorem lastCell?_of_eq {line : String} {front cell : List Char}
    (hline : line.toList = bodyBar :: front ++ bodyBar :: (cell ++ [bodyBar])) (hcell : bodyBar ∉ cell) :
    lastCell? line = cellText? cell := by
  have hlast : (Text.pieces bodyBar line.toList).dropLast.getLastD [] = cell := by
    rw [hline, Text.pieces_append_sep, Text.pieces_append hcell, List.append_cons, Text.pieces, List.dropLast_concat]
    simp
  rw [lastCell?, if_pos (by rw [hline]; rfl), hlast]

theorem dropEndWhile_append_blanks (cs : List Char) (count : Nat) :
    Text.dropEndWhile (· == ' ') (cs ++ blanks count) = Text.dropEndWhile (· == ' ') cs := by
  have hblanks : ∀ c ∈ (blanks count).reverse, (c == ' ') = true := by
    intro c hc
    rw [(List.mem_replicate.1 (List.mem_reverse.1 hc)).2]
    rfl
  rw [Text.dropEndWhile, List.reverse_append, List.dropWhile_append_of_pos hblanks, ← Text.dropEndWhile]

/-- A text that can be read off its cell: it is plain, holds no bar, and ends with no blank. -/
structure IsReadable (s : String) : Prop where
  plain : IsPlain s.toList
  noBar : bodyBar ∉ s.toList
  ending : ∃ cs c, s.toList = cs ++ [c] ∧ c ≠ ' '

section Rows

variable {u v w : Nat}

/-- The last cell of a line of three. -/
theorem lastCell?_rowLine {cs : List Char} (hcs : bodyBar ∉ cs) (hpad : padCell w cs = cs ++ blanks (w - textWidth cs))
    (as bs : List Char) : lastCell? (rowLine "│" [u, v, w] [as, bs, cs]) = cellText? (' ' :: cs) := by
  have hline : (rowLine "│" [u, v, w] [as, bs, cs]).toList =
      bodyBar :: (' ' :: padCell u as ++ [' ', bodyBar, ' '] ++ padCell v bs ++ [' ']) ++
        bodyBar :: ((' ' :: cs ++ blanks (w - textWidth cs + 1)) ++ [bodyBar]) := by
    simp [rowLine, bodyBar, hpad, blanks, List.replicate_succ']
  have hcell : bodyBar ∉ ' ' :: cs ++ blanks (w - textWidth cs + 1) := by
    have hblank : bodyBar ≠ ' ' := by decide
    simp [hcs, hblank, blanks]
  rw [lastCell?_of_eq hline hcell, cellText?, List.cons_append, List.drop_one, List.tail_cons,
    dropEndWhile_append_blanks, cellText?, List.drop_one, List.tail_cons]

theorem IsReadable.cellText? {s : String} (h : IsReadable s) : cellText? (' ' :: s.toList) = some s := by
  obtain ⟨cs, c, hs, hc⟩ := h.ending
  have hdrop : Text.dropEndWhile (· == ' ') s.toList = s.toList := by
    rw [Text.dropEndWhile, hs, List.reverse_append, List.reverse_singleton, List.singleton_append,
      List.dropWhile_cons_of_neg (by simpa using hc)]
    simp
  rw [Terminal.cellText?, List.drop_one, List.tail_cons, hdrop, if_neg (by simp [hs]), String.ofList_toList]

/-- A row shows a readable text in its last cell, on the first of its lines alone. -/
theorem IsReadable.lastColumn_rowLines {s : String} (h : IsReadable s) (hfits : textWidth s.toList ≤ w) (a b : String) :
    lastColumn (rowLines "│" [u, v, w] [a, b, s]) = [s] := by
  have hshown : ∀ as bs, lastCell? (rowLine "│" [u, v, w] [as, bs, s.toList]) = some s := by
    intro as bs
    rw [lastCell?_rowLine h.noBar (h.plain.fills.padCell hfits), h.cellText?]
  have hempty : ∀ as bs, lastCell? (rowLine "│" [u, v, w] [as, bs, []]) = none := by
    intro as bs
    have hfills : Fills [] := fun c hc => absurd hc List.not_mem_nil
    rw [lastCell?_rowLine List.not_mem_nil (hfills.padCell (Nat.zero_le w))]
    rfl
  -- the text takes one line, so the row has a first line, and later lines have nothing in this cell
  obtain ⟨height, hheight⟩ :
      ∃ height, max (max (max 0 (linesWithin u a).length) (linesWithin v b).length) 1 = height + 1 :=
    ⟨_, (Nat.succ_pred_eq_of_pos (by omega)).symm⟩
  simp only [rowLines, List.zipWith_cons_cons, List.zipWith_nil_right, h.plain.linesWithin hfits, List.map_cons,
    List.map_nil, List.foldl_cons, List.foldl_nil, List.length_singleton, hheight]
  rw [List.range_succ_eq_map, List.map_cons, List.map_map, lastColumn]
  refine (List.filterMap_cons_some (hshown _ _)).trans ?_
  refine congrArg (s :: ·) (List.filterMap_eq_nil_iff.2 fun line hline => ?_)
  obtain ⟨i, -, rfl⟩ := List.mem_map.1 hline
  exact hempty _ _

end Rows

/-- Every column is as wide as each of its cells. -/
theorem exists_foldl_widths (rows : List (String × String × String)) (u v w : Nat) :
    ∃ u' v' w', (rows.map fun row => [row.1, row.2.1, row.2.2]).foldl
        (fun widths row => List.zipWith max widths (row.map widestLine)) [u, v, w] = [u', v', w'] ∧
      w ≤ w' ∧ ∀ row ∈ rows, widestLine row.2.2 ≤ w' := by
  induction rows generalizing u v w with
  | nil => exact ⟨u, v, w, rfl, Nat.le_refl w, by simp⟩
  | cons row rows ih =>
    obtain ⟨u', v', w', hwidths, hle, hrows⟩ :=
      ih (max u (widestLine row.1)) (max v (widestLine row.2.1)) (max w (widestLine row.2.2))
    refine ⟨u', v', w', hwidths, by omega, List.forall_mem_cons.2 ⟨by omega, hrows⟩⟩

theorem lastColumn_append (lines lines' : List String) :
    lastColumn (lines ++ lines') = lastColumn lines ++ lastColumn lines' :=
  List.filterMap_append

/-- Lines that start with another character show no cells of the body. -/
theorem lastColumn_of_heads {lines : List String} (h : ∀ line ∈ lines, line.toList.head? ≠ some bodyBar) :
    lastColumn lines = [] :=
  List.filterMap_eq_nil_iff.2 fun line hline => lastCell?_of_head (h line hline)

theorem head?_rule {left line cross right : String} {c : Char} (h : left.toList = [c]) (widths : List Nat) :
    (rule left line cross right widths).toList.head? = some c := by
  simp [rule, h]

/-- From a table of three columns the last one is read back, if its texts are readable. -/
theorem lastColumn_grid {title : String} (htitle : bodyBar ∉ title.toList) (a b c : String)
    {rows : List (String × String × String)} (h : ∀ row ∈ rows, IsReadable row.2.2) :
    lastColumn (grid title [a, b, c] (rows.map fun row => [row.1, row.2.1, row.2.2])) = rows.map (·.2.2) := by
  obtain ⟨u, v, w, hwidths, -, hrows⟩ := exists_foldl_widths rows (widestLine a) (widestLine b) (widestLine c)
  have hcolumns : columnWidths [a, b, c] (rows.map fun row => [row.1, row.2.1, row.2.2]) = [u, v, w] := hwidths
  have hbody : lastColumn ((rows.map fun row => [row.1, row.2.1, row.2.2]).flatMap (rowLines "│" [u, v, w])) =
      rows.map (·.2.2) := by
    have hrow : ∀ row ∈ rows, lastColumn (rowLines "│" [u, v, w] [row.1, row.2.1, row.2.2]) = [row.2.2] :=
      fun row hrow => (h row hrow).lastColumn_rowLines ((h row hrow).plain.widestLine ▸ hrows row hrow) _ _
    rw [List.flatMap_map, lastColumn, List.filterMap_flatMap, List.map_eq_flatMap]
    exact List.flatMap_congr hrow
  -- all other lines start with another sign
  have htop : lastColumn [String.ofList (centre (([u, v, w].map (· + 3)).foldl (· + ·) 0 + 1) title.toList),
      rule "┏" "━" "┳" "┓" [u, v, w]] = [] := by
    refine lastColumn_of_heads (List.forall_mem_cons.2 ⟨fun hhead => ?_, ?_⟩)
    · have hmem := List.mem_of_head? hhead
      have hblank : bodyBar ≠ ' ' := by decide
      simp [centre, blanks, htitle, hblank] at hmem
    · simp [head?_rule, bodyBar]
  have hhead : lastColumn (rowLines "┃" [u, v, w] [a, b, c]) = [] := by
    refine lastColumn_of_heads fun line hline => ?_
    obtain ⟨i, -, rfl⟩ := List.mem_map.1 hline
    simp [rowLine, bodyBar]
  have hmiddle : lastColumn [rule "┡" "━" "╇" "┩" [u, v, w]] = [] :=
    lastColumn_of_heads (by simp [head?_rule, bodyBar])
  have hbottom : lastColumn [rule "└" "─" "┴" "┘" [u, v, w]] = [] :=
    lastColumn_of_heads (by simp [head?_rule, bodyBar])
  simp only [grid, hcolumns, lastColumn_append, hbody, htop, hhead, hmiddle, hbottom, List.nil_append, List.append_nil]

end ProtoEmit.Terminal
