import LogSelect.Proofs.Table.Widths
import LogSelect.Proofs.Text.Blank
import LogSelect.Proofs.Text.Lines

/-!
Where the parts of a table stand.

Every column is as wide as its widest part.  So every line has its bars at the same places, and the
parts of the cells begin at the places of their columns.  The header is one line of the table only
if no name holds a line feed: a cell is cut into lines, a name is not.
-/

namespace LogSelect.Table

/-! ## Places -/

section Places

variable (columns : List String) (rows : List (List String))

/-- The widest of the name of a column and the parts of its cells. -/
def widthAt (i : Nat) : Nat :=
  greatest ((columns.getD i "").length ::
    rows.flatMap fun row => (cellLines (row.getD i "")).map List.length)

def widths : List Nat :=
  (List.range columns.length).map (widthAt columns rows)

def startAt (i : Nat) : Nat :=
  ∑ j ∈ Finset.range i, widthAt columns rows j + 3 * i

def barAt (i : Nat) : Nat :=
  ∑ j ∈ Finset.range (i + 1), widthAt columns rows j + 3 * i + 1

def height (row : List String) : Nat :=
  greatest (row.map fun cell => (cellLines cell).length)

def linesAbove (r : Nat) : Nat :=
  2 + ((rows.take r).map height).sum

end Places

/-- A part stands at a place of a line, up to blanks that were dropped from the end. -/
def Stands (part line : List Char) (place : Nat) : Prop :=
  ∃ removed, AllBlank removed ∧ part <+: (line ++ removed).drop place

structure Aligned (columns : List String) (rows : List (List String)) (table : String) : Prop where
  size : (cellLines table).length = 2 + (rows.map height).sum
  bars : ∀ (k i : Nat) (content : List Char), (cellLines table)[k]? = some content →
    i + 1 < columns.length → content[barAt columns rows i]? = some (if k = 1 then '+' else '|')
  headers : ∀ (i : Nat) (name : String), columns[i]? = some name →
    ∃ line, (cellLines table)[0]? = some line ∧
      Stands name.toList line (startAt columns rows i)
  cells : ∀ (r i k : Nat) (row : List String) (cell : String) (part : List Char),
    rows[r]? = some row → row[i]? = some cell → (cellLines cell)[k]? = some part →
    ∃ line, (cellLines table)[linesAbove rows r + k]? = some line ∧
      Stands part line (startAt columns rows i)

/-- No name breaks the line of the header.  Line feeds at the end of the last name are dropped with
the blanks there. -/
def OneLine (columns : List String) : Prop :=
  (∀ name ∈ columns.dropLast, '\n' ∉ name.toList) ∧
    ∀ name ∈ columns.getLast?, '\n' ∉ (stripRight name).toList

instance (columns : List String) : Decidable (OneLine columns) :=
  inferInstanceAs (Decidable (_ ∧ _))

/-! ## Widths -/

section Widths

variable {ns ms : List Nat} {n : Nat}

theorem foldl_max (n : Nat) (ns : List Nat) : ns.foldl Nat.max n = max n (greatest ns) := by
  unfold greatest
  induction ns generalizing n with
  | nil => exact (Nat.max_zero n).symm
  | cons m ns ih =>
    rw [List.foldl_cons, List.foldl_cons, ih, ih (Nat.max 0 m)]
    change max (max n m) _ = max n (max (max 0 m) _)
    rw [Nat.zero_max, Nat.max_assoc]

@[simp]
theorem greatest_nil : greatest [] = 0 := rfl

@[simp]
theorem greatest_cons : greatest (n :: ns) = max n (greatest ns) := by
  rw [greatest, List.foldl_cons, foldl_max]
  exact congrArg (max · _) (Nat.zero_max n)

@[simp]
theorem greatest_append : greatest (ns ++ ms) = max (greatest ns) (greatest ms) := by
  rw [greatest, List.foldl_append, foldl_max]
  rfl

theorem le_greatest (member : n ∈ ns) : n ≤ greatest ns := by
  induction ns with
  | nil => cases member
  | cons m ns ih =>
    rw [greatest_cons]
    rcases List.mem_cons.1 member with rfl | inRest
    · exact Nat.le_max_left _ _
    · exact Nat.le_trans (ih inRest) (Nat.le_max_right _ _)

theorem widen_eq (same : ms.length = ns.length) :
    widen ns ms = some (List.zipWith Nat.max ns ms) := by
  induction ns generalizing ms with
  | nil =>
    rw [List.length_eq_zero_iff.1 same]
    rfl
  | cons n ns ih =>
    cases ms with
    | nil => cases same
    | cons m ms =>
      rw [widen, ih (Nat.succ.inj same)]
      rfl

theorem eq_map_range {α : Type} (as : List α) (default : α) :
    as = (List.range as.length).map (as.getD · default) := by
  apply List.ext_getElem
  · rw [List.length_map, List.length_range]
  · intro i inside _
    rw [List.getElem_map, List.getElem_range, List.getD_eq_getElem?_getD,
      List.getElem?_eq_getElem inside, Option.getD_some]

variable {columns : List String} {rows : List (List String)}

theorem widen_row {row : List String} (w : Nat → Nat) :
    widen ((List.range row.length).map w)
        ((row.map cellLines).map fun cell => greatest (cell.map List.length)) =
      some ((List.range row.length).map fun i =>
        max (w i) (greatest ((cellLines (row.getD i "")).map List.length))) := by
  rw [widen_eq (by simp)]
  nth_rewrite 2 [eq_map_range row ""]
  rw [List.map_map, List.map_map, List.zipWith_map, List.zipWith_self]
  rfl

theorem foldlM_widen {n : Nat} (whole : ∀ row ∈ rows, row.length = n) (w : Nat → Nat) :
    (rows.map fun row => row.map cellLines).foldlM (fun widths cells => widen widths
        (cells.map fun cell => greatest (cell.map List.length))) ((List.range n).map w) =
      some ((List.range n).map fun i =>
        greatest (w i :: rows.flatMap fun row => (cellLines (row.getD i "")).map List.length)) := by
  induction rows generalizing w with
  | nil => simp
  | cons row rows ih =>
    have others := ih (fun row inside => whole row (List.mem_cons_of_mem _ inside))
    obtain rfl : row.length = n := whole row List.mem_cons_self
    rw [List.map_cons, List.foldlM_cons, widen_row, Option.bind_eq_bind, Option.bind_some, others]
    simp only [List.flatMap_cons, greatest_cons, greatest_append, Nat.max_assoc]

theorem columnWidths_eq (whole : ∀ row ∈ rows, row.length = columns.length) :
    columnWidths columns (rows.map fun row => row.map cellLines) =
      some (widths columns rows) := by
  have names : columns.map String.length =
      (List.range columns.length).map fun i => (columns.getD i "").length := by
    conv_lhs => rw [eq_map_range columns "", List.map_map]
    rfl
  rw [columnWidths, names]
  exact foldlM_widen whole _

theorem length_le_widthAt_name {i : Nat} {name : String} (found : columns[i]? = some name) :
    name.toList.length ≤ widthAt columns rows i := by
  apply le_greatest
  rw [List.getD_eq_getElem?_getD, found]
  exact List.mem_cons_self

theorem length_le_widthAt_part {i : Nat} {row : List String} {cell : String} {part : List Char}
    (member : row ∈ rows) (found : row[i]? = some cell) (inside : part ∈ cellLines cell) :
    part.length ≤ widthAt columns rows i := by
  apply le_greatest
  apply List.mem_cons_of_mem
  apply List.mem_flatMap.2
  refine ⟨row, member, ?_⟩
  rw [List.getD_eq_getElem?_getD, found]
  exact List.mem_map_of_mem inside

end Widths

/-! ## Lines -/

section Lines

variable {columns : List String} {rows : List (List String)}

/-- The parts of one line: one for each column, none wider than its column. -/
structure Fits (columns : List String) (rows : List (List String)) (parts : List (List Char)) :
    Prop where
  size : parts.length = columns.length
  within : ∀ (i : Nat) (part : List Char), parts[i]? = some part →
    part.length ≤ widthAt columns rows i

def padded (widths : List Nat) (parts : List (List Char)) : List (List Char) :=
  (widths.zip parts).map fun (width, part) => pad width part

theorem toList_line (widths : List Nat) (parts : List (List Char)) :
    (line widths parts).toList =
      dropRightWhile isBlank ([' ', '|', ' '].intercalate (padded widths parts)) :=
  String.toList_ofList

theorem length_pad {width : Nat} {cs : List Char} (fits : cs.length ≤ width) :
    (pad width cs).length = width := by
  rw [pad, List.length_append, List.length_replicate, Nat.add_sub_cancel' fits]

section Fitting

variable {parts : List (List Char)} {part : List Char} {i : Nat}

theorem length_padded (size : parts.length = columns.length) :
    (padded (widths columns rows) parts).length =
      columns.length := by
  rw [padded, widths, List.length_map, List.length_zip, List.length_map, List.length_range, size,
    Nat.min_self]

theorem getElem?_padded (size : parts.length = columns.length) (found : parts[i]? = some part) :
    (padded (widths columns rows) parts)[i]? =
      some (pad (widthAt columns rows i) part) := by
  obtain ⟨inside, -⟩ := List.getElem?_eq_some_iff.1 found
  rw [size] at inside
  rw [padded, List.getElem?_map,
    List.getElem?_zip_eq_some (z := (widthAt columns rows i, part)) |>.2]
  · rfl
  · rw [widths, List.getElem?_map, List.getElem?_range inside]
    exact ⟨rfl, found⟩

theorem Fits.sized (fits : Fits columns rows parts) :
    ∀ j < (padded (widths columns rows) parts).length,
      ((padded (widths columns rows) parts)[j]?.getD []).length =
        widthAt columns rows j := by
  intro j inside
  rw [length_padded fits.size, ← fits.size] at inside
  have found := List.getElem?_eq_getElem inside
  rw [getElem?_padded fits.size found, Option.getD_some, length_pad (fits.within j _ found)]

/-- Every part begins where its column begins. -/
theorem Fits.stands (fits : Fits columns rows parts) (found : parts[i]? = some part) :
    Stands part (line (widths columns rows) parts).toList
      (startAt columns rows i) := by
  obtain ⟨removed, split, blank⟩ := exists_dropRightWhile isBlank
    ([' ', '|', ' '].intercalate
      (padded (widths columns rows) parts))
  refine ⟨removed, blank, ?_⟩
  have piece : (padded (widths columns rows) parts)[i]? =
      some (pad (widthAt columns rows i) part) := getElem?_padded fits.size found
  obtain ⟨inside, same⟩ := List.getElem?_eq_some_iff.1 piece
  have behind := drop_intercalate [' ', '|', ' '] fits.sized inside
  rw [List.drop_eq_getElem_cons inside, same] at behind
  rw [toList_line, ← split, startAt]
  exact behind ▸ (List.prefix_append part _).trans (prefix_intercalate _ _ _)

theorem Fits.bar (fits : Fits columns rows parts) (inside : i + 1 < columns.length) :
    (line (widths columns rows) parts).toList[
      barAt columns rows i]? = some '|' := by
  rw [toList_line]
  apply getElem?_dropRightWhile _ (by decide)
  have size : (padded (widths columns rows) parts).length = columns.length :=
    length_padded fits.size
  rw [← size] at inside
  exact getElem?_intercalate fits.sized inside (by decide : 1 < [' ', '|', ' '].length)

end Fitting

theorem rule_bar (columns : List String) (rows : List (List String)) {i : Nat}
    (inside : i + 1 < columns.length) :
    (rule (widths columns rows)).toList[barAt columns rows i]? = some '+' := by
  have size : ((widths columns rows).map fun width => List.replicate width '-').length =
      columns.length := by
    rw [widths, List.length_map, List.length_map, List.length_range]
  have sized : ∀ j < ((widths columns rows).map fun width => List.replicate width '-').length,
      (((widths columns rows).map fun width => List.replicate width '-')[j]?.getD []).length =
        widthAt columns rows j := by
    intro j within
    rw [size] at within
    simp [widths, within]
  rw [rule, String.toList_ofList]
  exact getElem?_intercalate sized (size.symm ▸ inside) (by decide : 1 < ['-', '+', '-'].length)

theorem not_mem_rule (widths : List Nat) : '\n' ∉ (rule widths).toList := by
  rw [rule, String.toList_ofList]
  intro member
  rcases mem_intercalate member with inSep | ⟨piece, inPieces, inPiece⟩
  · revert inSep
    decide
  · obtain ⟨width, -, rfl⟩ := List.mem_map.1 inPieces
    have same := List.eq_of_mem_replicate inPiece
    contradiction

theorem mem_pad_iff {width : Nat} {part : List Char} : '\n' ∈ pad width part ↔ '\n' ∈ part := by
  rw [pad, List.mem_append, or_iff_left]
  intro member
  have same := List.eq_of_mem_replicate member
  contradiction

/-- Only the parts themselves can break a line; what stands at the end of the last is dropped if it
is blank. -/
theorem mem_line_iff {widths : List Nat} {parts : List (List Char)}
    (same : widths.length = parts.length) :
    '\n' ∈ (line widths parts).toList ↔
      (∃ part ∈ parts.dropLast, '\n' ∈ part) ∨
        ∃ part ∈ parts.getLast?, '\n' ∈ dropRightWhile isBlank part := by
  rw [toList_line]
  induction parts generalizing widths with
  | nil => simp [padded, dropRightWhile]
  | cons part parts ih =>
    cases widths with
    | nil => cases same
    | cons width widths =>
      have sameRest := Nat.succ.inj same
      cases parts with
      | nil =>
        have blanks : ∀ c ∈ List.replicate (width - part.length) ' ', isBlank c = true := by
          intro c member
          rw [List.eq_of_mem_replicate member]
          decide
        simp [padded, pad, dropRightWhile_append blanks]
      | cons next parts =>
        have rest := ih sameRest
        cases widths with
        | nil => cases sameRest
        | cons second widths =>
          have split : [' ', '|', ' '].intercalate
                (padded (width :: second :: widths) (part :: next :: parts)) =
              (pad width part ++ [' ', '|']) ++
                ' ' :: [' ', '|', ' '].intercalate
                  (padded (second :: widths) (next :: parts)) := by
            simp [padded, List.intercalate_cons_cons]
          have last : ∀ c ∈ (pad width part ++ [' ', '|']).getLast?, isBlank c = false := by
            rw [List.getLast?_append]
            intro c same
            cases same
            decide
          have front : '\n' ∈ pad width part ++ [' ', '|'] ↔ '\n' ∈ part := by
            rw [List.mem_append, mem_pad_iff, or_iff_left (by decide)]
          rw [split, dropRightWhile_append_of_last last, List.mem_append, front,
            mem_dropRightWhile_cons (by decide), rest]
          simp [or_assoc]

theorem not_mem_line {widths : List Nat} {parts : List (List Char)}
    (same : widths.length = parts.length) (whole : ∀ part ∈ parts, '\n' ∉ part) :
    '\n' ∉ (line widths parts).toList := by
  rw [mem_line_iff same]
  rintro (⟨part, member, inside⟩ | ⟨part, last, inside⟩)
  · exact whole part (List.mem_of_mem_dropLast member) inside
  · exact whole part (List.mem_of_getLast? last) (mem_of_mem_dropRightWhile inside)

theorem header_oneLine_iff (columns : List String) (rows : List (List String)) :
    '\n' ∉ (line (widths columns rows) (columns.map String.toList)).toList ↔ OneLine columns := by
  rw [mem_line_iff (by simp [widths]), OneLine, not_or]
  apply and_congr
  · simp [← List.map_dropLast]
  · simp [List.getLast?_map, stripRight]

end Lines

/-! ## Rows -/

section Rows

variable {columns : List String} {rows : List (List String)} {row : List String}

theorem rowLines_eq (widths : List Nat) (nonempty : row ≠ []) :
    rowLines widths (row.map cellLines) = (List.range (height row)).map fun k =>
      line widths (row.map fun cell => (cellLines cell).getD k []) := by
  cases row with
  | nil => contradiction
  | cons cell row =>
    simp [rowLines, height, Function.comp_def]

theorem fits_header (columns : List String) (rows : List (List String)) :
    Fits columns rows (columns.map String.toList) where
  size := List.length_map _
  within i part found := by
    rw [List.getElem?_map, Option.map_eq_some_iff] at found
    obtain ⟨name, isName, rfl⟩ := found
    exact length_le_widthAt_name isName

theorem getD_cellLines (cell : String) (k : Nat) :
    (cellLines cell).getD k [] = [] ∨ (cellLines cell).getD k [] ∈ cellLines cell := by
  rw [List.getD_eq_getElem?_getD]
  cases found : (cellLines cell)[k]? with
  | none => exact .inl rfl
  | some part => exact .inr (List.mem_of_getElem? found)

theorem fits_row (member : row ∈ rows) (whole : row.length = columns.length) (k : Nat) :
    Fits columns rows (row.map fun cell => (cellLines cell).getD k []) where
  size := (List.length_map _).trans whole
  within i part found := by
    rw [List.getElem?_map, Option.map_eq_some_iff] at found
    obtain ⟨cell, isCell, rfl⟩ := found
    rcases getD_cellLines cell k with empty | inside
    · rw [empty]
      exact Nat.zero_le _
    · exact length_le_widthAt_part member isCell inside

theorem length_cellLines_le {i : Nat} {cell : String} (found : row[i]? = some cell) :
    (cellLines cell).length ≤ height row :=
  le_greatest (List.mem_map_of_mem (List.mem_of_getElem? found))

def rowBlock (columns : List String) (rows : List (List String)) (row : List String) :
    List (List Char) :=
  (List.range (height row)).map fun k =>
    (line (widths columns rows) (row.map fun cell => (cellLines cell).getD k [])).toList

theorem length_rowBlock : (rowBlock columns rows row).length = height row := by
  rw [rowBlock, List.length_map, List.length_range]

theorem getElem?_rowBlock {k : Nat} (within : k < height row) :
    (rowBlock columns rows row)[k]? = some
      (line (widths columns rows) (row.map fun cell => (cellLines cell).getD k [])).toList := by
  rw [rowBlock, List.getElem?_map, List.getElem?_range within]
  rfl

theorem not_mem_rowBlock {content : List Char} (whole : row.length = columns.length)
    (member : content ∈ rowBlock columns rows row) : '\n' ∉ content := by
  obtain ⟨k, -, rfl⟩ := List.mem_map.1 member
  apply not_mem_line
  · simp [widths, whole]
  · intro part inside
    obtain ⟨cell, -, rfl⟩ := List.mem_map.1 inside
    rcases getD_cellLines cell k with empty | inCell
    · rw [empty]
      exact List.not_mem_nil
    · exact not_mem_of_mem_splitAt inCell

end Rows

/-! ## Tables -/

section Tables

variable {columns : List String} {rows : List (List String)}

theorem exists_cellLines_format (nonempty : columns ≠ [])
    (whole : ∀ row ∈ rows, row.length = columns.length) :
    ∃ table, format? columns rows = some table ∧ cellLines table =
      splitAt '\n' (line (widths columns rows) (columns.map String.toList)).toList ++
        (rule (widths columns rows)).toList :: rows.flatMap (rowBlock columns rows) := by
  have blocks : (rows.map fun row => row.map cellLines).flatMap
        (fun cells => (rowLines (widths columns rows) cells).map String.toList) =
      rows.flatMap (rowBlock columns rows) := by
    rw [List.flatMap_map]
    apply List.flatMap_congr
    intro row member
    have cells : row ≠ [] := by
      rintro rfl
      exact nonempty (List.length_eq_zero_iff.1 (whole [] member).symm)
    rw [rowLines_eq _ cells, List.map_map]
    rfl
  refine ⟨_, by simp only [format?, columnWidths_eq whole, Option.map_some]; rfl, ?_⟩
  rw [cellLines, String.toList_intercalate, List.map_cons, List.map_cons, List.map_flatMap, blocks]
  change splitAt '\n' (['\n'].intercalate _) = _
  rw [List.intercalate_cons_cons, List.append_assoc, List.singleton_append, splitAt_append_cons,
    splitAt_intercalate (List.cons_ne_nil _ _)]
  intro piece member
  rcases List.mem_cons.1 member with rfl | inRows
  · exact not_mem_rule _
  · obtain ⟨row, inside, inBlock⟩ := List.mem_flatMap.1 inRows
    exact not_mem_rowBlock (whole row inside) inBlock

theorem length_rowBlocks (columns : List String) (rows : List (List String)) :
    (rows.flatMap (rowBlock columns rows)).length = (rows.map height).sum := by
  simp only [List.length_flatMap, length_rowBlock]

theorem getElem?_rowBlocks {r i k : Nat} {row : List String} {cell : String} {part : List Char}
    (isRow : rows[r]? = some row) (isCell : row[i]? = some cell)
    (isPart : (cellLines cell)[k]? = some part) :
    (rows.flatMap (rowBlock columns rows))[((rows.take r).map height).sum + k]? = some
      (line (widths columns rows) (row.map fun cell => (cellLines cell).getD k [])).toList := by
  obtain ⟨within, -⟩ := List.getElem?_eq_some_iff.1 isPart
  have inRow := Nat.lt_of_lt_of_le within (length_cellLines_le isCell)
  have place := getElem?_flatMap_take (f := rowBlock columns rows) isRow (length_rowBlock ▸ inRow)
  simp only [length_rowBlock] at place
  exact place.trans (getElem?_rowBlock inRow)

theorem aligned_of_header {table : String} (whole : ∀ row ∈ rows, row.length = columns.length)
    (lines : cellLines table = (line (widths columns rows) (columns.map String.toList)).toList ::
      (rule (widths columns rows)).toList :: rows.flatMap (rowBlock columns rows)) :
    Aligned columns rows table where
  size := by
    rw [lines, List.length_cons, List.length_cons, length_rowBlocks]
    omega
  bars k i content found inside := by
    rw [lines] at found
    rcases k with - | - | k
    · rw [List.getElem?_cons_zero, Option.some.injEq] at found
      rw [← found, if_neg Nat.zero_ne_one]
      exact (fits_header columns rows).bar inside
    · rw [List.getElem?_cons_succ, List.getElem?_cons_zero, Option.some.injEq] at found
      rw [← found, if_pos rfl]
      exact rule_bar columns rows inside
    · rw [List.getElem?_cons_succ, List.getElem?_cons_succ] at found
      obtain ⟨row, member, inBlock⟩ := List.mem_flatMap.1 (List.mem_of_getElem? found)
      obtain ⟨part, -, rfl⟩ := List.mem_map.1 inBlock
      rw [if_neg (by omega)]
      exact (fits_row member (whole row member) part).bar inside
  headers i name found := by
    have isPart : (columns.map String.toList)[i]? = some name.toList := by
      rw [List.getElem?_map, found, Option.map_some]
    have first := congrArg (·[0]?) lines
    exact ⟨_, first, (fits_header columns rows).stands isPart⟩
  cells r i k row cell part isRow isCell isPart := by
    have member := List.mem_of_getElem? isRow
    have place : linesAbove rows r + k = ((rows.take r).map height).sum + k + 2 := by
      rw [linesAbove]
      omega
    have isPadded : (row.map fun cell => (cellLines cell).getD k [])[i]? = some part := by
      rw [List.getElem?_map, isCell, Option.map_some, List.getD_eq_getElem?_getD, isPart,
        Option.getD_some]
    have content : (rows.flatMap (rowBlock columns rows))[_]? = _ :=
      getElem?_rowBlocks isRow isCell isPart
    rw [← List.getElem?_cons_succ, ← List.getElem?_cons_succ, ← lines, ← place] at content
    exact ⟨_, content, (fits_row member (whole row member) k).stands isPadded⟩

/-- A table is aligned exactly if no name of a column breaks the line of the header. -/
theorem format_aligned_iff (nonempty : columns ≠ [])
    (whole : ∀ row ∈ rows, row.length = columns.length) :
    ∃ table, format? columns rows = some table ∧
      (Aligned columns rows table ↔ OneLine columns) := by
  obtain ⟨table, isTable, lines⟩ := exists_cellLines_format nonempty whole
  refine ⟨table, isTable, ?_⟩
  rw [← header_oneLine_iff columns rows]
  constructor
  · intro aligned
    have size := aligned.size
    rw [lines, List.length_append, List.length_cons, length_rowBlocks, length_splitAt] at size
    rw [← List.count_eq_zero]
    omega
  · intro oneLine
    rw [splitAt_of_not_mem oneLine] at lines
    exact aligned_of_header whole lines

theorem format_aligned_multiline :
    ["n", "message"] ≠ [] ∧ (∀ row ∈ [["1", "boom\nat f"], ["12", ""]], row.length = 2) ∧
      ∃ table, format? ["n", "message"] [["1", "boom\nat f"], ["12", ""]] = some table ∧
        Aligned ["n", "message"] [["1", "boom\nat f"], ["12", ""]] table := by
  have whole : ∀ row ∈ [["1", "boom\nat f"], ["12", ""]], row.length = 2 := by
    decide
  have nonempty : ["n", "message"] ≠ [] := List.cons_ne_nil _ _
  obtain ⟨table, isTable, aligned⟩ := format_aligned_iff nonempty whole
  refine ⟨nonempty, whole, table, isTable, aligned.2 ?_⟩
  decide

/-- The name of the first column takes two lines, so the table has a line too many. -/
theorem format_header_broken :
    (∀ row ∈ [["x", "y"]], row.length = ["a\nb", "c"].length) ∧
      ∃ table, format? ["a\nb", "c"] [["x", "y"]] = some table ∧
        ¬ Aligned ["a\nb", "c"] [["x", "y"]] table := by
  refine ⟨by decide, _, rfl, fun aligned => ?_⟩
  have size := aligned.size
  revert size
  decide

end Tables

end LogSelect.Table
