import LogSelect.Table

/-!
The widths of the columns of a table.  A table can be drawn whenever no row has more cells than
there are columns.
-/

namespace LogSelect.Table

theorem exists_widen {widths cells : List Nat} (fits : cells.length ≤ widths.length) :
    ∃ wider, widen widths cells = some wider ∧ wider.length = widths.length := by
  induction cells generalizing widths with
  | nil => exact ⟨widths, by rw [widen], rfl⟩
  | cons cell cells ih =>
    cases widths with
    | nil => exact absurd fits (Nat.not_succ_le_zero _)
    | cons width widths =>
      obtain ⟨wider, isWider, size⟩ := ih (Nat.le_of_succ_le_succ fits)
      exact ⟨Nat.max width cell :: wider, by rw [widen, isWider]; rfl, by simp [size]⟩

theorem exists_columnWidths {columns : List String} {rows : List (List (List (List Char)))}
    (fit : ∀ cells ∈ rows, cells.length ≤ columns.length) :
    ∃ widths, columnWidths columns rows = some widths ∧ widths.length = columns.length := by
  unfold columnWidths
  have size : (columns.map String.length).length = columns.length := List.length_map _
  generalize columns.map String.length = widths at size
  induction rows generalizing widths with
  | nil => exact ⟨widths, rfl, size⟩
  | cons cells rows ih =>
    have fits : (cells.map fun cell => greatest (cell.map List.length)).length ≤ widths.length := by
      rw [List.length_map, size]
      exact fit cells List.mem_cons_self
    obtain ⟨wider, isWider, same⟩ := exists_widen fits
    rw [List.foldlM_cons, isWider]
    exact ih (fun cells inside => fit cells (List.mem_cons_of_mem _ inside)) wider (same.trans size)

theorem exists_format {columns : List String} {rows : List (List String)}
    (fit : ∀ cells ∈ rows, cells.length ≤ columns.length) :
    ∃ table, format? columns rows = some table := by
  have fitLines : ∀ cells ∈ rows.map fun row => row.map cellLines,
      cells.length ≤ columns.length := by
    intro cells inside
    obtain ⟨row, inRows, rfl⟩ := List.mem_map.1 inside
    rw [List.length_map]
    exact fit row inRows
  obtain ⟨widths, isWide, -⟩ := exists_columnWidths fitLines
  exact ⟨_, by simp only [format?, isWide, Option.map_some]; rfl⟩

end LogSelect.Table
