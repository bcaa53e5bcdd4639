import GuestBridge.Screen.Grid
/-!
# Grid operations, cell by cell

Each operation on a grid is described by what it does to the cell in a column and a row
(`Grid.cell?`) and to the cursor. The flat array of cells is opened here only: a position inside the
grid has an index of its own (`index_inj`), storing changes the cell at the cursor, and scrolling
moves every row into the one above it.

## Main statements

* **`cell?_store`**, **`cell?_scroll`**, **`cell?_clear`** — the cells after an operation;
* **`getElem?_rows`** — the rows of a grid are its cells.
-/

namespace GuestBridge.Screen.Grid

variable {g : Grid} {column row : Nat}

theorem height_pos (g : Grid) : 0 < g.height := Nat.zero_lt_of_lt g.row_lt

/-! ## Positions -/

/-- Two positions inside the grid have different indices. -/
theorem index_inj {column' row' : Nat} (hc : column < g.width) (hc' : column' < g.width) :
    g.index column row = g.index column' row' ↔ column = column' ∧ row = row' := by
  refine ⟨fun h => ?_, fun ⟨hcolumn, hrow⟩ => by rw [hcolumn, hrow]⟩
  -- column and row are remainder and quotient of the index by the width
  have hwidth : 0 < g.width := Nat.zero_lt_of_lt hc
  unfold index at h
  rw [Nat.mul_comm row, Nat.mul_comm row'] at h
  refine ⟨?_, ?_⟩
  · have hmod := congrArg (· % g.width) h
    simpa only [Nat.mul_add_mod, Nat.mod_eq_of_lt hc, Nat.mod_eq_of_lt hc'] using hmod
  · have hdiv := congrArg (· / g.width) h
    simpa only [Nat.mul_add_div hwidth, Nat.div_eq_of_lt hc, Nat.div_eq_of_lt hc',
      Nat.add_zero] using hdiv

/-- Inside the grid a cell is read from the flat array; this lemma and the next one open `cell?`. -/
theorem cell?_of_lt (hc : column < g.width) (hr : row < g.height) :
    g.cell? column row = g.cells[g.index column row]? := if_pos ⟨hc, hr⟩

theorem cell?_eq_none (h : ¬ (column < g.width ∧ row < g.height)) : g.cell? column row = none :=
  if_neg h

/-! ## Cells after an operation -/

theorem cell?_blank (width height : Nat) (hc : column < max width 1) (hr : row < max height 1) :
    (blank width height).cell? column row = some .blank := by
  have hindex := (blank width height).index_lt hc hr
  rw [cell?_of_lt hc hr, Array.getElem?_eq_getElem hindex]
  simp only [blank, Array.getElem_replicate]

/-- Storing changes the cell at the cursor and no other. -/
theorem cell?_store (g : Grid) (c : Cell) (column row : Nat) :
    (g.store c).cell? column row =
      if column = g.column ∧ row = g.row then some c else g.cell? column row := by
  by_cases inside : column < g.width ∧ row < g.height
  · have hstored : (g.store c).cell? column row =
        (g.cells.set (g.index g.column g.row) c (g.index_lt g.column_lt g.row_lt))[
          g.index column row]? := cell?_of_lt inside.1 inside.2
    have hindex : g.index g.column g.row = g.index column row ↔
        column = g.column ∧ row = g.row := by
      rw [index_inj g.column_lt inside.1, eq_comm, @eq_comm _ g.row]
    rw [hstored, Array.getElem?_set, cell?_of_lt inside.1 inside.2]
    simp only [hindex]
  · -- the cursor is inside the grid, so this is some other position
    have hcursor : ¬ (column = g.column ∧ row = g.row) := by
      rintro ⟨rfl, rfl⟩
      exact inside ⟨g.column_lt, g.row_lt⟩
    rw [if_neg hcursor, cell?_eq_none inside]
    exact cell?_eq_none inside

/-- Scrolling moves each row into the one above it and blanks the last. -/
theorem cell?_scroll (hc : column < g.width) (hr : row < g.height) :
    g.scroll.cell? column row =
      if row + 1 < g.height then g.cell? column (row + 1) else some .blank := by
  have hscrolled : g.scroll.cell? column row =
      (g.cells.extract g.width g.cells.size ++ Array.replicate g.width .blank)[
        g.index column row]? := cell?_of_lt hc hr
  -- The cell below stands one width further on.
  have hnext : g.index column (row + 1) = g.width + g.index column row := by
    simp only [index, Nat.succ_mul]
    omega
  have hwidth : g.width ≤ g.cells.size := by
    rw [g.size_cells]
    exact Nat.le_mul_of_pos_right _ g.height_pos
  have hsize : (g.cells.extract g.width g.cells.size).size = g.cells.size - g.width := by
    simp only [Array.size_extract, Nat.min_self]
  rw [hscrolled, Array.getElem?_append, hsize]
  by_cases hlast : row + 1 < g.height
  · have hindex := g.index_lt hc hlast
    rw [if_pos hlast, if_pos (by omega), cell?_of_lt hc hlast, Array.getElem?_extract,
      if_pos (by omega), hnext]
  · -- the last row begins where the moved rows end
    have hrow : g.index column row = g.cells.size - g.width + column := by
      have hheight : g.height = row + 1 := by omega
      rw [g.size_cells, index, hheight, Nat.mul_succ, Nat.add_sub_cancel, Nat.mul_comm]
    rw [if_neg hlast, if_neg (by omega), hrow, Nat.add_sub_cancel_left, Array.getElem?_replicate,
      if_pos hc]

/-- Clearing leaves no cell as it was, but the cursor stays. -/
theorem cell?_clear (hc : column < g.width) (hr : row < g.height) :
    g.clear.cell? column row = some .blank := by
  have hcleared : g.clear.cell? column row =
      (Array.replicate g.cells.size Cell.blank)[g.index column row]? := cell?_of_lt hc hr
  rw [hcleared, Array.getElem?_replicate, if_pos (g.index_lt hc hr)]

/-! ## The next line -/

/-- Where there is a next row, the cursor moves to its start. -/
theorem nextLine_of_lt (h : g.row + 1 < g.height) :
    g.nextLine.column = 0 ∧ g.nextLine.row = g.row + 1 ∧
      ∀ column row, g.nextLine.cell? column row = g.cell? column row := by
  rw [nextLine, dif_pos h]
  exact ⟨rfl, rfl, fun _ _ => rfl⟩

/-- In the last row, the rows move instead. -/
theorem nextLine_of_last (h : ¬ g.row + 1 < g.height) :
    g.nextLine.column = 0 ∧ g.nextLine.row = g.row ∧
      ∀ column row, g.nextLine.cell? column row = g.scroll.cell? column row := by
  rw [nextLine, dif_neg h]
  exact ⟨rfl, rfl, fun _ _ => rfl⟩

@[simp] theorem width_nextLine (g : Grid) : g.nextLine.width = g.width := by
  simp only [nextLine]
  split <;> rfl

@[simp] theorem height_nextLine (g : Grid) : g.nextLine.height = g.height := by
  simp only [nextLine]
  split <;> rfl

@[simp] theorem color_nextLine (g : Grid) : g.nextLine.color = g.color := by
  simp only [nextLine]
  split <;> rfl

/-! ## The size -/

/-- Output moves the cursor and scrolls; the grid never grows. -/
theorem size_put (g : Grid) (code : UInt32) :
    (g.put code).width = g.width ∧ (g.put code).height = g.height := by
  simp only [put, advance]
  split
  · exact ⟨width_nextLine _, height_nextLine _⟩
  · split
    · exact ⟨rfl, rfl⟩
    · exact ⟨width_nextLine _, height_nextLine _⟩

theorem size_observed (g : Grid) (e : Event) :
    (g.observed e).width = g.width ∧ (g.observed e).height = g.height := by
  cases e with
  | output code => exact g.size_put code
  | screen change => cases change <;> exact ⟨rfl, rfl⟩
  | vsync | stateChanged _ | textRequested _ | failure _ | note _ => exact ⟨rfl, rfl⟩

/-- A grid keeps its size. -/
theorem size_observe (g : Grid) (events : List Event) :
    (events.foldl observed g).width = g.width ∧ (events.foldl observed g).height = g.height := by
  induction events generalizing g with
  | nil => exact ⟨rfl, rfl⟩
  | cons e rest ih =>
    obtain ⟨hwidth, hheight⟩ := g.size_observed e
    obtain ⟨hwidth', hheight'⟩ := ih (g.observed e)
    exact ⟨hwidth'.trans hwidth, hheight'.trans hheight⟩

/-! ## Rows -/

/-- A row is read off cell by cell. -/
theorem getElem?_rowCells (hr : row < g.height) (column : Nat) :
    (g.rowCells row)[column]? = g.cell? column row := by
  -- the row ends inside the array, so only the width cuts it off
  have hend : (row + 1) * g.width ≤ g.cells.size := by
    rw [g.size_cells, Nat.mul_comm g.width]
    exact Nat.mul_le_mul_right _ hr
  rw [rowCells, Array.getElem?_toList, Array.getElem?_extract, Nat.min_eq_left hend, Nat.succ_mul,
    Nat.add_sub_cancel_left]
  by_cases hc : column < g.width
  · rw [if_pos hc, cell?_of_lt hc hr]
    rfl
  · rw [if_neg hc, cell?_eq_none fun inside => hc inside.1]

/-- A grid has as many rows as it is high. -/
theorem getElem?_rows (g : Grid) (row : Nat) :
    g.rows[row]? = if row < g.height then some (g.rowCells row) else none := by
  rw [rows, List.getElem?_map]
  split
  · rename_i hr
    rw [List.getElem?_range hr, Option.map_some]
  · rename_i hr
    rw [List.getElem?_eq_none (by rw [List.length_range]; omega), Option.map_none]

end GuestBridge.Screen.Grid
