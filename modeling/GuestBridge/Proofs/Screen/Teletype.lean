import GuestBridge.Proofs.Screen.Cells
/-!
# The grid is a window onto a teletype

A teletype has no last row: its lines go on forever, and what was typed stays where it is. A grid
shows the last lines of one, from the top, each filled up with blank cells to the width of the grid
and followed by blank rows. Its cursor is where the teletype types next.

The invariant `Grid.Shows` says this cell by cell. The teletype's line that stands in a row of the
grid is the row's number plus the number of lines that have scrolled off (`Teletype.hidden`). Beyond
what was typed a cell is blank, so a new empty line changes no cell; it only counts as one more line,
and that is when the grid scrolls. The invariant also says that no line is longer than a row.

## Main statement

* **`grid_shows_teletype`** — rows, cursor and pen of a grid after any events.
-/

namespace GuestBridge.Screen

/-- An endless paper of lines, each at most `width` cells long. -/
structure Teletype where
  width : Nat
  /-- The lines that have ended, from the first. -/
  ended : List (List Cell)
  /-- The line that is being typed. -/
  current : List Cell
  color : UInt32

namespace Teletype

/-- An empty paper. A width of zero counts as one. -/
def new (width : Nat) : Teletype := ⟨max width 1, [], [], defaultColor⟩

/-- Types a cell in the current line, which ends with a newline or when it is full. -/
def print (t : Teletype) (code : UInt32) : Teletype :=
  let line := t.current ++ [⟨code, t.color, 0⟩]
  if code = newline ∨ line.length = t.width then
    { t with ended := t.ended ++ [line], current := [] }
  else { t with current := line }

/-- Blank cells in place of a line, as many as it has. -/
def erase (line : List Cell) : List Cell := line.map fun _ => .blank

/-- Blanks what was typed. All lines keep their lengths. -/
def clear (t : Teletype) : Teletype :=
  { t with ended := t.ended.map erase, current := erase t.current }

/-- What an event does to the paper. Only output, clearing and colouring are seen there. -/
def observed (t : Teletype) : Event → Teletype
  | .output code => t.print code
  | .screen .clear => t.clear
  | .screen (.color rgba) => { t with color := rgba }
  | _ => t

/-- All lines, the current one last. -/
def lines (t : Teletype) : List (List Cell) := t.ended ++ [t.current]

/-- How many lines are no longer among the last `height` ones. -/
def hidden (t : Teletype) (height : Nat) : Nat := t.lines.length - height

/-- The last `height` lines, or all of them if there are fewer. -/
def window (t : Teletype) (height : Nat) : List (List Cell) := t.lines.drop (t.hidden height)

/-- A line with blank cells up to the width. -/
def padded (width : Nat) (line : List Cell) : List Cell :=
  line ++ List.replicate (width - line.length) .blank

/-- The window as rows, with blank rows up to the height. -/
def page (t : Teletype) (height : Nat) : List (List Cell) :=
  (t.window height).map (padded t.width) ++
    List.replicate (height - (t.window height).length) (padded t.width [])

/-- The cell in a column of a line. Where nothing was typed it is blank. -/
def cellAt (t : Teletype) (column number : Nat) : Cell :=
  ((t.lines[number]?.getD [])[column]?).getD .blank

/-! ## Lines and pages -/

theorem length_lines (t : Teletype) : t.lines.length = t.ended.length + 1 := by
  rw [lines, List.length_append, List.length_singleton]

/-- The window is as high as the grid once that many lines were typed. -/
theorem length_window (t : Teletype) (height : Nat) :
    (t.window height).length = min t.lines.length height := by
  rw [window, List.length_drop, hidden]
  omega

/-- A line that fits is filled up with blank cells to the width. -/
theorem getElem?_padded {width : Nat} {cells : List Cell} (h : cells.length ≤ width) (column : Nat) :
    (padded width cells)[column]? =
      if column < width then some (cells[column]?.getD .blank) else none := by
  rw [padded, List.getElem?_append, List.getElem?_replicate]
  by_cases hline : column < cells.length
  · rw [if_pos hline, if_pos (by omega), List.getElem?_eq_getElem hline, Option.getD_some]
  · rw [if_neg hline, List.getElem?_eq_none (l := cells) (by omega), Option.getD_none]
    by_cases hc : column < width
    · rw [if_pos hc, if_pos (by omega)]
    · rw [if_neg hc, if_neg (by omega)]

/-- A row of the page is the teletype's line that stands there, or blank if there is none. -/
theorem getElem?_page (t : Teletype) (height row : Nat) :
    (t.page height)[row]? =
      if row < height then some (padded t.width (t.lines[t.hidden height + row]?.getD []))
      else none := by
  have hlength := t.length_window height
  rw [page, List.getElem?_append, List.length_map, List.getElem?_map, List.getElem?_replicate]
  by_cases hwindow : row < (t.window height).length
  · have hline : (t.window height)[row]? = t.lines[t.hidden height + row]? := by
      rw [window, List.getElem?_drop]
    rw [if_pos hwindow, if_pos (by omega), ← hline, List.getElem?_eq_getElem hwindow]
    rfl
  · -- Below the window the page has blank rows, and the teletype no lines.
    by_cases hr : row < height
    · have hnone : t.lines[t.hidden height + row]? = none :=
        List.getElem?_eq_none (by rw [hidden]; omega)
      rw [if_neg hwindow, if_pos hr, if_pos (by omega), hnone, Option.getD_none]
    · rw [if_neg hwindow, if_neg hr, if_neg (by omega)]

theorem getElem?_lines_ended (t : Teletype) : t.lines[t.ended.length]? = some t.current := by
  rw [lines, List.getElem?_append_right (Nat.le_refl _), Nat.sub_self]
  rfl

/-- Below the last line there is nothing. -/
theorem cellAt_of_length_le {t : Teletype} {number : Nat} (h : t.lines.length ≤ number)
    (column : Nat) : t.cellAt column number = .blank := by
  rw [cellAt, List.getElem?_eq_none h]
  rfl

/-- An empty line at the end shows nothing. -/
theorem getD_getElem?_append_nil (lines : List (List Cell)) (number : Nat) :
    (lines ++ [[]])[number]?.getD [] = lines[number]?.getD [] := by
  rw [List.getElem?_append]
  split
  · rfl
  · rename_i hend
    rw [List.getElem?_eq_none (l := lines) (Nat.not_lt.mp hend)]
    cases h : [([] : List Cell)][number - lines.length]? with
    | none => rfl
    | some line => exact List.eq_of_mem_singleton (List.mem_of_getElem? h)

/-- Typing a cell sets it, and no other. -/
theorem cellAt_append (t : Teletype) (c : Cell) (column number : Nat) :
    ({ t with current := t.current ++ [c] } : Teletype).cellAt column number =
      if column = t.current.length ∧ number = t.ended.length then c
      else t.cellAt column number := by
  have hother (line : List Cell) (h : number ≠ t.ended.length) :
      (t.ended ++ [line])[number]? = t.ended[number]? := by
    rw [List.getElem?_append]
    split
    · rfl
    · rw [List.getElem?_eq_none (l := t.ended) (by omega), List.getElem?_singleton,
        if_neg (by omega)]
  by_cases hcurrent : number = t.ended.length
  · subst hcurrent
    simp only [cellAt, getElem?_lines_ended, Option.getD_some, and_true]
    by_cases hcolumn : column = t.current.length
    · rw [if_pos hcolumn, hcolumn, List.getElem?_concat_length, Option.getD_some]
    · rw [if_neg hcolumn, List.getElem?_append, List.getElem?_singleton]
      split
      · rfl
      · rw [if_neg (by omega), List.getElem?_eq_none (l := t.current) (by omega)]
  · rw [if_neg fun h => hcurrent h.2]
    simp only [cellAt, lines, hother _ hcurrent]

/-- Nothing that was typed is left after clearing. -/
theorem cellAt_clear (t : Teletype) (column number : Nat) :
    t.clear.cellAt column number = .blank := by
  have hlines : t.clear.lines = t.lines.map erase := by
    simp only [clear, lines, List.map_append, List.map_cons, List.map_nil]
  rw [cellAt, hlines, List.getElem?_map]
  cases t.lines[number]? with
  | none => rfl
  | some cells =>
    simp only [Option.map_some, Option.getD_some, erase, List.getElem?_map]
    cases cells[column]? <;> rfl

/-- Ends the current line. -/
def newLine (t : Teletype) : Teletype := { t with ended := t.ended ++ [t.current], current := [] }

theorem length_lines_newLine (t : Teletype) : t.newLine.lines.length = t.lines.length + 1 := by
  simp only [length_lines, newLine, List.length_append, List.length_singleton]

/-- A new line is empty, so no cell looks different. -/
theorem cellAt_newLine (t : Teletype) (column number : Nat) :
    t.newLine.cellAt column number = t.cellAt column number := by
  have hlines : t.newLine.lines = t.lines ++ [[]] := rfl
  rw [cellAt, hlines, getD_getElem?_append_nil, cellAt]

end Teletype

/-! ## The invariant -/

/-- The grid shows the last lines of the teletype, and writes where the teletype types. -/
structure Grid.Shows (g : Grid) (t : Teletype) : Prop where
  width : t.width = g.width
  column : g.column = t.current.length
  row : t.hidden g.height + g.row = t.ended.length
  color : g.color = t.color
  fits : ∀ line ∈ t.lines, line.length ≤ g.width
  cells : ∀ column row, column < g.width → row < g.height →
    g.cell? column row = some (t.cellAt column (t.hidden g.height + row))

namespace Grid.Shows

variable {g : Grid} {t : Teletype}

/-- A new grid shows an empty paper. -/
theorem blank (width height : Nat) : (Grid.blank width height).Shows (.new width) where
  width := rfl
  column := rfl
  row := by
    show 1 - max height 1 + 0 = 0
    omega
  color := rfl
  fits line hline := by
    rw [List.mem_singleton.mp hline]
    exact Nat.zero_le _
  cells column row hc hr := by
    have hnothing : (Teletype.new width).cellAt column
        ((Teletype.new width).hidden (Grid.blank width height).height + row) = .blank := by
      unfold Teletype.cellAt
      rw [show (Teletype.new width).lines = [] ++ [[]] from rfl,
        Teletype.getD_getElem?_append_nil]
      rfl
    rw [hnothing]
    exact cell?_blank width height hc hr

/-- Storing at the cursor types the cell. The cursor is still to move. -/
theorem store_cells (h : g.Shows t) (c : Cell) {column row : Nat} (hc : column < g.width)
    (hr : row < g.height) :
    (g.store c).cell? column row =
      some (({ t with current := t.current ++ [c] } : Teletype).cellAt column
        (t.hidden g.height + row)) := by
  have hcursor : (column = g.column ∧ row = g.row) ↔
      (column = t.current.length ∧ t.hidden g.height + row = t.ended.length) := by
    rw [h.column, ← h.row, Nat.add_left_cancel_iff]
  rw [cell?_store, Teletype.cellAt_append, h.cells column row hc hr]
  simp only [hcursor, apply_ite some]

/-- The next line of the grid ends the line of the teletype. Here `g` and `t` agree on the cells and
on the cursor's row, wherever in the row the cursor is. -/
theorem of_nextLine (hwidth : t.width = g.width)
    (hrow : t.hidden g.height + g.row = t.ended.length) (hcolor : g.color = t.color)
    (hfits : ∀ line ∈ t.lines, line.length ≤ g.width)
    (hcells : ∀ column row, column < g.width → row < g.height →
      g.cell? column row = some (t.cellAt column (t.hidden g.height + row))) :
    g.nextLine.Shows t.newLine := by
  have hlength := t.length_lines
  have hhidden : t.hidden g.height = t.lines.length - g.height := rfl
  have hnew : t.newLine.hidden g.height = t.lines.length + 1 - g.height := by
    rw [Teletype.hidden, Teletype.length_lines_newLine]
  have hended : t.newLine.ended.length = t.lines.length := by
    rw [hlength, Teletype.newLine, List.length_append, List.length_singleton]
  have hrow_lt := g.row_lt
  -- Either the grid has room for one more line, or the first of its lines goes.
  have hcolumn' : g.nextLine.column = 0 := by
    by_cases hroom : g.row + 1 < g.height
    · exact (nextLine_of_lt hroom).1
    · exact (nextLine_of_last hroom).1
  have hrow' : t.newLine.hidden g.height + g.nextLine.row = t.newLine.ended.length := by
    by_cases hroom : g.row + 1 < g.height
    · rw [(nextLine_of_lt hroom).2.1]
      omega
    · rw [(nextLine_of_last hroom).2.1]
      omega
  have hcells' (column row : Nat) (hc : column < g.width) (hr : row < g.height) :
      g.nextLine.cell? column row =
        some (t.newLine.cellAt column (t.newLine.hidden g.height + row)) := by
    rw [Teletype.cellAt_newLine]
    by_cases hroom : g.row + 1 < g.height
    · have hsame : t.newLine.hidden g.height = t.hidden g.height := by omega
      rw [(nextLine_of_lt hroom).2.2, hcells column row hc hr, hsame]
    · have hmore : t.newLine.hidden g.height + row = t.hidden g.height + (row + 1) := by omega
      rw [(nextLine_of_last hroom).2.2, cell?_scroll hc hr, hmore]
      by_cases hnext : row + 1 < g.height
      · rw [if_pos hnext, hcells column (row + 1) hc hnext]
      · rw [if_neg hnext, Teletype.cellAt_of_length_le (by omega)]
  have hfits' : ∀ line ∈ t.newLine.lines, line.length ≤ g.width := by
    intro line hline
    rcases List.mem_append.mp hline with hline | hline
    · exact hfits line hline
    · rw [List.mem_singleton.mp hline]
      exact Nat.zero_le _
  constructor
  · exact hwidth.trans g.width_nextLine.symm
  · exact hcolumn'
  · rwa [height_nextLine]
  · exact g.color_nextLine.trans hcolor
  · rwa [width_nextLine]
  · rwa [width_nextLine, height_nextLine]

/-- Writing a code point types it. -/
theorem put (h : g.Shows t) (code : UInt32) : (g.put code).Shows (t.print code) := by
  let c : Cell := ⟨code, t.color, 0⟩
  -- The paper after the cell was typed, before the line is ended.
  let typed : Teletype := { t with current := t.current ++ [c] }
  have hstore : g.store ⟨code, g.color, 0⟩ = g.store c := by rw [h.color]
  have hlength : (t.current ++ [c]).length = g.column + 1 := by
    rw [List.length_append, List.length_singleton, h.column]
  have hhidden : typed.hidden g.height = t.hidden g.height := by
    simp only [Teletype.hidden, Teletype.length_lines, typed]
  have hcolumn := g.column_lt
  have hrow : typed.hidden g.height + g.row = typed.ended.length := by
    rw [hhidden]
    exact h.row
  have hfits : ∀ line ∈ typed.lines, line.length ≤ g.width := by
    intro line hline
    rcases List.mem_append.mp hline with hline | hline
    · exact h.fits line (List.mem_append_left _ hline)
    · rw [List.mem_singleton.mp hline, hlength]
      exact hcolumn
  have hcells (column row : Nat) (hc : column < g.width) (hr : row < g.height) :
      (g.store c).cell? column row = some (typed.cellAt column (typed.hidden g.height + row)) := by
    rw [hhidden]
    exact h.store_cells c hc hr
  have hnext : (g.store c).nextLine.Shows typed.newLine :=
    of_nextLine h.width hrow h.color hfits hcells
  -- Both sides end the line in the same cases: after a newline, and where the line is full.
  by_cases hnewline : code = newline
  · have hput : g.put code = (g.store c).nextLine := by
      rw [Grid.put, hstore, if_pos hnewline]
    have hprint : t.print code = typed.newLine := if_pos (.inl hnewline)
    rw [hput, hprint]
    exact hnext
  · have hput : g.put code = (g.store c).advance := by
      rw [Grid.put, hstore, if_neg hnewline]
    by_cases hroom : g.column + 1 < g.width
    · have hopen : ¬ (code = newline ∨ (t.current ++ [c]).length = t.width) := by
        rw [hlength, h.width]
        rintro (hnl | hfull)
        · exact hnewline hnl
        · omega
      have hprint : t.print code = typed := if_neg hopen
      have hadvance : (g.store c).advance =
          { g.store c with column := g.column + 1, column_lt := hroom } := dif_pos hroom
      rw [hput, hprint, hadvance]
      exact ⟨h.width, hlength.symm, hrow, h.color, hfits, hcells⟩
    · have hfull : code = newline ∨ (t.current ++ [c]).length = t.width := by
        right
        rw [hlength, h.width]
        omega
      have hprint : t.print code = typed.newLine := if_pos hfull
      have hadvance : (g.store c).advance = (g.store c).nextLine := dif_neg hroom
      rw [hput, hprint, hadvance]
      exact hnext

/-- Clearing blanks both; the lines keep their lengths, so the cursor stays. -/
theorem clear (h : g.Shows t) : g.clear.Shows t.clear := by
  have hlength : (Teletype.erase t.current).length = t.current.length := List.length_map ..
  have hended : t.clear.ended.length = t.ended.length := List.length_map ..
  have hhidden : t.clear.hidden g.height = t.hidden g.height := by
    simp only [Teletype.hidden, Teletype.length_lines, hended]
  constructor
  · exact h.width
  · exact h.column.trans hlength.symm
  · show t.clear.hidden g.height + g.row = t.clear.ended.length
    rw [hhidden, hended]
    exact h.row
  · exact h.color
  · intro line hline
    have hlines : t.clear.lines = t.lines.map Teletype.erase := by
      simp only [Teletype.clear, Teletype.lines, List.map_append, List.map_cons, List.map_nil]
    rw [hlines] at hline
    obtain ⟨old, hold, rfl⟩ := List.mem_map.mp hline
    rw [Teletype.erase, List.length_map]
    exact h.fits old hold
  · intro column row hc hr
    rw [Teletype.cellAt_clear]
    exact cell?_clear hc hr

/-- **One event.** The grid and the teletype see it in the same way. -/
theorem observed (h : g.Shows t) (e : Event) : (g.observed e).Shows (t.observed e) := by
  cases e with
  | output code => exact h.put code
  | screen change =>
    cases change with
    | clear => exact h.clear
    | color rgba => exact { h with color := rfl }
  | vsync | stateChanged _ | textRequested _ | failure _ | note _ => exact h

/-- The grid and the teletype agree after any events. -/
theorem observe (h : g.Shows t) (events : List Event) :
    (events.foldl Grid.observed g).Shows (events.foldl Teletype.observed t) := by
  -- Induction on the events, one after the other.
  induction events generalizing g t with
  | nil => exact h
  | cons e rest ih => exact ih (h.observed e)

/-! ## What is shown -/

/-- The row of the grid is the line of the teletype, filled up. -/
theorem rowCells_eq (h : g.Shows t) {row : Nat} (hr : row < g.height) :
    g.rowCells row = Teletype.padded t.width (t.lines[t.hidden g.height + row]?.getD []) := by
  have hline : (t.lines[t.hidden g.height + row]?.getD []).length ≤ t.width := by
    rw [h.width]
    cases hget : t.lines[t.hidden g.height + row]? with
    | none => exact Nat.zero_le _
    | some line => exact h.fits line (List.mem_of_getElem? hget)
  refine List.ext_getElem? fun column => ?_
  rw [getElem?_rowCells hr, Teletype.getElem?_padded hline]
  by_cases hc : column < g.width
  · rw [h.cells column row hc hr, if_pos (h.width ▸ hc), Teletype.cellAt]
  · rw [cell?_eq_none fun inside => hc inside.1, if_neg (h.width ▸ hc)]

/-- Row by row, the grid is the page of the teletype. -/
theorem rows_eq_page (h : g.Shows t) : g.rows = t.page g.height := by
  refine List.ext_getElem? fun row => ?_
  rw [getElem?_rows, Teletype.getElem?_page]
  by_cases hr : row < g.height
  · rw [if_pos hr, if_pos hr, h.rowCells_eq hr]
  · rw [if_neg hr, if_neg hr]

/-- The cursor stands in the row of the current line, which is the last of the window. -/
theorem window_row (h : g.Shows t) :
    (t.window g.height)[g.row]? = some t.current ∧ g.row + 1 = (t.window g.height).length := by
  have hrow := h.row
  have hlength := t.length_lines
  have hhidden : t.hidden g.height = t.lines.length - g.height := rfl
  refine ⟨?_, ?_⟩
  · rw [Teletype.window, List.getElem?_drop, hrow, Teletype.getElem?_lines_ended]
  · rw [Teletype.length_window]
    omega

/-- Nothing stands where the teletype has not typed yet. -/
theorem cell?_of_cursor_le (h : g.Shows t) {column row : Nat} (hc : column < g.width)
    (hr : row < g.height) (hcursor : g.row < row ∨ g.row = row ∧ g.column ≤ column) :
    g.cell? column row = some .blank := by
  have hrow := h.row
  rw [h.cells column row hc hr]
  rcases hcursor with hbelow | ⟨rfl, hright⟩
  · have hend : t.lines.length ≤ t.hidden g.height + row := by
      rw [t.length_lines]
      omega
    rw [Teletype.cellAt_of_length_le hend]
  · rw [hrow, Teletype.cellAt, Teletype.getElem?_lines_ended, Option.getD_some,
      List.getElem?_eq_none (h.column ▸ hright)]
    rfl

end Grid.Shows

/-- **The grid is a window onto a teletype.** For every width and height and all events, where output
is written, and clearing and colouring change the screen: the rows of a new grid are then the last
lines of the teletype, as many as the grid has rows, each filled up with blank cells, and blank rows
below them. No line is longer than a row, so none of its cells is missing. The cursor is behind the
last cell of the current line, in that line's row. The size of the grid never changes, the cursor
never leaves it, so there is always a cell to write, and from the cursor on every cell is blank. -/
theorem grid_shows_teletype (width height : Nat) (events : List Event) :
    let g := events.foldl Grid.observed (.blank width height)
    let t := events.foldl Teletype.observed (.new width)
    g.rows = t.page (max height 1) ∧
    (∀ line ∈ t.lines, line.length ≤ max width 1) ∧
    g.column = t.current.length ∧
    (t.window (max height 1))[g.row]? = some t.current ∧
    g.row + 1 = (t.window (max height 1)).length ∧
    g.color = t.color ∧
    g.width = max width 1 ∧ g.height = max height 1 ∧
    g.cells.size = max width 1 * max height 1 ∧
    g.column < max width 1 ∧ g.row < max height 1 ∧
    g.index g.column g.row < g.cells.size ∧
    (∀ column row, column < max width 1 → row < max height 1 →
      (g.row < row ∨ g.row = row ∧ g.column ≤ column) → g.cell? column row = some .blank) := by
  intro g t
  have h : g.Shows t := (Grid.Shows.blank width height).observe events
  obtain ⟨hwidth, hheight⟩ := Grid.size_observe (.blank width height) events
  obtain ⟨hcurrent, hlast⟩ := h.window_row
  rw [← show g.width = max width 1 from hwidth, ← show g.height = max height 1 from hheight]
  exact ⟨h.rows_eq_page, h.fits, h.column, hcurrent, hlast, h.color, rfl, rfl, g.size_cells,
    g.column_lt, g.row_lt, g.index_lt g.column_lt g.row_lt,
    fun column row hc hr hcursor => h.cell?_of_cursor_le hc hr hcursor⟩

/-- Three columns, two rows: the first line is full and has scrolled off, the second ends with a
newline cell, and the cursor is behind the one cell of the third. -/
theorem grid_shows_teletype_scrolled :
    let typed : List Event := [.output 65, .output 66, .output 67, .output 68, .output 10, .output 69]
    let g := typed.foldl Grid.observed (.blank 3 2)
    let t := typed.foldl Teletype.observed (.new 3)
    t.lines.map (·.map Cell.code) = [[65, 66, 67], [68, 10], [69]] ∧
    g.rows = t.page 2 ∧ g.rows.map (·.map Cell.code) = [[68, 10, 0], [69, 0, 0]] ∧
    t.ended[0]?.map List.length = some 3 ∧ (∀ line ∈ t.ended, line.length ≤ 3) ∧
    (g.column, g.row) = (1, 1) ∧ g.cell? 1 1 = some .blank ∧ g.cell? 2 1 = some .blank := by
  intro typed g t
  obtain ⟨hrows, hfits, hcolumn, -, hrow, -, -, -, -, -, -, -, hblank⟩ :=
    grid_shows_teletype 3 2 typed
  refine ⟨by decide, hrows, by decide, by decide,
    fun line hline => hfits line (List.mem_append_left _ hline), ?_, ?_, ?_⟩
  · exact Prod.ext hcolumn (Nat.succ.inj hrow)
  · exact hblank 1 1 (by decide) (by decide) (.inr ⟨by decide, by decide⟩)
  · exact hblank 2 1 (by decide) (by decide) (.inr ⟨by decide, by decide⟩)

end GuestBridge.Screen
