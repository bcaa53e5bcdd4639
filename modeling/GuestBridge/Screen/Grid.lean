import GuestBridge.Session.Event
import GuestBridge.Text.Blank
import GuestBridge.Text.Scalar
/-!
# The text grid

A fixed number of rows of cells with a cursor and a pen colour. A code point is stored at the
cursor, which then moves on; past the last column, and after a newline, it moves to the start of the
next row, and past the last row all rows move up by one. The cursor is always inside the grid.
-/

namespace GuestBridge.Screen

structure Cell where
  code : UInt32
  color : UInt32
  attr : UInt32
  deriving DecidableEq, Repr

/-- The pen colour at the start. -/
def defaultColor : UInt32 := 0xFFFFFFFF

/-- A cell that was never written. -/
def Cell.blank : Cell := ⟨0, defaultColor, 0⟩

/-- The code point that ends a line. -/
def newline : UInt32 := 10

/-- Rows of cells, the rows one after the other, with a cursor and a pen colour. -/
structure Grid where
  width : Nat
  height : Nat
  cells : Array Cell
  column : Nat
  row : Nat
  color : UInt32
  size_cells : cells.size = width * height
  column_lt : column < width
  row_lt : row < height

namespace Grid

/-- A blank grid. A size of zero counts as one. -/
def blank (width height : Nat) : Grid where
  width := max width 1
  height := max height 1
  cells := Array.replicate (max width 1 * max height 1) .blank
  column := 0
  row := 0
  color := defaultColor
  size_cells := by simp
  column_lt := by omega
  row_lt := by omega

/-- The most cells that a vector holds: twelve bytes each, in less than half of all addresses. More
cannot be made. That fewer can is assumed: memory does not run out. -/
def maxCells : Nat := (UInt64.size / 2 - 1) / 12

/-- There are not too many cells for a blank grid of this size to be made. -/
def Fits (width height : Nat) : Prop := max width 1 * max height 1 ≤ maxCells

instance (width height : Nat) : Decidable (Fits width height) := inferInstanceAs (Decidable (_ ≤ _))

/-- The position of the cell in a row and a column. -/
def index (g : Grid) (column row : Nat) : Nat := row * g.width + column

theorem index_lt (g : Grid) {column row : Nat} (hc : column < g.width) (hr : row < g.height) :
    g.index column row < g.cells.size := by
  rw [g.size_cells, index]
  calc row * g.width + column < row * g.width + g.width := by omega
    _ = (row + 1) * g.width := by rw [Nat.succ_mul]
    _ ≤ g.height * g.width := Nat.mul_le_mul_right _ hr
    _ = g.width * g.height := Nat.mul_comm _ _

/-- The cell in a column and a row of the grid. -/
def cell? (g : Grid) (column row : Nat) : Option Cell :=
  if column < g.width ∧ row < g.height then g.cells[g.index column row]? else none

/-! ## Writing -/

def store (g : Grid) (c : Cell) : Grid :=
  { g with
    cells := g.cells.set (g.index g.column g.row) c (g.index_lt g.column_lt g.row_lt)
    size_cells := by simp [g.size_cells] }

/-- Moves all rows up by one and blanks the last. -/
def scroll (g : Grid) : Grid :=
  { g with
    cells := g.cells.extract g.width g.cells.size ++ Array.replicate g.width .blank
    size_cells := by
      have h : g.width ≤ g.width * g.height :=
        Nat.le_mul_of_pos_right _ (by have := g.row_lt; omega)
      simp [g.size_cells]
      omega }

/-- Moves the cursor to the start of the next row, scrolling at the last one. -/
def nextLine (g : Grid) : Grid :=
  let first : Grid := { g with column := 0, column_lt := by have := g.column_lt; omega }
  if h : g.row + 1 < g.height then { first with row := g.row + 1, row_lt := h }
  else first.scroll

/-- Moves the cursor to the next column, or to the next row after the last one. -/
def advance (g : Grid) : Grid :=
  if h : g.column + 1 < g.width then { g with column := g.column + 1, column_lt := h }
  else g.nextLine

/-- Writes a code point at the cursor in the pen colour. A newline is stored too. -/
def put (g : Grid) (code : UInt32) : Grid :=
  let written := g.store ⟨code, g.color, 0⟩
  if code = newline then written.nextLine else written.advance

/-- Blanks every cell; the cursor and the pen stay. -/
def clear (g : Grid) : Grid :=
  { g with
    cells := Array.replicate g.cells.size .blank
    size_cells := by simp [g.size_cells] }

def setColor (g : Grid) (color : UInt32) : Grid := { g with color }

def putText (g : Grid) (text : String) : Grid :=
  text.toList.foldl (fun g c => g.put c.val) g

def apply (g : Grid) : Change → Grid
  | .clear => g.clear
  | .color rgba => g.setColor rgba

/-- Shows an event of a session: output is written and changes are made; nothing else is seen. -/
def observed (g : Grid) : Event → Grid
  | .output code => g.put code
  | .screen change => g.apply change
  | _ => g

/-! ## Reading -/

def rowCells (g : Grid) (row : Nat) : List Cell :=
  (g.cells.extract (row * g.width) ((row + 1) * g.width)).toList

/-- All rows, from the top. -/
def rows (g : Grid) : List (List Cell) := (List.range g.height).map g.rowCells

/-- The character that shows a cell: unwritten cells and newlines look empty. -/
def glyph (c : Cell) : Char :=
  if c.code = 0 ∨ c.code = newline then ' ' else Text.charOfCode c.code

/-- A row as text, without blanks at its end. -/
def line (row : List Cell) : List Char := Text.trimRight (row.map glyph)

/-- The rows as lines of text, without empty lines at the end. -/
def render (g : Grid) : String :=
  let lines := (g.rows.map line).reverse.dropWhile List.isEmpty |>.reverse
  "\n".intercalate (lines.map String.ofList)

end Grid

end GuestBridge.Screen
