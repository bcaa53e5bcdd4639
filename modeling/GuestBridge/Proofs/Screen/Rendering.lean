import Mathlib.Data.List.DropRight
import GuestBridge.Proofs.Schedule.Steps
import GuestBridge.Proofs.Screen.Teletype
import GuestBridge.Proofs.Text.Runs
/-!
# A printed text is rendered as it is

A text whose lines are shorter than the rows of a grid is typed line for line: a line of the
teletype is a line of the text and the newline behind it (`Teletype.Typed`). The grid shows the last
of them (`Grid.Shows`). Rendering takes away what the grid has filled up: blank cells and the
newline at the end of a row, and blank rows at the end of the page. It takes away no more than that
if no line ends with a blank character of its own and the last line is not empty, so the lines come
out as they were.

What a row looks like depends on the code points of its cells only (`Grid.lineOf`), so the pen does
not matter.

## Main statement

* **`render_printed_text`** — the last lines of a text that is printed on a new grid.
-/

namespace GuestBridge.Screen

/-! ## Pieces of a list -/

/-- The pieces of a list contain its elements, the separator excepted. -/
theorem mem_of_mem_splitOn {α : Type} [DecidableEq α] {sep : α} {l piece : List α}
    (h : piece ∈ l.splitOn sep) : ∀ a ∈ piece, a ∈ l ∧ a ≠ sep := by
  induction l generalizing piece with
  | nil =>
    rw [List.splitOn_nil, List.mem_singleton] at h
    subst h
    exact List.forall_mem_nil _
  | cons b rest ih =>
    have hrest {q : List α} (hq : q ∈ rest.splitOn sep) : ∀ a ∈ q, a ∈ b :: rest ∧ a ≠ sep :=
      fun a ha => ⟨List.mem_cons_of_mem _ (ih hq a ha).1, (ih hq a ha).2⟩
    rw [List.splitOn_cons_eq_if_modifyHead] at h
    by_cases hb : b = sep
    · rw [if_pos (by simpa using hb)] at h
      rcases List.mem_cons.mp h with rfl | h
      · exact List.forall_mem_nil _
      · exact hrest h
    · rw [if_neg (by simpa using hb)] at h
      obtain ⟨first, others, hsplit⟩ := List.exists_cons_of_ne_nil (List.splitOn_ne_nil sep rest)
      rw [hsplit] at h hrest
      rcases List.mem_cons.mp h with rfl | h
      · exact List.forall_mem_cons.mpr
          ⟨⟨List.mem_cons_self, hb⟩, hrest List.mem_cons_self⟩
      · exact hrest (List.mem_cons_of_mem _ h)

/-! ## Lines as they are typed -/

namespace Teletype

/-- What was typed are lines of text, with a newline behind each but the last. -/
structure Typed (t : Teletype) (before : List (List Char)) (last : List Char) : Prop where
  ended : t.ended.map (·.map Cell.code) = before.map fun line => line.map Char.val ++ [newline]
  current : t.current.map Cell.code = last.map Char.val

theorem typed_new (width : Nat) : (new width).Typed [] [] := ⟨rfl, rfl⟩

theorem width_observed (t : Teletype) (e : Event) : (t.observed e).width = t.width := by
  cases e with
  | output code =>
    show (t.print code).width = t.width
    unfold print
    dsimp only
    split
    · rfl
    · rfl
  | screen change => cases change <;> rfl
  | vsync | stateChanged _ | textRequested _ | failure _ | note _ => rfl

namespace Typed

variable {t : Teletype} {before : List (List Char)} {last : List Char}

/-- A newline ends the line. -/
theorem newline (h : t.Typed before last) : (t.print newline).Typed (before ++ [last]) [] := by
  unfold print
  rw [if_pos (.inl rfl)]
  refine ⟨?_, rfl⟩
  simp only [List.map_append, h.ended, List.map_cons, List.map_nil, h.current]

/-- Any other character stands in the line, if there is room for one more behind it. -/
theorem char (h : t.Typed before last) {c : Char} (hc : c ≠ '\n')
    (hroom : last.length + 1 < t.width) : (t.print c.val).Typed before (last ++ [c]) := by
  have hcode : c.val ≠ Screen.newline := fun hval => hc (Char.ext hval)
  have hlength : t.current.length = last.length := by
    simpa using congrArg List.length h.current
  -- The line stays open: this is no newline, and the line is not full with it.
  have hopen : ¬ (c.val = Screen.newline ∨
      (t.current ++ [(⟨c.val, t.color, 0⟩ : Cell)]).length = t.width) := by
    rintro (hnewline | hfull)
    · exact hcode hnewline
    · simp only [List.length_append, List.length_singleton] at hfull
      omega
  unfold print
  rw [if_neg hopen]
  refine ⟨h.ended, ?_⟩
  simp only [List.map_append, h.current, List.map_cons, List.map_nil]

/-- What is no output and does not clear the screen leaves the text as it is. -/
theorem unprinted (h : t.Typed before last) {e : Event} (hcode : e.code? = none)
    (hclear : e ≠ .screen .clear) : (t.observed e).Typed before last := by
  cases e with
  | output code => cases hcode
  | screen change =>
    cases change with
    | clear => exact absurd rfl hclear
    | color rgba => exact ⟨h.ended, h.current⟩
  | vsync | stateChanged _ | textRequested _ | failure _ | note _ => exact h

/-- **Printing a text.** The text goes on where the last line ended. -/
theorem observe (h : t.Typed before last) {events : List Event} {text : List Char}
    (hspelled : events.filterMap Event.code? = text.map Char.val)
    (hclear : Event.screen .clear ∉ events)
    (hfits : ∀ line ∈ (text.splitOn '\n').modifyHead (last ++ ·), line.length < t.width) :
    ∃ before' last', (events.foldl observed t).Typed before' last' ∧
      before' ++ [last'] = before ++ (text.splitOn '\n').modifyHead (last ++ ·) := by
  -- Induction on the events: each output is the next character of the text.
  induction events generalizing t before last text with
  | nil =>
    obtain rfl : text = [] := by simpa using hspelled.symm
    exact ⟨before, last, h, by simp⟩
  | cons e rest ih =>
    obtain ⟨hfirst, hrest⟩ := List.ne_and_not_mem_of_not_mem_cons hclear
    rw [← t.width_observed e] at hfits
    cases hcode : e.code? with
    | none =>
      rw [List.filterMap_cons_none hcode] at hspelled
      exact ih (h.unprinted hcode hfirst.symm) hspelled hrest hfits
    | some code =>
      rw [List.filterMap_cons_some hcode] at hspelled
      obtain ⟨c, cs, rfl, hc, hcs⟩ := List.map_eq_cons_iff.mp hspelled.symm
      have hobserved : t.observed e = t.print c.val := by
        cases e with
        | output code' => rw [hc, ← Option.some.inj hcode]; rfl
        | screen _ | vsync | stateChanged _ | textRequested _ | failure _ | note _ => cases hcode
      obtain ⟨first, others, hsplit⟩ := List.exists_cons_of_ne_nil (List.splitOn_ne_nil '\n' cs)
      rw [List.splitOn_cons_eq_if_modifyHead] at hfits ⊢
      by_cases hnewline : c = '\n'
      · subst hnewline
        have hnext : (t.observed e).Typed (before ++ [last]) [] := by
          rw [hobserved]
          exact h.newline
        rw [if_pos (beq_self_eq_true _), List.modifyHead_cons, List.append_nil] at hfits ⊢
        obtain ⟨before', last', htyped, hlines⟩ := ih hnext hcs.symm hrest (by
          simpa [hsplit] using (List.forall_mem_cons.mp hfits).2)
        refine ⟨before', last', htyped, hlines.trans ?_⟩
        simp [hsplit]
      · rw [if_neg (by simpa using hnewline), hsplit, List.modifyHead_cons, List.modifyHead_cons]
          at hfits ⊢
        -- The line with this character in it still fits, by `hfits`.
        have hroom : last.length + 1 < t.width := by
          have hlong := hfits _ List.mem_cons_self
          rw [t.width_observed e] at hlong
          simp only [List.length_append, List.length_cons] at hlong
          omega
        have hnext : (t.observed e).Typed before (last ++ [c]) := by
          rw [hobserved]
          exact h.char hnewline hroom
        obtain ⟨before', last', htyped, hlines⟩ := ih hnext hcs.symm hrest (by
          simpa [hsplit] using hfits)
        refine ⟨before', last', htyped, hlines.trans ?_⟩
        simp [hsplit]

end Typed

end Teletype

/-! ## What a row looks like -/

namespace Grid

/-- A row as text, by the code points of its cells up to the last that was written. -/
def lineOf (width : Nat) (codes : List UInt32) : List Char :=
  Text.trimRight
    ((codes ++ List.replicate (width - codes.length) 0).map fun code => glyph ⟨code, 0, 0⟩)

/-- The look of a row depends on its code points only, not on their colours. -/
theorem line_padded (width : Nat) (cells : List Cell) :
    line (Teletype.padded width cells) = lineOf width (cells.map Cell.code) := by
  have hglyph (row : List Cell) :
      row.map glyph = (row.map Cell.code).map fun code => glyph ⟨code, 0, 0⟩ := by
    rw [List.map_map]
    rfl
  rw [line, hglyph, Teletype.padded, List.map_append, List.map_replicate, lineOf, List.length_map]
  rfl

theorem charOfCode_val (c : Char) : Text.charOfCode c.val = c := dif_pos c.valid

/-- A character looks like itself, unless it is drawn as a blank. -/
theorem glyph_val {c : Char} (hnull : c ≠ '\x00') (hnewline : c ≠ '\n') :
    glyph ⟨c.val, 0, 0⟩ = c := by
  have hplain : ¬ (c.val = 0 ∨ c.val = Screen.newline) := by
    rintro (hval | hval)
    · exact hnull (Char.ext hval)
    · exact hnewline (Char.ext hval)
  rw [glyph, if_neg hplain, charOfCode_val]

/-- A row that was filled with a line of text looks like the line. -/
theorem lineOf_text {line : List Char} (hplain : ∀ c ∈ line, c ≠ '\x00' ∧ c ≠ '\n')
    (hend : ∀ c ∈ line.getLast?, Text.isBlank c = false) (width : Nat) {tail : List UInt32}
    (htail : ∀ code ∈ tail, code = newline) :
    lineOf width (line.map Char.val ++ tail) = line := by
  have hglyphs : (line.map Char.val).map (fun code => glyph ⟨code, 0, 0⟩) = line := by
    rw [List.map_map]
    refine (List.map_congr_left fun c hc => ?_).trans (List.map_id line)
    exact glyph_val (hplain c hc).1 (hplain c hc).2
  have hblank {code : UInt32} (hcode : code = 0 ∨ code = newline) :
      Text.isBlank (glyph ⟨code, 0, 0⟩) = true := by
    rw [glyph, if_pos hcode]
    rfl
  -- Behind the text there are at most a newline and unwritten cells, all blank.
  have hrest {n : Nat} : ∀ c ∈ (tail ++ List.replicate n 0).map fun code => glyph ⟨code, 0, 0⟩,
      Text.isBlank c = true := by
    intro c hc
    obtain ⟨code, hmem, rfl⟩ := List.mem_map.mp hc
    rcases List.mem_append.mp hmem with hmem | hmem
    · exact hblank (.inr (htail code hmem))
    · exact hblank (.inl (List.eq_of_mem_replicate hmem))
  rw [lineOf, List.append_assoc, List.map_append, hglyphs]
  exact Text.rdropWhile_append hend hrest

/-- The lines of a text, as rows. -/
theorem lines_of_typed {t : Teletype} {before : List (List Char)} {last : List Char}
    (h : t.Typed before last)
    (hplain : ∀ line ∈ before ++ [last], ∀ c ∈ line, c ≠ '\x00' ∧ c ≠ '\n')
    (hend : ∀ line ∈ before ++ [last], ∀ c ∈ line.getLast?, Text.isBlank c = false) :
    t.lines.map (fun cells => line (Teletype.padded t.width cells)) = before ++ [last] := by
  have hended : t.ended.map (fun cells => line (Teletype.padded t.width cells)) = before := by
    calc t.ended.map (fun cells => line (Teletype.padded t.width cells))
        = (t.ended.map (·.map Cell.code)).map (lineOf t.width) := by
          rw [List.map_map]
          exact List.map_congr_left fun cells _ => line_padded t.width cells
      _ = before.map fun line => lineOf t.width (line.map Char.val ++ [newline]) := by
          rw [h.ended, List.map_map]
          rfl
      _ = before := by
          refine (List.map_congr_left fun line hline => ?_).trans (List.map_id before)
          have hmem := List.mem_append_left [last] hline
          exact lineOf_text (hplain line hmem) (hend line hmem) t.width (by simp)
  have hcurrent : line (Teletype.padded t.width t.current) = last := by
    have hmem : last ∈ before ++ [last] := List.mem_append_right _ List.mem_cons_self
    rw [line_padded, h.current, ← List.append_nil (last.map Char.val)]
    exact lineOf_text (hplain last hmem) (hend last hmem) t.width (by simp)
  rw [Teletype.lines, List.map_append, hended, List.map_singleton, hcurrent]

/-- A page of lines whose last is not empty is rendered as these lines: the blank rows behind them
are taken away, and nothing else. -/
theorem render_of_shows {g : Grid} {t : Teletype} (h : g.Shows t) {lines : List (List Char)}
    (hlines : t.lines.map (fun cells => line (Teletype.padded t.width cells)) = lines)
    (hlast : lines.getLast? ≠ some []) :
    g.render = "\n".intercalate ((lines.rtake (min lines.length g.height)).map String.ofList) := by
  have hcount : t.lines.length = lines.length := by rw [← hlines, List.length_map]
  have hwindow : (t.window g.height).map (fun cells => line (Teletype.padded t.width cells)) =
      lines.rtake (min lines.length g.height) := by
    have hhidden : t.hidden g.height = lines.length - min lines.length g.height := by
      rw [Teletype.hidden, hcount]
      omega
    rw [Teletype.window, List.map_drop, hlines, hhidden, List.rtake]
  -- Rows below the window are blank, and look like nothing.
  have hempty : line (Teletype.padded t.width []) = [] := by
    rw [line_padded]
    exact lineOf_text (List.forall_mem_nil _) (by simp) t.width (List.forall_mem_nil _)
  have hrows : g.rows.map line = lines.rtake (min lines.length g.height) ++
      List.replicate (g.height - (t.window g.height).length) [] := by
    rw [h.rows_eq_page, Teletype.page, List.map_append, List.map_map, List.map_replicate, hempty,
      ← hwindow]
    rfl
  -- The last line is not empty, so trimming the rows stops there.
  have hend : ∀ l ∈ (lines.rtake (min lines.length g.height)).getLast?, l.isEmpty = false := by
    intro l hl
    rw [List.rtake, List.getLast?_drop] at hl
    split at hl
    · cases hl
    · cases l with
      | nil => exact absurd hl hlast
      | cons c cs => rfl
  show "\n".intercalate (((g.rows.map line).rdropWhile List.isEmpty).map String.ofList) = _
  rw [hrows, Text.rdropWhile_append hend fun l hl => by rw [List.eq_of_mem_replicate hl]; rfl]

end Grid

/-- The pieces of a text between its newlines. -/
def linesOf (text : String) : List (List Char) := text.toList.splitOn '\n'

/-- **A printed text is rendered as it is.** Let each line of a text be shorter than a row and end
with a character that is not blank, unless it is empty, let the last line not be empty, and let no
character be null. On a new grid, let any events happen whose output spells the text and none of
which clears the screen. The grid then renders

* the last lines of the text, as many as it has rows, with newlines between them;
* all of the text, if it has no more lines than that. -/
theorem render_printed_text (width height : Nat) (hheight : 1 ≤ height) (text : String)
    (events : List Event)
    (hspelled : events.filterMap Event.code? = text.toList.map Char.val)
    (hclear : Event.screen .clear ∉ events)
    (hnull : '\x00' ∉ text.toList)
    (hfits : ∀ line ∈ linesOf text, line.length < width)
    (hend : ∀ line ∈ linesOf text, ∀ c ∈ line.getLast?, Text.isBlank c = false)
    (hlast : (linesOf text).getLast? ≠ some []) :
    let lines := linesOf text
    let rendered := (events.foldl Grid.observed (.blank width height)).render
    rendered = "\n".intercalate ((lines.rtake (min lines.length height)).map String.ofList) ∧
    (lines.length ≤ height → rendered = text) := by
  intro lines rendered
  have hshows := (Grid.Shows.blank width height).observe events
  have hsize : (events.foldl Grid.observed (.blank width height)).height = height :=
    (Grid.size_observe _ events).2.trans (Nat.max_eq_left hheight)
  have hsame : lines.modifyHead ([] ++ ·) = lines := by
    cases lines <;> rfl
  -- By `hfits` no line reaches the width, so only newlines end lines.
  obtain ⟨before, last, htyped, hlines⟩ := (Teletype.typed_new width).observe hspelled hclear (by
    intro line hline
    have hmem : line ∈ lines := by rwa [← hsame]
    have hshort := hfits line hmem
    show line.length < max width 1
    omega)
  obtain hlines : before ++ [last] = lines := hlines.trans (by rw [List.nil_append]; exact hsame)
  have hplain : ∀ line ∈ lines, ∀ c ∈ line, c ≠ '\x00' ∧ c ≠ '\n' := by
    intro line hline c hc
    obtain ⟨hmem, hnewline⟩ := mem_of_mem_splitOn hline c hc
    exact ⟨fun h => hnull (h ▸ hmem), hnewline⟩
  have hrendered : rendered =
      "\n".intercalate ((lines.rtake (min lines.length height)).map String.ofList) := by
    have htypedLines := Grid.lines_of_typed htyped (hlines ▸ hplain) (hlines ▸ hend)
    rw [← hsize]
    exact Grid.render_of_shows hshows (htypedLines.trans hlines) hlast
  refine ⟨hrendered, fun hfew => ?_⟩
  have hall : lines.rtake (min lines.length height) = lines := by
    rw [Nat.min_eq_left hfew, List.rtake, Nat.sub_self, List.drop_zero]
  rw [hrendered, hall, ← String.toList_inj, String.toList_intercalate, List.map_map]
  -- All lines are on the screen, and joining them undoes the splitting.
  have hback : lines.map (String.toList ∘ String.ofList) = lines :=
    (List.map_congr_left fun line _ => String.toList_ofList).trans (List.map_id lines)
  rw [hback]
  exact List.intercalate_splitOn '\n'

/-- Three rows for four lines, of which two are empty. A colour changes on the way, the output so
far is presented, and the first line has scrolled off in the end. -/
theorem render_printed_text_scrolled :
    let events : List Event := [.output 10, .screen (.color 7), .output 97, .output 98, .vsync,
      .output 10, .output 10, .screen (.color 8), .output 99]
    linesOf "\nab\n\nc" = [[], ['a', 'b'], [], ['c']] ∧
    (events.foldl Grid.observed (.blank 3 3)).render = "ab\n\nc" ∧
    (events.foldl Grid.observed (.blank 3 4)).render = "\nab\n\nc" := by
  intro events
  have hlines : linesOf "\nab\n\nc" = [[], ['a', 'b'], [], ['c']] := by decide
  have hend : ∀ line ∈ linesOf "\nab\n\nc", ∀ c ∈ line.getLast?, Text.isBlank c = false := by
    simp [hlines, Text.isBlank]
  have hrendered (height : Nat) (hheight : 1 ≤ height) :=
    render_printed_text 3 height hheight "\nab\n\nc" events (by decide) (by decide) (by decide)
      (by decide) hend (by decide)
  refine ⟨hlines, ?_, ?_⟩
  · exact (hrendered 3 (by decide)).1.trans (by decide)
  · exact (hrendered 4 (by decide)).2 (by decide)

end GuestBridge.Screen
