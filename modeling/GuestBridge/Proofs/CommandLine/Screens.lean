import GuestBridge.CommandLine.Run
import GuestBridge.Proofs.Screen.Cells
import GuestBridge.Proofs.Text.Runs
/-!
# Which text screens can be used

The argument for the text screen is read as two positive numbers of 64 bits (`SpellsScreen`). Each
is checked for itself. The number of cells is their product, and nothing checks that.

So the sizes that are accepted fall into two classes. Where the cells can be made, the cursor stays
inside them whatever is put out, and all positions can be computed in 64 bits. Where there are too
many, the run ends as soon as it has read its files (`outcome_run_eq_crashed_iff`).

## Main statements

* **`screen?_eq_some_iff`** — the texts that are accepted, and how they are read;
* **`accepted_screens_and_their_cells`** — what becomes of an accepted size.
-/

namespace GuestBridge

/-! ## Cells in 64 bits -/

namespace Screen.Grid

/-- Whatever is put out and drawn, a grid keeps the number of its cells. -/
theorem size_cells_observe {width height : Nat} (hwidth : 1 ≤ width) (hheight : 1 ≤ height)
    (events : List Event) :
    (events.foldl observed (blank width height)).cells.size = width * height := by
  obtain ⟨hw, hh⟩ := size_observe (blank width height) events
  rw [size_cells, hw, hh]
  show max width 1 * max height 1 = width * height
  rw [Nat.max_eq_left hwidth, Nat.max_eq_left hheight]

/-- The position of the cursor, as a machine computes it. -/
def cursorWord (g : Grid) : UInt64 :=
  UInt64.ofNat g.row * UInt64.ofNat g.width + UInt64.ofNat g.column

/-- Where the cells can be counted in 64 bits, the position of the cursor can be, too. -/
theorem toNat_cursorWord {g : Grid} (h : g.cells.size < UInt64.size) :
    g.cursorWord.toNat = g.index g.column g.row := by
  -- the position is that of a cell, so it is less than their number
  have hindex := g.index_lt g.column_lt g.row_lt
  rw [cursorWord, ← UInt64.ofNat_mul, ← UInt64.ofNat_add]
  exact UInt64.toNat_ofNat_of_lt' (hindex.trans h)

end Screen.Grid

/-! ## Sizes as they are written -/

namespace CommandLine

/-- Blanks, a number from 1 to 2⁶⁴ - 1, and blanks. -/
def SpellsDimension (cs : List Char) (n : Nat) : Prop :=
  ∃ before body after, cs = before ++ body ++ after ∧
    (∀ c ∈ before, Text.isBlank c = true) ∧ (∀ c ∈ after, Text.isBlank c = true) ∧
    Text.Unsigned body n ∧ 1 ≤ n ∧ n < UInt64.size

/-- Two dimensions, the first of which ends at the first letter x of either case. -/
def SpellsScreen (value : String) (width height : Nat) : Prop :=
  ∃ left x right, value.toList = left ++ x :: right ∧ (x = 'x' ∨ x = 'X') ∧
    (∀ c ∈ left, c ≠ 'x' ∧ c ≠ 'X') ∧ SpellsDimension left width ∧ SpellsDimension right height

variable {cs : List Char} {value : String} {n width height : Nat}

/-- A number that is read and then checked. -/
theorem checked_eq_some_iff {o : Option Nat} {p : Nat → Prop} [DecidablePred p] :
    (o >>= fun m => if p m then some m else none) = some n ↔ o = some n ∧ p n := by
  constructor
  · intro h
    obtain ⟨m, hm, hchecked⟩ := Option.bind_eq_some_iff.mp h
    split at hchecked
    · cases hchecked
      exact ⟨hm, ‹_›⟩
    · cases hchecked
  · intro ⟨hn, hp⟩
    exact Option.bind_eq_some_iff.mpr ⟨n, hn, if_pos hp⟩

/-- A number is read exactly if it is one of 64 bits. -/
theorem natural?_eq_some_iff :
    natural? cs = some n ↔ Text.Unsigned cs n ∧ n < UInt64.size := by
  rw [← Text.natural?_eq_some_iff]
  exact checked_eq_some_iff

/-- A dimension is read exactly if it is spelled, and is not zero. -/
theorem dimension?_eq_some_iff : dimension? cs = some n ↔ SpellsDimension cs n := by
  have hchecks : dimension? cs = some n ↔
      (Text.Unsigned (Text.trim cs) n ∧ n < UInt64.size) ∧ 0 < n := by
    rw [← natural?_eq_some_iff]
    exact checked_eq_some_iff
  rw [hchecks]
  constructor
  · intro ⟨⟨hbody, hrange⟩, hpos⟩
    obtain ⟨before, after, hcs, hbefore, hafter⟩ := Text.exists_trim cs
    exact ⟨before, Text.trim cs, after, hcs, hbefore, hafter, hbody, hpos, hrange⟩
  · intro ⟨before, body, after, hcs, hbefore, hafter, hbody, hpos, hrange⟩
    -- the number itself holds no blanks, so trimming stops at it
    rw [hcs, Text.trim_append hbefore hafter hbody.isBlank]
    exact ⟨⟨hbody, hrange⟩, hpos⟩

/-- The first part ends at a letter x of either case. -/
theorem ends_dimension_iff {c : Char} :
    (c != 'x' && c != 'X') = false ↔ c = 'x' ∨ c = 'X' := by
  rw [Bool.and_eq_false_iff, bne_eq_false_iff_eq, bne_eq_false_iff_eq]

theorem in_dimension_iff {c : Char} : (c != 'x' && c != 'X') = true ↔ c ≠ 'x' ∧ c ≠ 'X' := by
  rw [Bool.and_eq_true, bne_iff_ne, bne_iff_ne]

/-- **The sizes that are accepted.** -/
theorem screen?_eq_some_iff :
    screen? value = some (width, height) ↔ SpellsScreen value width height := by
  rw [screen?]
  constructor
  · intro h
    split at h
    · cases h
    · obtain ⟨w, hw, hrest⟩ := Option.bind_eq_some_iff.mp h
      obtain ⟨k, hk, hsize⟩ := Option.bind_eq_some_iff.mp hrest
      cases hsize
      -- the text is split at the first letter x, which is dropped
      obtain ⟨hsplit, hletter⟩ := Text.drop_length_takeWhile_eq_cons ‹_›
      refine ⟨_, _, _, hsplit, ends_dimension_iff.mp hletter, fun c hc => ?_,
        dimension?_eq_some_iff.mp hw, dimension?_eq_some_iff.mp hk⟩
      have hother := List.mem_takeWhile_imp hc
      exact in_dimension_iff.mp hother
  · intro ⟨left, x, right, hsplit, hletter, hleft, hwidth, hheight⟩
    -- no letter x in front of the one at which the text is split, so it is split there
    have htake : value.toList.takeWhile (fun c => c != 'x' && c != 'X') = left := by
      rw [hsplit]
      refine Text.takeWhile_append_of_run (fun c hc => in_dimension_iff.mpr (hleft c hc)) ?_
      intro c hc
      cases hc
      exact ends_dimension_iff.mpr hletter
    rw [htake, hsplit, List.drop_left]
    show (dimension? left >>= fun w => dimension? right >>= fun k => some (w, k)) = _
    rw [dimension?_eq_some_iff.mpr hwidth, dimension?_eq_some_iff.mpr hheight]
    rfl

/-- What is spelled is a positive number of 64 bits. -/
theorem SpellsDimension.range (h : SpellsDimension cs n) : 1 ≤ n ∧ n < UInt64.size := by
  obtain ⟨before, body, after, -, -, -, -, hrange⟩ := h
  exact hrange

/-- A size that is accepted has cells. -/
theorem pos_of_screen? (h : screen? value = some (width, height)) : 1 ≤ width ∧ 1 ≤ height := by
  obtain ⟨left, x, right, -, -, -, hwidth, hheight⟩ := screen?_eq_some_iff.mp h
  exact ⟨hwidth.range.1, hheight.range.1⟩

/-! ## Sizes that arguments give -/

/-- An option that was given was read from some text. -/
theorem exists_of_optional? {α : Type} {read : String → Option α} {s : Split} {key : String}
    {a : α} (h : optional? read s key = some (some a)) : ∃ text, read text = some a := by
  rw [optional?] at h
  split at h
  · cases h
  · obtain ⟨b, hb, hab⟩ := Option.map_eq_some_iff.mp h
    cases hab
    exact ⟨_, hb⟩

/-- The size of a run comes from its option. -/
theorem spelled_of_runRequest? {args : List String} {r : RunRequest}
    (h : runRequest? args = some (.run r)) {size : Nat × Nat} (hsize : r.screen = some size) :
    ∃ text, screen? text = some size := by
  rw [runRequest?] at h
  obtain ⟨s, -, h⟩ := Option.bind_eq_some_iff.mp h
  split at h
  · simp only [Option.bind_eq_bind, Option.bind_eq_some_iff] at h
    obtain ⟨guest, -, program, -, slot, -, config, -, heapPages, -, stepsPerBatch, -,
      frameIntervalMs, -, maxBatches, -, screen, hscreen, h⟩ := h
    cases h
    subst hsize
    exact exists_of_optional? hscreen
  · cases h

/-- Asking for settings is not asking for a run. -/
theorem configRequest?_ne_run {args : List String} {r : RunRequest} :
    configRequest? args ≠ some (.run r) := by
  intro h
  obtain ⟨s, -, h⟩ := Option.bind_eq_some_iff.mp h
  obtain ⟨config, -, h⟩ := Option.bind_eq_some_iff.mp h
  cases h

/-- Inspecting a guest is not asking for a run. -/
theorem inspectRequest?_ne_run {args : List String} {r : RunRequest} :
    inspectRequest? args ≠ some (.run r) := by
  intro h
  obtain ⟨s, -, h⟩ := Option.bind_eq_some_iff.mp h
  split at h
  · obtain ⟨guest, -, h⟩ := Option.bind_eq_some_iff.mp h
    obtain ⟨config, -, h⟩ := Option.bind_eq_some_iff.mp h
    cases h
  · cases h

/-- The size in a request is one that some text spells. -/
theorem spelled_of_request? {args : List String} {r : RunRequest}
    (h : request? args = some (.run r)) {size : Nat × Nat} (hsize : r.screen = some size) :
    ∃ text, screen? text = some size := by
  -- Induction on the arguments: verbosity flags before the name of the command are skipped.
  induction args with
  | nil => cases h
  | cons a rest ih =>
    rw [request?.eq_def] at h
    dsimp only at h
    split at h
    · exact ih h
    · split at h
      · exact absurd h configRequest?_ne_run
      · exact absurd h inspectRequest?_ne_run
      · exact spelled_of_runRequest? h hsize
      · cases h

/-! ## Runs that break off -/

/-- The settings are in order, and the guest's file and the program can be read. -/
structure HasFiles (world : World) (r : RunRequest) : Prop where
  settings : ∃ s, runSettings world.files r = .ok s
  guest : ∃ file, world.files r.guest = .ok file
  program : ∃ source, File.text? (world.files r.program) = .ok source

/-- A run that has begun does not break off: its grid was made before. -/
theorem Finished.outcome_ne_crashed (f : Finished) (screen : Option (Nat × Nat)) :
    f.outcome screen ≠ .crashed := by
  intro h
  rw [outcome] at h
  split at h <;> cases h

/-- A run breaks off when it has read its files and its grid has too many cells. -/
theorem outcome_runCommand_eq_crashed_iff {world : World} {r : RunRequest} :
    (runCommand world r).outcome = .crashed ↔ HasFiles world r ∧ ¬ r.gridFits := by
  constructor
  · intro h
    rw [runCommand] at h
    dsimp only at h
    -- Settings, guest and program are read in this order, and what cannot be read is reported.
    split at h
    · cases h
    · split at h
      · cases h
      · split at h
        · cases h
        · split at h
          · -- the grid is made, so the run ends as its module does
            split at h
            · cases h
            · exact absurd h (Finished.outcome_ne_crashed _ _)
          · exact ⟨⟨⟨_, ‹_›⟩, ⟨_, ‹_›⟩, ⟨_, ‹_›⟩⟩, ‹_›⟩
  · intro ⟨⟨⟨s, hs⟩, ⟨file, hfile⟩, ⟨source, hsource⟩⟩, hfits⟩
    simp only [runCommand, hs, hfile, hsource, if_neg hfits]

/-- An inspection makes no grid. -/
theorem inspectCommand_ne_crashed (world : World) (guest : String) (config : Option String)
    (json : Bool) : inspectCommand world guest config json ≠ .crashed := by
  intro h
  rw [inspectCommand] at h
  split at h
  · cases h
  · split at h
    · cases h
    · split at h
      · cases h
      · dsimp only at h
        split at h <;> cases h

theorem configCommand_ne_crashed (world : World) (config : Option String) :
    configCommand world config ≠ .crashed := by
  intro h
  rw [configCommand] at h
  split at h <;> cases h

/-- A size in a request is positive, and a run without one has a grid that fits. -/
theorem not_gridFits_iff {args : List String} {r : RunRequest}
    (h : request? args = some (.run r)) : ¬ r.gridFits ↔
      ∃ width height, r.screen = some (width, height) ∧
        Screen.Grid.maxCells < width * height := by
  rw [RunRequest.gridFits]
  cases hsize : r.screen with
  | none =>
    refine ⟨fun hfits => absurd (by decide) hfits, ?_⟩
    intro ⟨width, height, hnone, _⟩
    cases hnone
  | some size =>
    obtain ⟨text, htext⟩ := spelled_of_request? h hsize
    obtain ⟨width, height⟩ := size
    obtain ⟨hwidth, hheight⟩ := pos_of_screen? htext
    show ¬ max width 1 * max height 1 ≤ _ ↔ _
    -- the sizes are positive, so the grid is not made larger
    rw [Nat.max_eq_left hwidth, Nat.max_eq_left hheight, Nat.not_le]
    constructor
    · exact fun hmany => ⟨width, height, rfl, hmany⟩
    · intro ⟨width', height', heq, hmany⟩
      cases heq
      exact hmany

/-- A program breaks off in one case only: it was told to run with a text screen that has too many
cells, and has read its files. -/
theorem outcome_run_eq_crashed_iff {world : World} {args : List String} :
    (run world args).outcome = .crashed ↔
      ∃ r width height, request? args = some (.run r) ∧ HasFiles world r ∧
        r.screen = some (width, height) ∧ Screen.Grid.maxCells < width * height := by
  rw [run]
  cases hq : request? args with
  | none => exact ⟨fun h => (nomatch h), fun ⟨_, _, _, hr, _⟩ => (nomatch hr)⟩
  | some q =>
    cases q with
    | config config =>
      exact ⟨fun h => absurd h (configCommand_ne_crashed world config),
        fun ⟨_, _, _, hr, _⟩ => (nomatch hr)⟩
    | inspect guest config json =>
      exact ⟨fun h => absurd h (inspectCommand_ne_crashed world guest config json),
        fun ⟨_, _, _, hr, _⟩ => (nomatch hr)⟩
    | run r =>
      show (runCommand world r).outcome = .crashed ↔ _
      rw [outcome_runCommand_eq_crashed_iff, not_gridFits_iff hq]
      constructor
      · intro ⟨hfiles, width, height, hsize, hmany⟩
        exact ⟨r, width, height, rfl, hfiles, hsize, hmany⟩
      · intro ⟨r', width, height, hr, hfiles, hsize, hmany⟩
        cases hr
        exact ⟨hfiles, width, height, hsize, hmany⟩

/-- **Accepted screens, and their cells.**

* A text is accepted exactly if it is two numbers from 1 to 2⁶⁴ - 1 with the first letter x, of
  either case, between them; a plus sign before a number and blanks around it do not matter.
* Where the number of cells is less than 2⁶⁴, it can be computed in 64 bits. Then whatever is put
  out and drawn, the cursor is at one of the cells, and its position can be computed in 64 bits.
* Some accepted sizes have more cells than can be made. A program breaks off exactly if it is told to
  run with such a size and has read its files.

The third part is about builds with overflow checks, where a product beyond 2⁶⁴ ends the program as
well, and it takes memory to be sufficient: a size with at most `Screen.Grid.maxCells` cells is made.
Without the checks, such a product is taken modulo 2⁶⁴. -/
theorem accepted_screens_and_their_cells (world : World) :
    (∀ value width height, screen? value = some (width, height) ↔
      SpellsScreen value width height) ∧
    (∀ value width height, screen? value = some (width, height) → 1 ≤ width ∧ 1 ≤ height ∧
      (width * height < UInt64.size →
        (UInt64.ofNat width * UInt64.ofNat height).toNat = width * height ∧
        ∀ events : List Event,
          let g := events.foldl Screen.Grid.observed (.blank width height)
          g.cells.size = width * height ∧
          g.index g.column g.row < g.cells.size ∧
          g.cursorWord.toNat = g.index g.column g.row)) ∧
    (∀ args, (run world args).outcome = .crashed ↔
      ∃ r width height, request? args = some (.run r) ∧ HasFiles world r ∧
        r.screen = some (width, height) ∧ Screen.Grid.maxCells < width * height) := by
  refine ⟨fun _ _ _ => screen?_eq_some_iff, fun value width height h => ?_,
    fun _ => outcome_run_eq_crashed_iff⟩
  obtain ⟨hwidth, hheight⟩ := pos_of_screen? h
  refine ⟨hwidth, hheight, fun hcells => ⟨?_, fun events => ?_⟩⟩
  · -- the product of two 64-bit words is that of the numbers, taken modulo 2⁶⁴
    rw [← UInt64.ofNat_mul]
    exact UInt64.toNat_ofNat_of_lt' hcells
  · intro g
    have hsize : g.cells.size = width * height :=
      Screen.Grid.size_cells_observe hwidth hheight events
    exact ⟨hsize, g.index_lt g.column_lt g.row_lt,
      Screen.Grid.toNat_cursorWord (hsize ▸ hcells)⟩

/-- Every path holds the same text. -/
def oneText : World where
  files _ := .ok (.ofText "A")
  date := 0
  time := 0
  random _ := ⟨0⟩
  patience := 0

/-- A screen of twelve cells, with a blank and a plus sign in its argument: whatever was put out, the
cursor is at one of its cells, and a run does not break off. -/
theorem accepted_screens_and_their_cells_twelve :
    screen? "4 X+3" = some (4, 3) ∧ SpellsScreen "4 X+3" 4 3 ∧ 4 * 3 < UInt64.size ∧
    (∀ codes : List UInt32,
      let g := (codes.map Event.output).foldl Screen.Grid.observed (.blank 4 3)
      g.cells.size = 12 ∧ g.index g.column g.row < g.cells.size) ∧
    (run oneText ["run", "guest", "program", "--screen=4 X+3"]).outcome ≠ .crashed := by
  have hsize : screen? "4 X+3" = some (4, 3) := by decide +kernel
  obtain ⟨hspelled, husable, hcrashed⟩ := accepted_screens_and_their_cells oneText
  obtain ⟨-, -, hcells⟩ := husable "4 X+3" 4 3 hsize
  refine ⟨hsize, (hspelled _ _ _).mp hsize, by decide, fun codes => ?_, ?_⟩
  · obtain ⟨hall, hcursor, -⟩ := (hcells (by decide)).2 (codes.map Event.output)
    exact ⟨hall, hcursor⟩
  · intro h
    obtain ⟨r, width, height, hr, -, hscreen, hmany⟩ := (hcrashed _).mp h
    have hrequest : request? ["run", "guest", "program", "--screen=4 X+3"] =
        some (.run ⟨"guest", "program", 0, none, none, none, none, none, some (4, 3)⟩) := by
      decide +kernel
    rw [hrequest] at hr
    cases hr
    cases hscreen
    exact absurd hmany (by decide)

/-- Two dimensions in range, and so many cells that their number is zero in 64 bits. -/
theorem too_many_cells_accepted :
    screen? "4294967296x4294967296" = some (4294967296, 4294967296) ∧
    ¬ 4294967296 * 4294967296 < UInt64.size ∧
    UInt64.ofNat 4294967296 * UInt64.ofNat 4294967296 = 0 ∧
    (run oneText ["run", "guest", "program", "--screen=4294967296x4294967296"]).outcome =
      .crashed := by
  refine ⟨by decide +kernel, by decide, by decide, ?_⟩
  decide +kernel

end CommandLine

end GuestBridge
