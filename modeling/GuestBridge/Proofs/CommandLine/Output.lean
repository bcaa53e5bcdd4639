import Mathlib.Data.List.DropRight
import GuestBridge.CommandLine.Run
import GuestBridge.Proofs.Schedule.Stopping
/-!
# What a run writes

Output is buffered and written when the session presents it. So at every moment the text written,
followed by the text buffered, is all that was put out (`Stream.ofTrace_eq`). At the end of a
successful run the buffer is written, too; a run that fails leaves it.

A guest that rejects its program has its output presented last, so nothing is left then. A batch
begins with a presentation, so a run that fails in a batch leaves only what that batch put out. But
that much is lost (`failed_step_loses_output`).

## Main statement

* **`run_writes_what_was_presented`** — a successful run writes all output, and a failing one what
  was put out up to the last presentation.
-/

namespace GuestBridge

/-! ## Events up to the last presentation -/

/-- The events up to the last presentation. -/
def presented (events : List Event) : List Event := events.rdropWhile (· ≠ .vsync)

/-- The events behind the last presentation. -/
def unpresented (events : List Event) : List Event := events.rtakeWhile (· ≠ .vsync)

/-- Every event is presented or not. -/
theorem presented_append_unpresented (events : List Event) :
    presented events ++ unpresented events = events :=
  List.rdropWhile_append_rtakeWhile ..

theorem presented_concat_vsync (events : List Event) :
    presented (events ++ [.vsync]) = events ++ [.vsync] :=
  List.rdropWhile_concat_neg _ _ _ (by simp)

theorem unpresented_concat_vsync (events : List Event) : unpresented (events ++ [.vsync]) = [] :=
  List.rtakeWhile_concat_neg _ _ _ (by simp)

/-- An event that is no presentation presents nothing. -/
theorem presented_concat {e : Event} (he : e ≠ .vsync) (events : List Event) :
    presented (events ++ [e]) = presented events :=
  List.rdropWhile_concat_pos _ _ _ (by simpa using he)

theorem unpresented_concat {e : Event} (he : e ≠ .vsync) (events : List Event) :
    unpresented (events ++ [e]) = unpresented events ++ [e] :=
  List.rtakeWhile_concat_pos _ _ _ (by simpa using he)

/-- What was shown before a presentation is presented, whatever follows. -/
theorem prefix_presented {past events : List Event} (h : past ++ [.vsync] <+: events) :
    past ++ [.vsync] <+: presented events := by
  obtain ⟨rest, rfl⟩ := h
  -- Induction on what follows, the last event split off: a presentation presents everything, and
  -- any other event leaves what is presented as it is.
  induction rest using List.reverseRecOn with
  | nil =>
    rw [List.append_nil, presented_concat_vsync]
  | append_singleton rest e ih =>
    rw [← List.append_assoc]
    by_cases he : e = .vsync
    · rw [he, presented_concat_vsync, List.append_assoc]
      exact List.prefix_append ..
    · rwa [presented_concat he]

/-- The text that events put out. -/
def textOf (events : List Event) : String :=
  String.ofList ((events.filterMap Event.code?).map Text.charOfCode)

theorem textOf_append (a b : List Event) : textOf (a ++ b) = textOf a ++ textOf b := by
  simp only [textOf, List.filterMap_append, List.map_append, String.ofList_append]

/-- The text that was presented, followed by the rest, is all of it. -/
theorem textOf_presented_append (events : List Event) :
    textOf (presented events) ++ textOf (unpresented events) = textOf events := by
  rw [← textOf_append, presented_append_unpresented]

/-- Text is lost with the events behind the last presentation only if they put out some. -/
theorem textOf_presented_eq_iff {events : List Event} :
    textOf (presented events) = textOf events ↔ textOf (unpresented events) = "" := by
  -- all text is the presented one only if nothing is appended to it
  rw [← textOf_presented_append events, ← String.toList_inj, String.toList_append,
    List.self_eq_append_right, String.toList_eq_nil_iff]

theorem textOf_concat_output (events : List Event) (code : UInt32) :
    textOf (events ++ [.output code]) = (textOf events).push (Text.charOfCode code) := by
  rw [textOf_append, ← String.append_singleton]
  rfl

theorem textOf_concat {e : Event} (he : e.code? = none) (events : List Event) :
    textOf (events ++ [e]) = textOf events := by
  have hnone : textOf [e] = "" := by
    simp [textOf, he]
  rw [textOf_append, hnone, String.append_empty]

namespace CommandLine

/-! ## The stream -/

/-- What was presented is written, and what came later is buffered. -/
theorem Stream.ofTrace_eq (trace : Array Event) :
    Stream.ofTrace trace =
      ⟨textOf (presented trace.toList), textOf (unpresented trace.toList)⟩ := by
  have hlist (events : List Event) : events.foldl Stream.observe .empty =
      ⟨textOf (presented events), textOf (unpresented events)⟩ := by
    -- Induction on the events, the last one split off: a presentation empties the buffer.
    induction events using List.reverseRecOn with
    | nil => rfl
    | append_singleton events e ih =>
      rw [List.foldl_append, ih]
      by_cases he : e = .vsync
      · rw [he, presented_concat_vsync, unpresented_concat_vsync, textOf_concat rfl,
          ← textOf_presented_append events]
        rfl
      · rw [presented_concat he, unpresented_concat he]
        cases e with
        | vsync => exact absurd rfl he
        | output code =>
          rw [textOf_concat_output]
          rfl
        | stateChanged _ | textRequested _ | failure _ | screen _ | note _ =>
          rw [textOf_concat rfl]
          rfl
  rw [Stream.ofTrace, ← Array.foldl_toList, hlist]

/-- Without a text screen, success writes the buffer, too. -/
theorem runOutput_eq (trace : Array Event) (succeeded : Bool) :
    runOutput none trace succeeded =
      if succeeded then textOf trace.toList else textOf (presented trace.toList) := by
  unfold runOutput
  dsimp only
  rw [Stream.ofTrace_eq, Stream.flush, textOf_presented_append]

/-! ## The command -/

/-- A run without a text screen gets as far as loading its guest module. -/
structure Loads (world : World) (r : RunRequest) (settings : Settings) (m : Module)
    (source : String) : Prop where
  settings : runSettings world.files r = .ok settings
  guest : ∃ file, world.files r.guest = .ok file ∧ file.module = some m
  program : File.text? (world.files r.program) = .ok source
  screen : r.screen = none

/-- The run of a guest module with all that was loaded for it. -/
def runLoaded (world : World) (r : RunRequest) (settings : Settings) (m : Module)
    (source : String) : EStateM.Result CommandError (Session m.State) Unit :=
  runProgram m settings r source world.patience
    (m.session (environment world r.program) settings)

/-- An error that is reported for a module is that of its run. -/
theorem runLoaded_of_runModule {world : World} {r : RunRequest} {settings : Settings} {m : Module}
    {source : String} {e : CommandError}
    (h : (runModule world m settings r source).error = some e) :
    ∃ t, runLoaded world r settings m source = .error e t ∧
      t.trace = (runModule world m settings r source).trace := by
  rw [runLoaded]
  rw [runModule] at h ⊢
  cases hrun : runProgram m settings r source world.patience
      (m.session (environment world r.program) settings) with
  | ok _ t =>
    rw [hrun] at h
    cases h
  | error e' t =>
    rw [hrun] at h
    cases h
    exact ⟨t, rfl, rfl⟩

/-- A command's outcome by how the run of its module ends. -/
def outcomeOf {σ : Type} : EStateM.Result CommandError (Session σ) Unit → Outcome
  | .ok () t => .success (textOf t.trace.toList)
  | .error e t => .failure (textOf (presented t.trace.toList)) e

/-- Once everything is loaded, the outcome of the command is that of the run. -/
theorem outcome_runCommand {world : World} {r : RunRequest} {settings : Settings} {m : Module}
    {source : String} (h : Loads world r settings m source) :
    (runCommand world r).outcome = outcomeOf (runLoaded world r settings m source) := by
  obtain ⟨hsettings, ⟨file, hfile, hmodule⟩, hprogram, hscreen⟩ := h
  have hrun : (runCommand world r).outcome =
      (runModule world m settings r source).outcome none := by
    -- a run without a text screen has a grid of one cell
    have hfits : r.gridFits := by
      rw [RunRequest.gridFits, hscreen]
      decide
    simp only [runCommand, hsettings, hfile, hprogram, hmodule, hscreen, if_pos hfits]
  rw [hrun, runModule, runLoaded]
  cases runProgram m settings r source world.patience
      (m.session (environment world r.program) settings) with
  | ok _ t =>
    simp only [Finished.outcome, runOutput_eq, outcomeOf, if_true]
  | error e t =>
    simp only [Finished.outcome, runOutput_eq, outcomeOf, Bool.false_eq_true, if_false]

end CommandLine

/-! ## Rejected programs -/

/-- A guest that rejects its program has its output presented last. -/
theorem Guest.vsync_of_rejected {σ : Type} {g : Guest σ} {slot : Int32} {file source : String}
    {s t : Session σ} (h : g.setSource slot file source s = .ok false t) :
    ∃ events, t.trace.toList = events ++ [.vsync] := by
  unfold setSource at h
  obtain ⟨_, _, -, h⟩ := Outcome.bind_eq_ok_iff.mp h
  obtain ⟨_, _, -, h⟩ := Outcome.bind_eq_ok_iff.mp h
  obtain ⟨accepted, u, -, h⟩ := Outcome.bind_eq_ok_iff.mp h
  by_cases haccepted : accepted = 0
  · rw [if_pos haccepted] at h
    cases h
    exact ⟨(u.setRunState .stopped).trace.toList, by simp [Session.emit]⟩
  · rw [if_neg haccepted] at h
    cases h

namespace CommandLine

/-- The part of a run before its first batch. -/
def prepareProgram (m : Module) (settings : Settings) (r : RunRequest) (source : String) :
    Action CommandError m.State (Scheduler m.State) := do
  let guest ← (m.boot settings []).mapError .runtime
  let _ ← (guest.registerAvailable Screen.statements).mapError fun e => .runtime (.bridge e)
  let accepted ← (guest.setSource r.slot (fileName r.program) source).mapError .runtime
  if accepted then Scheduler.new guest else throw (.rejected r.program)

variable {m : Module} {settings : Settings} {r : RunRequest} {source : String}
  {s t : Session m.State}

theorem not_rejected {α ε : Type} {a : Action ε m.State α} {g : ε → RuntimeError} {path : String} :
    ¬ a.mapError (fun e => CommandError.runtime (g e)) s = .error (.rejected path) t := by
  intro h
  obtain ⟨_, -, he⟩ := Outcome.renamed_eq_error_iff.mp h
  cases he

/-- A run is its preparation, followed by batches. -/
theorem runProgram_eq (patience : Nat) :
    runProgram m settings r source patience = (do
      let c ← prepareProgram m settings r source
      let _ ← (c.runUntil (r.maxBatches.getD patience)).mapError .runtime) := by
  unfold runProgram prepareProgram
  -- the preparation is nested in its own block, so the binds are associated anew
  simp only [bind_assoc]
  refine bind_congr fun guest => bind_congr fun _ => bind_congr fun accepted => ?_
  cases accepted <;> rfl

/-- Where the program is rejected, its guest did so, and nothing was put out behind the last
presentation. -/
theorem rejected_of_prepareProgram {path : String}
    (h : prepareProgram m settings r source s = .error (.rejected path) t) :
    path = r.program ∧ ∃ events, t.trace.toList = events ++ [.vsync] := by
  unfold prepareProgram at h
  -- errors of the runtime are not of this kind, so only the guest's answer is left
  rcases Outcome.bind_eq_error_iff.mp h with h | ⟨guest, s₁, -, h⟩
  · exact absurd h not_rejected
  rcases Outcome.bind_eq_error_iff.mp h with h | ⟨_, s₂, -, h⟩
  · exact absurd h not_rejected
  rcases Outcome.bind_eq_error_iff.mp h with h | ⟨accepted, s₃, hsource, h⟩
  · exact absurd h not_rejected
  cases accepted with
  | false =>
    cases h
    exact ⟨rfl, Guest.vsync_of_rejected (Outcome.renamed_eq_ok_iff.mp hsource)⟩
  | true => cases h

end CommandLine

/-! ## Failing batches -/

namespace Scheduler

variable {σ : Type} {c : Scheduler σ} {s t : Session σ} {e : RuntimeError}

/-- What was shown stays shown. -/
theorem durable_shown (past : List Event) :
    Session.Durable fun s : Session σ => past <+: s.trace.toList where
  proceeds := by
    rintro s t hs ⟨-, events, htrace, -⟩
    rw [htrace]
    exact hs.trans (List.prefix_append ..)
  setRunState := by
    intro s state hs
    unfold Session.setRunState
    split
    · exact hs
    · rw [show ({ s.emit (.stateChanged state) with runState := state } : Session σ).trace.toList =
        s.trace.toList ++ [.stateChanged state] from Array.toList_push]
      exact hs.trans (List.prefix_append ..)

/-- What was shown when a failing batch was entered has been presented. -/
theorem presented_of_runBatch_error (h : c.runBatch s = .error e t) :
    s.trace.toList ++ [.vsync] <+: presented t.trace.toList := by
  obtain ⟨-, hsteps⟩ := runSteps_of_runBatch h fun _ => by simp
  have hshown : (s.emit .vsync).trace.toList = s.trace.toList ++ [.vsync] := Array.toList_push
  -- the steps of the batch add to what was shown, and take nothing away
  have hkept := runSteps_keeps (c := c) (durable_shown (s.trace.toList ++ [.vsync]))
    c.stepsPerBatch 0 (s.emit .vsync) (hshown ▸ List.prefix_refl _)
  rw [hsteps] at hkept
  exact prefix_presented hkept

/-- A run that fails does so in a batch, behind batches that do not end it. -/
theorem failing_batch_of_runBatches {limit batches steps : Nat}
    (h : c.runBatches limit batches steps s = .error e t) :
    ∃ k batches' steps' u, k < limit ∧
      c.runBatches k batches steps s = .ok ⟨batches', steps', .batchLimit⟩ u ∧
      c.runBatch u = .error e t := by
  -- Induction on the limit: the batch that fails is the first one, or one behind a batch that
  -- yields.
  induction limit generalizing s batches steps with
  | zero => cases h
  | succ limit ih =>
    simp only [runBatches] at h
    cases hfirst : c.runBatch s with
    | error e' u =>
      rw [hfirst] at h
      cases h
      exact ⟨0, batches, steps, s, Nat.succ_pos limit, rfl, hfirst⟩
    | ok outcome u =>
      rw [hfirst] at h
      cases outcome with
      | yielded n =>
        obtain ⟨k, batches', steps', v, hk, hrun, hfails⟩ := ih h
        exact ⟨k + 1, batches', steps', v, Nat.succ_lt_succ hk,
          runBatches_succ_eq_batchLimit_iff.mpr ⟨n, u, hfirst, hrun⟩, hfails⟩
      | halted n => cases h
      | stopped => cases h

end Scheduler

namespace CommandLine

/-- A run fails while it is prepared or in a batch behind batches that do not end it. -/
theorem runProgram_error_cases {m : Module} {settings : Settings} {r : RunRequest}
    {source : String} {patience : Nat} {s t : Session m.State} {e : CommandError}
    (h : runProgram m settings r source patience s = .error e t) :
    prepareProgram m settings r source s = .error e t ∨
    ∃ (c : Scheduler m.State) (u v : Session m.State) (k batches steps : Nat) (e' : RuntimeError),
      prepareProgram m settings r source s = .ok c u ∧ k < r.maxBatches.getD patience ∧
      c.runUntil k u = .ok ⟨batches, steps, .batchLimit⟩ v ∧ c.runBatch v = .error e' t ∧
      e = .runtime e' := by
  rw [runProgram_eq] at h
  rcases Outcome.bind_eq_error_iff.mp h with h | ⟨c, u, hprepared, h⟩
  · exact .inl h
  rcases Outcome.bind_eq_error_iff.mp h with h | ⟨_, _, -, h⟩
  · -- behind the preparation, only a batch can fail
    obtain ⟨e', hbatches, rfl⟩ := Outcome.renamed_eq_error_iff.mp h
    obtain ⟨k, batches, steps, v, hk, hrun, hfails⟩ :=
      Scheduler.failing_batch_of_runBatches hbatches
    exact .inr ⟨c, u, v, k, batches, steps, e', hprepared, hk, hrun, hfails, rfl⟩
  · cases h

/-- **A run writes what was presented.** For every guest module, program and settings of a run
without a text screen, and however it ends:

* at every moment, the text written, followed by the text buffered, is all output so far, in order,
  each code point once, and U+FFFD in place of numbers that are no characters;
* a successful run writes all output;
* a failing run writes exactly what was put out up to the last presentation, so that it loses output
  if and only if there was any later;
* when the guest rejects the program, there was none;
* a run that has got past its preparation fails in a batch, and then everything that was put out
  before this batch is written. -/
theorem run_writes_what_was_presented (world : World) (r : RunRequest) (settings : Settings)
    (m : Module) (source : String) (loads : Loads world r settings m source) :
    let start := m.session (environment world r.program) settings
    (∀ shown : Array Event, (Stream.ofTrace shown).written ++ (Stream.ofTrace shown).buffered =
      String.ofList ((shown.toList.filterMap Event.code?).map Text.charOfCode)) ∧
    (∀ t, runLoaded world r settings m source = .ok () t →
      (runCommand world r).outcome = .success (textOf t.trace.toList)) ∧
    (∀ e t, runLoaded world r settings m source = .error e t →
      (runCommand world r).outcome = .failure (textOf (presented t.trace.toList)) e ∧
      ((runCommand world r).outcome = .failure (textOf t.trace.toList) e ↔
        textOf (unpresented t.trace.toList) = "")) ∧
    (∀ path t, runLoaded world r settings m source = .error (.rejected path) t →
      (runCommand world r).outcome = .failure (textOf t.trace.toList) (.rejected r.program)) ∧
    (∀ e t, runLoaded world r settings m source = .error e t →
      prepareProgram m settings r source start = .error e t ∨
      ∃ c s u batches batches' steps e', prepareProgram m settings r source start = .ok c s ∧
        c.runUntil batches s = .ok ⟨batches', steps, .batchLimit⟩ u ∧
        c.runBatch u = .error e' t ∧ e = .runtime e' ∧
        u.trace.toList <+: presented t.trace.toList) := by
  intro start
  have houtcome := outcome_runCommand loads
  refine ⟨fun shown => ?_, fun t h => ?_, fun e t h => ?_, fun path t h => ?_, fun e t h => ?_⟩
  · rw [Stream.ofTrace_eq, textOf_presented_append]
    rfl
  · rw [houtcome, h]
    rfl
  · have hwritten : (runCommand world r).outcome =
        .failure (textOf (presented t.trace.toList)) e := by
      rw [houtcome, h]
      rfl
    refine ⟨hwritten, ?_⟩
    rw [hwritten, Outcome.failure.injEq, and_iff_left rfl, textOf_presented_eq_iff]
  · obtain hprepare | ⟨_, _, _, _, _, _, _, -, -, -, -, he⟩ := runProgram_error_cases h
    · -- the rejection was presented last, so all text is written
      obtain ⟨rfl, events, htrace⟩ := rejected_of_prepareProgram hprepare
      rw [houtcome, h, outcomeOf, htrace, presented_concat_vsync]
    · -- a batch fails with an error of the runtime only
      cases he
  · obtain hprepare | ⟨c, s, u, k, batches, steps, e', hprepared, -, hrun, hfails, rfl⟩ :=
      runProgram_error_cases h
    · exact .inl hprepare
    · exact .inr ⟨c, s, u, k, batches, steps, e', hprepared, hrun, hfails, rfl,
        (List.prefix_append ..).trans (Scheduler.presented_of_runBatch_error hfails)⟩

/-! ## A step that prints and traps -/

/-- Its step puts out an a and then traps. -/
def stumbling : Module where
  State := Unit
  start := ()
  imports := []
  exports :=
    let names := ExportNames.default
    [(names.malloc, .function Role.malloc.type fun _ => pure [.i32 1024]),
     (names.initializer, .function Role.initializer.type fun _ => pure []),
     (names.setSource, .function Role.setSource.type fun _ => pure [.i32 1]),
     (names.executeOneStep, .function Role.executeOneStep.type fun _ => do
       Code.host (.putChar 97)
       Code.trap),
     (names.registerFunction, .function Role.registerFunction.type fun _ => pure [.i32 0])]

/-- Every path but that of the guest holds the same text. -/
def stumblingWorld : World where
  files path := .ok (if path = "guest" then ⟨.pure none, some stumbling⟩ else .ofText "A")
  date := 0
  time := 0
  random _ := ⟨0⟩
  patience := 0

/-- One batch, without a text screen. -/
def stumblingRun : RunRequest where
  guest := "guest"
  program := "program"
  slot := 0
  config := none
  heapPages := none
  stepsPerBatch := none
  frameIntervalMs := none
  maxBatches := some 1
  screen := none

theorem loads_stumbling : Loads stumblingWorld stumblingRun .default stumbling "A" :=
  ⟨rfl, ⟨_, rfl, rfl⟩, rfl, rfl⟩

/-- The banner is presented, and the a that its step puts out is not. -/
theorem finished_stumbling :
    let finished := runModule stumblingWorld stumbling .default stumblingRun "A"
    finished.error = some (.runtime (.ofTrap .unreachable)) ∧
    textOf (presented finished.trace.toList) = "Neko Basic Version 0.00.00\nOK\n" ∧
    textOf (unpresented finished.trace.toList) = "a" := by
  decide +kernel

/-- The a was put out, but it is not written. -/
theorem failed_step_loses_output :
    let finished := runModule stumblingWorld stumbling .default stumblingRun "A"
    Loads stumblingWorld stumblingRun .default stumbling "A" ∧
    finished.error = some (.runtime (.ofTrap .unreachable)) ∧
    textOf finished.trace.toList = "Neko Basic Version 0.00.00\nOK\na" ∧
    (runCommand stumblingWorld stumblingRun).outcome =
      .failure "Neko Basic Version 0.00.00\nOK\n" (.runtime (.ofTrap .unreachable)) := by
  intro finished
  obtain ⟨herror, hwritten, hlost⟩ := finished_stumbling
  obtain ⟨t, hrun, htrace⟩ := runLoaded_of_runModule herror
  refine ⟨loads_stumbling, herror, ?_, ?_⟩
  · rw [← textOf_presented_append, hwritten, hlost]
    decide
  · rw [outcome_runCommand loads_stumbling, hrun, outcomeOf, htrace, hwritten]

/-- The run fails in its batch, and loses exactly the output of this batch. -/
theorem run_writes_what_was_presented_stumbling :
    Loads stumblingWorld stumblingRun .default stumbling "A" ∧
    ∃ t, runLoaded stumblingWorld stumblingRun .default stumbling "A" =
        .error (.runtime (.ofTrap .unreachable)) t ∧
      textOf (unpresented t.trace.toList) = "a" ∧
      (runCommand stumblingWorld stumblingRun).outcome =
        .failure (textOf (presented t.trace.toList)) (.runtime (.ofTrap .unreachable)) ∧
      (runCommand stumblingWorld stumblingRun).outcome ≠
        .failure (textOf t.trace.toList) (.runtime (.ofTrap .unreachable)) := by
  obtain ⟨herror, -, hlost⟩ := finished_stumbling
  obtain ⟨t, hrun, htrace⟩ := runLoaded_of_runModule herror
  obtain ⟨-, -, hfails, -⟩ := run_writes_what_was_presented _ _ _ _ _ loads_stumbling
  obtain ⟨hwritten, hall⟩ := hfails _ t hrun
  rw [← htrace] at hlost
  refine ⟨loads_stumbling, t, hrun, hlost, hwritten, fun heverything => ?_⟩
  rw [hall.mp heverything] at hlost
  exact absurd hlost (by decide)

end CommandLine

end GuestBridge
