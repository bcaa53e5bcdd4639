import GuestBridge.Guest.Basic
/-!
# Running programs in batches

A scheduler runs its guest's program in batches of single steps. Before each batch the output is
presented and a pending stop request observed; inside a batch nothing stops it but the program
itself. A run is batches until the program halts or is stopped, or a limit is reached.
-/

namespace GuestBridge

inductive BatchOutcome
  /-- Every step ran and the program wants more. -/
  | yielded (steps : Nat)
  /-- The program halted in its last step. -/
  | halted (steps : Nat)
  /-- Nothing ran. -/
  | stopped
  deriving DecidableEq, Repr

inductive RunOutcome
  | halted | stopped | batchLimit
  deriving DecidableEq, Repr

/-- How long a run was and how it ended. -/
structure RunSummary where
  /-- Batches that executed a step. -/
  batches : Nat
  steps : Nat
  outcome : RunOutcome
  deriving DecidableEq, Repr

structure Scheduler (σ : Type) where
  guest : Guest σ
  stepsPerBatch : Nat
  frameIntervalMs : Nat
  stop : StopHandle

namespace Scheduler

variable {ε σ : Type}

/-- Shown when a program has halted. -/
def prompt : String := "OK\n"

/-- A scheduler with the pacing of the guest's settings and a stop handle of its own. -/
def new (guest : Guest σ) : Action ε σ (Scheduler σ) := do
  let stop ← modifyGet (·.freshHandle)
  let settings := guest.settings
  return ⟨guest, max settings.stepsPerBatch.toNat 1, settings.frameIntervalMs.toNat, stop⟩

/-- A batch has at least one step. -/
def withStepsPerBatch (c : Scheduler σ) (steps : Nat) : Scheduler σ :=
  { c with stepsPerBatch := max steps 1 }

def withFrameInterval (c : Scheduler σ) (milliseconds : Nat) : Scheduler σ :=
  { c with frameIntervalMs := milliseconds }

def isRunning (s : Session σ) : Bool := s.runState = .running

/-- Makes the session running and forgets a stop request from before. A running session stays as it
is. -/
def start (c : Scheduler σ) : Action ε σ Unit :=
  modify fun s => if isRunning s then s else (s.clearStop c.stop).setRunState .running

def halt : Action ε σ Unit := modify (·.setRunState .stopped)

/-- Runs up to `remaining` steps, `done` steps of the batch being done. A program that halts is
followed by the prompt; one that halts or fails leaves the session stopped. -/
def runSteps (c : Scheduler σ) : (remaining done : Nat) → Action RuntimeError σ BatchOutcome
  | 0, done => pure (.yielded done)
  | remaining + 1, done => fun s =>
    match c.guest.executeOneStep s with
    | .ok true s' => runSteps c remaining (done + 1) s'
    | .ok false s' =>
      .ok (.halted (done + 1)) (((s'.setRunState .stopped).print prompt).emit .vsync)
    | .error e s' => .error e (s'.setRunState .stopped)

/-- Presents the output, observes a stop request, and runs a batch if the session is running. -/
def runBatch (c : Scheduler σ) : Action RuntimeError σ BatchOutcome := fun s =>
  let shown := s.emit .vsync
  if shown.stopRequested c.stop then
    .ok .stopped ((shown.clearStop c.stop).setRunState .stopped)
  else if isRunning shown then runSteps c c.stepsPerBatch 0 shown
  else .ok .stopped shown

/-- Runs up to `limit` batches, `batches` batches with `steps` steps being done. -/
def runBatches (c : Scheduler σ) :
    (limit batches steps : Nat) → Action RuntimeError σ RunSummary
  | 0, batches, steps => pure ⟨batches, steps, .batchLimit⟩
  | limit + 1, batches, steps => fun s =>
    match c.runBatch s with
    | .ok (.yielded n) s' => runBatches c limit (batches + 1) (steps + n) s'
    | .ok (.halted n) s' => .ok ⟨batches + 1, steps + n, .halted⟩ s'
    | .ok .stopped s' => .ok ⟨batches, steps, .stopped⟩ s'
    | .error e s' => .error e s'

/-- Starts the session and runs until the program halts or is stopped, or `limit` batches are done;
the session is left running then. -/
def runUntil (c : Scheduler σ) (limit : Nat) : Action RuntimeError σ RunSummary := do
  c.start
  c.runBatches limit 0 0

/-- Runs without a limit: the summary of the first run that ends within `fuel` batches, if one
does. -/
def run (c : Scheduler σ) (fuel : Nat) : Action RuntimeError σ (Option RunSummary) := do
  let summary ← c.runUntil fuel
  return if summary.outcome = .batchLimit then none else some summary

end Scheduler

end GuestBridge
