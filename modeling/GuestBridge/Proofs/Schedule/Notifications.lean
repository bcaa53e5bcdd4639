import GuestBridge.Proofs.Registry.Registration
import GuestBridge.Proofs.Schedule.Stopping
/-!
# The run state and what is reported of it

A session reports its run state whenever it changes. `Session.setRunState` is the only change of the
run state and the only source of reports, and it does both or neither. So a session whose run state
changed `n` times has reported a fixed list of `n` run states, which alternate
(`Session.Reported`). The invariant is durable, hence kept by every operation of the host.

A batch that halts adds the prompt behind what its steps put out, and no other batch adds anything.
`Scheduler.entered` lists the batches of a run, as the sessions in which they are entered.

## Main statement

* **`run_state_is_reported`** — over every history of a session, the reports alternate and end with
  the run state, steps begin in running sessions only, and each halted batch is followed by one
  prompt.
-/

namespace GuestBridge

variable {σ : Type}

/-! ## Reports -/

/-- The run state after a number of changes. -/
def RunState.afterChanges (n : Nat) : RunState := if n % 2 = 0 then .stopped else .running

/-- There are two run states, so a change leads to the other one. -/
theorem RunState.eq_afterChanges_succ {state : RunState} {n : Nat}
    (h : RunState.afterChanges n ≠ state) : state = RunState.afterChanges (n + 1) := by
  rcases Nat.mod_two_eq_zero_or_one n with heven | hodd
  · have hsucc : (n + 1) % 2 = 1 := by omega
    simp only [afterChanges, heven, hsucc] at h ⊢
    cases state with
    | stopped => exact absurd rfl h
    | running => rfl
  · have hsucc : (n + 1) % 2 = 0 := by omega
    simp only [afterChanges, hodd, hsucc] at h ⊢
    cases state with
    | stopped => rfl
    | running => exact absurd rfl h

namespace Session

/-- What a session reports whose run state has changed `n` times. -/
def reports (n : Nat) : List RunState :=
  (List.range n).map fun i => RunState.afterChanges (i + 1)

/-- Nothing was reported but the changes of the run state, each of them once. -/
def Reported (s : Session σ) : Prop :=
  ∃ n, s.notifications = reports n ∧ s.runState = RunState.afterChanges n

theorem notifications_emit (s : Session σ) (state : RunState) :
    (s.emit (.stateChanged state)).notifications = s.notifications ++ [state] := by
  simp [notifications, emit, Event.stateChange?]

/-- One change more is one report more. -/
theorem reports_succ (n : Nat) : reports (n + 1) = reports n ++ [RunState.afterChanges (n + 1)] := by
  simp [reports, List.range_succ]

/-- A change of the run state and its report come together. -/
theorem Reported.setRunState {s : Session σ} (h : s.Reported) (state : RunState) :
    (s.setRunState state).Reported := by
  obtain ⟨n, hreports, hstate⟩ := h
  unfold Session.setRunState
  -- a run state that is set again is no change, and is not reported
  by_cases hsame : s.runState = state
  · rw [if_pos hsame]
    exact ⟨n, hreports, hstate⟩
  · rw [if_neg hsame]
    rw [hstate] at hsame
    have hnext := RunState.eq_afterChanges_succ hsame
    refine ⟨n + 1, ?_, hnext⟩
    show (s.emit (.stateChanged state)).notifications = _
    rw [notifications_emit, hreports, reports_succ, hnext]

/-- Guest code and callbacks do not change or report the run state, so the invariant is durable. -/
theorem durable_reported : Session.Durable fun s : Session σ => s.Reported where
  proceeds := by
    rintro s t ⟨n, hreports, hstate⟩ hst
    exact ⟨n, hst.notifications.trans hreports, hst.runState.trans hstate⟩
  setRunState state hs := hs.setRunState state

/-- The reports begin with `running` and alternate, and the last one is the run state. -/
theorem Reported.alternates {s : Session σ} (h : s.Reported) :
    (∀ i (hi : i < s.notifications.length),
      s.notifications[i] = if i % 2 = 0 then .running else .stopped) ∧
    s.runState = s.notifications.getLast?.getD .stopped := by
  obtain ⟨n, hreports, hstate⟩ := h
  rw [hreports, hstate]
  refine ⟨fun i hi => ?_, ?_⟩
  · have hget : (reports n)[i] = RunState.afterChanges (i + 1) := by simp [reports]
    rw [hget, RunState.afterChanges]
    rcases Nat.mod_two_eq_zero_or_one i with heven | hodd
    · have hsucc : (i + 1) % 2 = 1 := by omega
      simp [heven, hsucc]
    · have hsucc : (i + 1) % 2 = 0 := by omega
      simp [hodd, hsucc]
  · -- the last report is that of the last change
    cases n with
    | zero => rfl
    | succ n => rw [reports_succ, List.getLast?_concat, Option.getD_some]

/-- Nothing has been reported, and the session is stopped. -/
def Unreported (s : Session σ) : Prop := s.notifications = [] ∧ s.runState = .stopped

/-- A session without reports has changed its run state zero times. -/
theorem Unreported.reported {s : Session σ} (h : s.Unreported) : s.Reported := ⟨0, h⟩

end Session

/-- Booting links the module and starts its guest. -/
theorem Module.boot_within (m : Module) {R : Session m.State → Session m.State → Prop}
    (hR : Session.Stable R) (settings : Settings) (extra : List (String × String × FuncType)) :
    Action.Within R (m.boot settings extra) :=
  .bind hR (.ofExcept hR _) fun g => .bind hR (g.start_within hR) fun _ => .pure hR g

/-- A boot reports nothing, whether it succeeds or not. -/
theorem Module.unreported_of_boot (m : Module) (environment : Environment) (settings : Settings)
    (extra : List (String × String × FuncType)) :
    (Outcome.state (m.boot settings extra (m.session environment settings))).Unreported := by
  have h := m.boot_within .proceeds settings extra (m.session environment settings)
  exact ⟨h.notifications, h.runState⟩

/-! ## Steps and their output -/

/-- The code points that a step puts out that begins in this session. -/
def Guest.stepOutput (g : Guest σ) (s : Session σ) : List UInt32 :=
  (Outcome.state (g.executeOneStep s.bare)).output

/-- What was put out before comes first. -/
theorem Session.output_after (s : Session σ) (past : Session σ) :
    (s.after past.trace).output = past.output ++ s.output := by
  simp [Session.output, Session.shown, Session.after]

/-- What a step puts out does not depend on what was put out before. -/
theorem Guest.output_executeOneStep (g : Guest σ) (s : Session σ) :
    (Outcome.state (g.executeOneStep s)).output = s.output ++ g.stepOutput s := by
  unfold stepOutput
  rw [g.executeOneStep_oblivious.eq_after_bare s]
  cases g.executeOneStep s.bare with
  | ok more t => exact t.output_after s
  | error e t => exact t.output_after s

/-- The steps of a loop begin in the run state in which the loop does. -/
theorem Guest.running_of_begun {g : Guest σ} {n : Nat} {s u : Session σ}
    (hu : u ∈ g.begun n s) : u.runState = s.runState := by
  induction n generalizing s with
  | zero => exact absurd hu List.not_mem_nil
  | succ n ih =>
    rw [begun] at hu
    rcases List.mem_cons.mp hu with rfl | hu
    · rfl
    · have hstep := g.executeOneStep_continuous s
      cases h : g.executeOneStep s with
      | error e t =>
        rw [h] at hu
        exact absurd hu List.not_mem_nil
      | ok more t =>
        rw [h] at hu hstep
        cases more with
        | true => exact (ih hu).trans hstep.runState
        | false => exact absurd hu List.not_mem_nil

/-- The run state stays as it is at every moment of guest code. -/
theorem Guest.runState_of_moments {α : Type} (g : Guest σ) (code : Code σ α) (s : Session σ) :
    ∀ m ∈ g.moments code s, m.session.runState = s.runState := by
  refine g.moments_induction (P := fun _ t => t.runState = s.runState) ?_ code s rfl
  exact {
    keeps := fun ht htu => htu.runState.trans ht
    guest := fun _ ht => ht
    callback := fun _ ht => ht
    entry := fun ht _ => ⟨ht, ht⟩ }

namespace Scheduler

variable {c : Scheduler σ} {s t : Session σ}

/-! ## Batches -/

/-- The batch that is entered in this session halts. -/
def halts (c : Scheduler σ) (s : Session σ) : Bool :=
  match c.runBatch s with
  | .ok (.halted _) _ => true
  | _ => false

/-- The sessions in which up to `limit` batches are entered. -/
def entered (c : Scheduler σ) : (limit : Nat) → Session σ → List (Session σ)
  | 0, _ => []
  | limit + 1, s =>
    s ::
      match c.runBatch s with
      | .ok (.yielded _) t => c.entered limit t
      | _ => []

/-- The prompt as it is put out, a number of times. -/
def prompts (n : Nat) : List UInt32 :=
  (List.replicate n (prompt.toList.map (·.val))).flatten

theorem prompts_add (m n : Nat) : prompts (m + n) = prompts m ++ prompts n := by
  simp only [prompts, List.replicate_add, List.flatten_append]

theorem prompts_one : prompts 1 = prompt.toList.map (·.val) := List.append_nil _

theorem output_emit_vsync (s : Session σ) : (s.emit .vsync).output = s.output :=
  (Session.Paced.refl s).emit_vsync.output

/-- How many prompts a batch adds, by its outcome. -/
def promptCount : EStateM.Result RuntimeError (Session σ) BatchOutcome → Nat
  | .ok (.halted _) _ => 1
  | _ => 0

/-- The steps of a batch put out what each of them does, and then a prompt if they end the program.
Induction on the steps. -/
theorem output_runSteps (n done : Nat) (s : Session σ) :
    (Outcome.state (c.runSteps n done s)).output =
      s.output ++ (c.guest.begun n s).flatMap c.guest.stepOutput ++
        prompts (promptCount (c.runSteps n done s)) := by
  induction n generalizing s done with
  | zero => simp [runSteps, Guest.begun, promptCount, prompts, pure, EStateM.pure, Outcome.state]
  | succ n ih =>
    have hstep := c.guest.output_executeOneStep s
    simp only [runSteps, Guest.begun, List.flatMap_cons]
    cases h : c.guest.executeOneStep s with
    | error e t =>
      rw [h] at hstep
      show (t.setRunState .stopped).output = _
      rw [Session.output_setRunState, show t.output = _ from hstep]
      simp [promptCount, prompts]
    | ok more t =>
      rw [h] at hstep
      cases more with
      | true =>
        dsimp only
        rw [ih (done + 1) t, show t.output = _ from hstep]
        simp only [List.append_assoc]
      | false =>
        -- the last step, the prompt and the presentation, of which the prompt alone is output
        show (((t.setRunState .stopped).print prompt).emit .vsync).output = _
        rw [output_emit_vsync, Session.output_print, Session.output_setRunState,
          show t.output = _ from hstep, promptCount, prompts_one]
        simp only [List.flatMap_nil, List.append_nil]

/-- A batch puts out what its steps put out, and a prompt if it halts. -/
theorem output_runBatch (c : Scheduler σ) (s : Session σ) :
    (Outcome.state (c.runBatch s)).output =
      s.output ++ (c.batchCalls s).flatMap c.guest.stepOutput ++
        prompts (promptCount (c.runBatch s)) := by
  have hidle : s.output = s.output ++ [].flatMap c.guest.stepOutput ++ prompts 0 := by
    simp [prompts]
  unfold runBatch batchCalls
  dsimp only
  -- a request ends the batch before its first step, as does a session that is not running
  split
  · show (((s.emit .vsync).clearStop c.stop).setRunState .stopped).output = _
    rw [Session.output_setRunState]
    exact (output_emit_vsync s).trans hidle
  · split
    · rw [output_runSteps, output_emit_vsync]
    · exact (output_emit_vsync s).trans hidle

/-- A batch adds a prompt exactly if it halts. -/
theorem promptCount_runBatch (c : Scheduler σ) (s : Session σ) :
    promptCount (c.runBatch s) = [s].countP c.halts := by
  rw [List.countP_singleton, halts]
  cases c.runBatch s with
  | error e t => rfl
  | ok outcome t => cases outcome <;> rfl

/-- A run puts out what its steps put out, and then a prompt if its last batch halts. -/
theorem output_runBatches (limit batches steps : Nat) (s : Session σ) :
    (Outcome.state (c.runBatches limit batches steps s)).output =
      s.output ++ (c.calls limit s).flatMap c.guest.stepOutput ++
        prompts ((c.entered limit s).countP c.halts) := by
  induction limit generalizing s batches steps with
  | zero => simp [runBatches, calls, entered, prompts, pure, EStateM.pure, Outcome.state]
  | succ limit ih =>
    have hbatch := c.output_runBatch s
    rw [promptCount_runBatch] at hbatch
    simp only [runBatches, calls, entered]
    cases h : c.runBatch s with
    | error e t =>
      rw [h] at hbatch
      simpa [Outcome.state] using hbatch
    | ok outcome t =>
      rw [h] at hbatch
      cases outcome with
      | halted n => simpa [Outcome.state] using hbatch
      | stopped => simpa [Outcome.state] using hbatch
      | yielded n =>
        -- a batch that yields adds no prompt, so the rest of the run follows its steps at once
        have hnone : c.halts s = false := by rw [halts, h]
        rw [List.countP_singleton, hnone] at hbatch
        dsimp only
        rw [ih, show t.output = _ from hbatch]
        simp [prompts, hnone]

/-- Steps that end the program leave the session stopped. -/
theorem stopped_of_runSteps {n done m : Nat}
    (h : c.runSteps n done s = .ok (.halted m) t) : t.runState = .stopped := by
  induction n generalizing s done with
  | zero => cases h
  | succ n ih =>
    simp only [runSteps] at h
    cases hstep : c.guest.executeOneStep s with
    | error e u =>
      rw [hstep] at h
      cases h
    | ok more u =>
      rw [hstep] at h
      cases more with
      | true => exact ih h
      | false =>
        cases h
        show ((u.setRunState .stopped).print prompt).runState = .stopped
        rw [Session.runState_print, Session.runState_setRunState]

/-- A batch that halts leaves the session stopped. -/
theorem stopped_of_halted {n : Nat} (h : c.runBatch s = .ok (.halted n) t) :
    t.runState = .stopped := by
  obtain ⟨-, hsteps⟩ := runSteps_of_runBatch h fun _ => by simp
  exact stopped_of_runSteps hsteps

/-- A batch begins its steps in a running session. -/
theorem running_of_batchCalls {u : Session σ} (hu : u ∈ c.batchCalls s) :
    u.runState = .running := by
  unfold batchCalls at hu
  dsimp only at hu
  split at hu
  · exact absurd hu List.not_mem_nil
  · split at hu
    · rename_i hrunning
      exact (Guest.running_of_begun hu).trans (of_decide_eq_true hrunning)
    · exact absurd hu List.not_mem_nil

/-- Every batch of a run begins in a running session. -/
theorem running_of_calls {limit : Nat} {u : Session σ} (hu : u ∈ c.calls limit s) :
    u.runState = .running := by
  induction limit generalizing s with
  | zero => exact absurd hu List.not_mem_nil
  | succ limit ih =>
    rw [calls] at hu
    rcases List.mem_append.mp hu with hu | hu
    · exact running_of_batchCalls hu
    · split at hu
      · exact ih hu
      · exact absurd hu List.not_mem_nil

end Scheduler

/-! ## Operations -/

/-- The operation is one of the scheduler's. -/
def HostOperation.isScheduling : HostOperation → Bool
  | start | halt | runBatch | runUntil _ => true
  | _ => false

namespace Scheduler

variable {c : Scheduler σ} {s : Session σ}

/-- The sessions in which an operation enters batches. -/
def batches (c : Scheduler σ) : HostOperation → Session σ → List (Session σ)
  | .runBatch, s => [s]
  | .runUntil limit, s => c.entered limit (c.started s)
  | _, _ => []

/-- The sessions in which the scheduler begins steps during an operation. -/
def stepsOf (c : Scheduler σ) : HostOperation → Session σ → List (Session σ)
  | .runBatch, s => c.batchCalls s
  | .runUntil limit, s => c.calls limit (c.started s)
  | _, _ => []

/-- What the scheduler puts out during an operation, behind the output of the steps. -/
def ownOutput (c : Scheduler σ) (op : HostOperation) (s : Session σ) : List UInt32 :=
  if op.isScheduling then
    (c.after op s).output.drop (s.output ++ (c.stepsOf op s).flatMap c.guest.stepOutput).length
  else []

/-- What the scheduler puts out during a history. -/
def ownHistory (c : Scheduler σ) : List HostOperation → Session σ → List UInt32
  | [], _ => []
  | op :: rest, s => c.ownOutput op s ++ c.ownHistory rest (c.after op s)

/-- The sessions in which a history enters batches. -/
def batchHistory (c : Scheduler σ) : List HostOperation → Session σ → List (Session σ)
  | [], _ => []
  | op :: rest, s => c.batches op s ++ c.batchHistory rest (c.after op s)

theorem output_started (c : Scheduler σ) (s : Session σ) : (c.started s).output = s.output := by
  unfold started
  split
  · rfl
  · rw [Session.output_setRunState]
    rfl

/-- What an operation of the scheduler puts out: its steps, and the prompts of its batches. -/
theorem output_after {op : HostOperation} (hop : op.isScheduling = true) (s : Session σ) :
    (c.after op s).output = s.output ++ (c.stepsOf op s).flatMap c.guest.stepOutput ++
      prompts ((c.batches op s).countP c.halts) := by
  have hidle : s.output = s.output ++ [].flatMap c.guest.stepOutput ++ prompts 0 := by
    simp [prompts]
  cases op with
  | start => exact (c.output_started s).trans hidle
  | halt => exact (Session.output_setRunState s _).trans hidle
  | runBatch =>
    have hbatch := c.output_runBatch s
    rwa [promptCount_runBatch] at hbatch
  | runUntil limit =>
    have hrun := output_runBatches (c := c) limit 0 0 (c.started s)
    rwa [output_started] at hrun
  | _ => cases hop

/-- No other operation enters a batch. -/
theorem batches_of_not_scheduling {op : HostOperation} (hop : op.isScheduling = false)
    (s : Session σ) : c.batches op s = [] := by
  cases op with
  | start | halt | runBatch | runUntil _ => cases hop
  | _ => rfl

/-- Behind the output of the steps, an operation puts out one prompt for each batch that halts. -/
theorem ownOutput_eq (c : Scheduler σ) (op : HostOperation) (s : Session σ) :
    c.ownOutput op s = prompts ((c.batches op s).countP c.halts) := by
  by_cases hop : op.isScheduling = true
  · rw [ownOutput, if_pos hop, output_after hop, List.drop_left]
  · rw [ownOutput, if_neg hop, batches_of_not_scheduling (Bool.eq_false_iff.mpr hop)]
    rfl

/-- The prompts of a history are those of its batches that halt. Induction on the operations. -/
theorem ownHistory_eq (c : Scheduler σ) (ops : List HostOperation) (s : Session σ) :
    c.ownHistory ops s = prompts ((c.batchHistory ops s).countP c.halts) := by
  induction ops generalizing s with
  | nil => rfl
  | cons op rest ih =>
    rw [ownHistory, batchHistory, List.countP_append, prompts_add, ownOutput_eq, ih]

/-- The scheduler begins steps in running sessions only. -/
theorem running_of_stepsOf {op : HostOperation} {u : Session σ} (hu : u ∈ c.stepsOf op s) :
    u.runState = .running := by
  cases op with
  | runBatch => exact running_of_batchCalls hu
  | runUntil limit => exact running_of_calls hu
  | _ => exact absurd hu List.not_mem_nil

/-- Every operation of a history keeps the invariant, those that register or clear a request
included. -/
theorem reported_history (c : Scheduler σ) (ops : List HostOperation) (hs : s.Reported) :
    (c.history ops s).Reported :=
  history_keeps (fun _ _ hs => after_keeps Session.durable_reported
    (fun _ _ _ ht => ht) (fun _ _ ht => ht) hs) ops hs

end Scheduler

open Scheduler

/-- **The run state and its reports never drift apart.** For every guest, batch size and history of
operations, those that fail included, on a session that is stopped and has reported nothing, as that
of a booted guest (`Module.unreported_of_boot`):

* the reports begin with `running` and alternate, and the last one is the run state, which is
  `stopped` as long as there is none;
* during an operation of the scheduler, the output grows by what its steps put out and by what the
  scheduler itself puts out; over the history, that is one prompt for each batch that halts, and
  nothing else;
* a batch that halts leaves the session stopped;
* the scheduler begins steps in running sessions only, and the session is running at every moment of
  such a step. -/
theorem run_state_is_reported {σ : Type} (c : Scheduler σ) (ops : List HostOperation)
    (s : Session σ) (fresh : s.Unreported) :
    let t := c.history ops s
    let reports := t.notifications
    ((∀ i (hi : i < reports.length), reports[i] = if i % 2 = 0 then .running else .stopped) ∧
      t.runState = reports.getLast?.getD .stopped) ∧
    (∀ op u, op.isScheduling = true → (c.after op u).output =
      u.output ++ (c.stepsOf op u).flatMap c.guest.stepOutput ++ c.ownOutput op u) ∧
    c.ownHistory ops s = prompts ((c.batchHistory ops s).countP c.halts) ∧
    (∀ u n v, c.runBatch u = .ok (.halted n) v → v.runState = .stopped) ∧
    (∀ op u, ∀ v ∈ c.stepsOf op u, v.runState = .running ∧
      ∀ m ∈ c.guest.moments c.guest.entry.executeOneStep v, m.session.runState = .running) := by
  refine ⟨(c.reported_history ops fresh.reported).alternates, fun op u hop => ?_,
    c.ownHistory_eq ops s, fun u n v h => stopped_of_halted h, fun op u v hv => ?_⟩
  · rw [output_after hop, ownOutput_eq]
  · have hrunning := running_of_stepsOf hv
    exact ⟨hrunning, fun m hm => (c.guest.runState_of_moments _ v m hm).trans hrunning⟩

/-- A stop request ends a run, the next run halts, and a program that cannot be loaded changes
nothing. -/
theorem run_state_is_reported_countdown :
    let c : Scheduler Nat := ⟨countdown (pure 0), 2, 0, ⟨0⟩⟩
    let ops := [.start, .start, .runBatch, .requestStop ⟨0⟩, .runUntil 3, .runUntil 9,
      .setRunState .stopped, .setSource 0 "A" "", .runBatch]
    let t := c.history ops fourLeft
    fourLeft.Unreported ∧
    t.notifications = [.running, .stopped, .running, .stopped] ∧
    t.runState = .stopped ∧
    c.ownHistory ops fourLeft = [79, 75, 10] := by
  intro c ops t
  have hfresh : fourLeft.Unreported := ⟨rfl, rfl⟩
  have hreports : t.notifications = [.running, .stopped, .running, .stopped] := by decide +kernel
  have hhalts : (c.batchHistory ops fourLeft).countP c.halts = 1 := by decide +kernel
  obtain ⟨⟨-, hstate⟩, -, hown, -⟩ := run_state_is_reported c ops fourLeft hfresh
  rw [hreports] at hstate
  rw [hhalts] at hown
  exact ⟨hfresh, hreports, hstate, hown⟩

end GuestBridge
