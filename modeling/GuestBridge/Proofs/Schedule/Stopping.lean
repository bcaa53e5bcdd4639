import GuestBridge.Proofs.Nesting.Requests
import GuestBridge.Proofs.Schedule.History
import GuestBridge.Proofs.Session.Muting
/-!
# Stop requests and batches

A stop request is a flag of the session. It is set at any time, by the host or by a callback in the
middle of a step. It is read only where a batch is entered, and cleared there and by a start of a
stopped session. So while the session is running, a request is neither lost nor noticed before the
next batch is entered.

A run of several batches waits before each of them, so another task may ask for the stop there
(`runAmid`). Then the batch for which the run has waited is the next one, and does nothing
(`runAmid_requested`).

Not to be lost is a lasting property: `after_keeps` carries it through all operations that neither
enter a batch nor start a stopped session. Not to be noticed is a comparison with the session in
which the handle is muted (`Session.mute`), which is a disguise that guest code does not see.

## Main statement

* **`stop_observed_between_batches`** — what becomes of a request that is made while the session is
  running.
-/

namespace GuestBridge

namespace Session

variable {σ : Type}

theorem stopRequested_setRunState (s : Session σ) (state : RunState) (handle : StopHandle) :
    (s.setRunState state).stopRequested handle = s.stopRequested handle := by
  unfold setRunState
  split <;> rfl

theorem stopRequested_clearStop_self (s : Session σ) (handle : StopHandle) :
    (s.clearStop handle).stopRequested handle = false := by
  rw [stopRequested_clearStop, bne_self_eq_false, Bool.false_and]

theorem clearStop_clearStop (s : Session σ) (handle : StopHandle) :
    (s.clearStop handle).clearStop handle = s.clearStop handle := by
  simp only [clearStop, List.filter_filter, Bool.and_self]

/-- Makes stop requests, one after the other. -/
def requestStops (s : Session σ) (handles : List StopHandle) : Session σ :=
  handles.foldl requestStop s

/-- A request stays pending when others are made. -/
theorem stopRequested_requestStops_of_requested {s : Session σ} {handle : StopHandle}
    (h : s.stopRequested handle = true) (handles : List StopHandle) :
    (s.requestStops handles).stopRequested handle = true := by
  induction handles generalizing s with
  | nil => exact h
  | cons other rest ih =>
    refine ih ?_
    rw [stopRequested_requestStop, h, Bool.or_true]

/-- Each request that is made is pending, whatever others are made. -/
theorem stopRequested_requestStops {handles : List StopHandle} {handle : StopHandle}
    (h : handle ∈ handles) (s : Session σ) :
    (s.requestStops handles).stopRequested handle = true := by
  induction handles generalizing s with
  | nil => exact absurd h List.not_mem_nil
  | cons other rest ih =>
    rcases List.mem_cons.mp h with rfl | hrest
    · refine stopRequested_requestStops_of_requested ?_ rest
      rw [stopRequested_requestStop, beq_self_eq_true, Bool.true_or]
    · exact ih hrest (s.requestStop other)

/-- A pending request survives guest code, callbacks and changes of the run state. -/
theorem lasting_stopRequested (handle : StopHandle) :
    Lasting fun s : Session σ => s.stopRequested handle = true where
  continues hs hst := hst.stopRequested handle hs
  setRunState state hs := by rwa [stopRequested_setRunState]

end Session

namespace Scheduler

variable {σ : Type} {c : Scheduler σ} {s t u : Session σ} {e : RuntimeError}

/-! ## Entering a batch -/

/-- The session in which a stop request was observed. -/
def observed (c : Scheduler σ) (s : Session σ) : Session σ :=
  ((s.emit .vsync).clearStop c.stop).setRunState .stopped

/-- A batch that is entered with a request stops at once and begins no step. -/
theorem batch_of_requested (h : s.stopRequested c.stop = true) :
    c.runBatch s = .ok .stopped (c.observed s) ∧ c.batchCalls s = [] := by
  have hshown : (s.emit .vsync).stopRequested c.stop = true := h
  refine ⟨?_, ?_⟩
  · rw [runBatch, if_pos hshown]
    rfl
  · rw [batchCalls, if_pos hshown]

/-- Observing a request clears it. -/
theorem stopRequested_observed (c : Scheduler σ) (s : Session σ) :
    (c.observed s).stopRequested c.stop = false := by
  rw [observed, Session.stopRequested_setRunState, Session.stopRequested_clearStop_self]

/-- A batch that observes a request has presented the output once, at its entry. -/
theorem vsyncs_observed (c : Scheduler σ) (s : Session σ) :
    (c.observed s).vsyncs = s.vsyncs + 1 := by
  rw [observed, Session.vsyncs_setRunState]
  exact (Session.Paced.refl s).emit_vsync.vsyncs

theorem output_observed (c : Scheduler σ) (s : Session σ) : (c.observed s).output = s.output := by
  rw [observed, Session.output_setRunState]
  exact (Session.Paced.refl s).emit_vsync.output

/-! ## Requests are not lost -/

/-- A request that is made in a step is pending after it. -/
theorem stopRequested_of_step {m : Moment σ}
    (hm : m ∈ c.guest.moments c.guest.entry.executeOneStep s) (hasks : m.Requests c.stop) :
    Action.Leaves c.stop c.guest.executeOneStep s :=
  ((c.guest.stopRequested_of_moment hm hasks).mapError _).bind fun _ => .pure _

/-- A request that is made in a step of a batch is pending after the batch. -/
theorem stopRequested_of_runSteps {m : Moment σ} (n done : Nat)
    (hu : u ∈ c.guest.begun n s) (hm : m ∈ c.guest.moments c.guest.entry.executeOneStep u)
    (hasks : m.Requests c.stop) : Action.Leaves c.stop (c.runSteps n done) s := by
  have hlasting := Session.lasting_stopRequested (σ := σ) c.stop
  -- Induction on the steps: the request is made in the first one and lasts, or in a later one.
  induction n generalizing s done with
  | zero => exact absurd hu List.not_mem_nil
  | succ n ih =>
    rw [Guest.begun] at hu
    unfold Action.Leaves runSteps
    rcases List.mem_cons.mp hu with rfl | hu
    · have hstep := stopRequested_of_step hm hasks
      unfold Action.Leaves at hstep
      cases h : c.guest.executeOneStep u with
      | error e t =>
        rw [h] at hstep
        exact hlasting.setRunState _ hstep
      | ok more t =>
        rw [h] at hstep
        cases more with
        | true => exact runSteps_keeps hlasting.durable n _ t hstep
        | false =>
          -- The last step of the program is followed by the stop, the prompt and a presentation.
          have hstopped := hlasting.setRunState .stopped hstep
          have hprompt := hlasting.continues hstopped (.print _ prompt)
          exact hlasting.continues hprompt (.emit _ .vsync)
    · cases h : c.guest.executeOneStep s with
      | error e t =>
        rw [h] at hu
        exact absurd hu List.not_mem_nil
      | ok more t =>
        rw [h] at hu
        cases more with
        | true => exact ih _ hu
        | false => exact absurd hu List.not_mem_nil

/-- A request that is made in any step of a batch is pending after the batch. -/
theorem stopRequested_of_batch {m : Moment σ} (hu : u ∈ c.batchCalls s)
    (hm : m ∈ c.guest.moments c.guest.entry.executeOneStep u) (hasks : m.Requests c.stop) :
    Action.Leaves c.stop c.runBatch s := by
  unfold batchCalls at hu
  unfold Action.Leaves runBatch
  simp only at hu ⊢
  split at hu
  · exact absurd hu List.not_mem_nil
  · rename_i hquiet
    rw [if_neg hquiet]
    split at hu
    · rename_i hrunning
      rw [if_pos hrunning]
      exact stopRequested_of_runSteps _ _ hu hm hasks
    · exact absurd hu List.not_mem_nil

/-- The sessions in which the operations of a history begin, and the one in which it ends. -/
def visited (c : Scheduler σ) : List HostOperation → Session σ → List (Session σ)
  | [], s => [s]
  | op :: rest, s => s :: c.visited rest (c.after op s)

/-- A history ends in a session that it visits. -/
theorem mem_visited_history (c : Scheduler σ) (ops : List HostOperation) (s : Session σ) :
    c.history ops s ∈ c.visited ops s := by
  induction ops generalizing s with
  | nil => exact List.mem_singleton_self s
  | cons op rest ih => exact List.mem_cons_of_mem _ (ih (c.after op s))

/-- A request is pending as long as the session stays running and no batch is entered. -/
theorem stopRequested_history (ops : List HostOperation) (h : s.stopRequested c.stop = true)
    (hops : ∀ op ∈ ops, op.entersBatch = false)
    (hrunning : ∀ u ∈ c.visited ops s, u.runState = .running) :
    (c.history ops s).stopRequested c.stop = true := by
  induction ops generalizing s with
  | nil => exact h
  | cons op rest ih =>
    -- only two kinds of operation clear a request, and this is neither
    have hkept : ¬ Clears op s := by
      rintro (henters | ⟨-, hstopped⟩)
      · rw [hops op (List.mem_cons_self ..)] at henters
        cases henters
      · exact hstopped (hrunning s (List.mem_cons_self ..))
    have hafter : (c.after op s).stopRequested c.stop = true :=
      after_keeps (Session.lasting_stopRequested c.stop).durable (fun _ _ _ hu => hu)
        (fun hclears => absurd hclears hkept) h
    exact ih hafter (fun op hop => hops op (List.mem_cons_of_mem _ hop))
      fun u hu => hrunning u (List.mem_cons_of_mem _ hu)

/-! ## Requests are not noticed inside a batch -/

/-- The steps of a batch go the same way in disguise. Induction on the steps. -/
theorem runSteps_unaffected (d : Disguise σ) (n done : Nat) :
    Action.Unaffected d (c.runSteps n done) := by
  induction n generalizing done with
  | zero => exact .pure _
  | succ n ih =>
    intro s
    unfold runSteps
    rw [c.guest.executeOneStep_unaffected d s]
    cases c.guest.executeOneStep s with
    | error e t => exact congrArg (EStateM.Result.error e) (d.setRunState t _)
    | ok more t =>
      cases more with
      | true => exact ih _ t
      | false =>
        refine congrArg (EStateM.Result.ok _) ?_
        rw [d.setRunState, d.print, d.emit]

/-- In disguise the steps begin in the disguised sessions of the others. -/
theorem begun_wear (d : Disguise σ) (n : Nat) (s : Session σ) :
    c.guest.begun n (d.wear s) = (c.guest.begun n s).map d.wear := by
  induction n generalizing s with
  | zero => rfl
  | succ n ih =>
    rw [Guest.begun, Guest.begun, c.guest.executeOneStep_unaffected d s, List.map_cons]
    cases c.guest.executeOneStep s with
    | error e t => rfl
    | ok more t =>
      cases more with
      -- The loop goes on in the session that the step left, in disguise as well.
      | true => exact congrArg (List.cons _) (ih t)
      | false => rfl

/-- A batch that is entered without a request does what it does without any. -/
theorem batch_mute (hquiet : s.stopRequested c.stop = false) :
    c.runBatch (s.mute c.stop) = Outcome.mapState (·.mute c.stop) (c.runBatch s) ∧
      c.batchCalls (s.mute c.stop) = (c.batchCalls s).map (·.mute c.stop) := by
  let d : Disguise σ := .muted c.stop
  have hshown : ¬ (s.emit .vsync).stopRequested c.stop = true := Bool.eq_false_iff.mp hquiet
  -- neither session has a request, so both batches do their steps
  have hmuted : ¬ ((s.mute c.stop).emit .vsync).stopRequested c.stop = true := by
    show ¬ (s.mute c.stop).stopRequested c.stop = true
    rw [Session.stopRequested_mute, hquiet, Bool.and_false]
    exact Bool.false_ne_true
  have hrun : isRunning ((s.mute c.stop).emit .vsync) = isRunning (s.emit .vsync) := rfl
  refine ⟨?_, ?_⟩
  · simp only [runBatch, if_neg hshown, if_neg hmuted, hrun]
    split
    · exact runSteps_unaffected d _ _ (s.emit .vsync)
    · rfl
  · simp only [batchCalls, if_neg hshown, if_neg hmuted, hrun]
    split
    · exact begun_wear d _ (s.emit .vsync)
    · rfl

/-! ## Runs -/

theorem started_of_running (h : s.runState = .running) : c.started s = s := by
  rw [started, if_pos (by rw [isRunning, decide_eq_true h])]

/-- A start of a stopped session discards its request and sets it running. -/
theorem started_of_stopped (h : s.runState = .stopped) :
    c.started s = (s.clearStop c.stop).setRunState .running := by
  rw [started, if_neg (by rw [isRunning, h]; decide)]

/-- A start of a stopped session discards a request. -/
theorem stopRequested_started (h : s.runState = .stopped) :
    (c.started s).stopRequested c.stop = false := by
  rw [started_of_stopped h, Session.stopRequested_setRunState, Session.stopRequested_clearStop_self]

/-- It makes no difference to a start whether there was a request. -/
theorem started_clearStop (h : s.runState = .stopped) :
    c.started (s.clearStop c.stop) = c.started s := by
  have hcleared : (s.clearStop c.stop).runState = .stopped := h
  rw [started_of_stopped h, started_of_stopped hcleared, Session.clearStop_clearStop]

/-- A limit ends a run if the first batch yields and a limit ends the rest. -/
theorem runBatches_succ_eq_batchLimit_iff {k batches steps batches' steps' : Nat} :
    c.runBatches (k + 1) batches steps s = .ok ⟨batches', steps', .batchLimit⟩ t ↔
      ∃ n u, c.runBatch s = .ok (.yielded n) u ∧
        c.runBatches k (batches + 1) (steps + n) u = .ok ⟨batches', steps', .batchLimit⟩ t := by
  simp only [runBatches]
  cases c.runBatch s with
  | error e u => simp only [reduceCtorEq, false_and, exists_false]
  | ok outcome u =>
    cases outcome with
    | yielded n =>
      simp only [EStateM.Result.ok.injEq, BatchOutcome.yielded.injEq]
      refine ⟨fun hrest => ⟨n, u, ⟨rfl, rfl⟩, hrest⟩, fun hparts => ?_⟩
      obtain ⟨_, _, ⟨rfl, rfl⟩, hrest⟩ := hparts
      exact hrest
    | halted n =>
      simp only [EStateM.Result.ok.injEq, RunSummary.mk.injEq, reduceCtorEq, and_false, false_and,
        exists_false]
    | stopped =>
      simp only [EStateM.Result.ok.injEq, RunSummary.mk.injEq, reduceCtorEq, and_false, false_and,
        exists_false]

/-- A run can be cut where a limit ends it. -/
theorem runBatches_add {k batches steps batches' steps' : Nat}
    (h : c.runBatches k batches steps s = .ok ⟨batches', steps', .batchLimit⟩ t) (limit : Nat) :
    c.runBatches (k + limit) batches steps s = c.runBatches limit batches' steps' t := by
  induction k generalizing s batches steps with
  | zero =>
    cases h
    rw [Nat.zero_add]
  | succ k ih =>
    -- The first batch of the shorter run is that of the longer one.
    obtain ⟨n, u, hfirst, hrest⟩ := runBatches_succ_eq_batchLimit_iff.mp h
    rw [Nat.add_right_comm]
    simp only [runBatches, hfirst]
    exact ih hrest

/-- A run of a running session with a larger limit goes on where the smaller limit ended it. -/
theorem runUntil_add (hrunning : s.runState = .running) {k batches steps : Nat}
    (h : c.runUntil k s = .ok ⟨batches, steps, .batchLimit⟩ t) (limit : Nat) :
    c.runUntil (k + limit) s = c.runBatches limit batches steps t := by
  rw [runUntil_apply, started_of_running hrunning] at h ⊢
  exact runBatches_add h limit

/-- Steps that all want more leave the run state as it is. -/
theorem runState_of_yielded {n done m : Nat} (h : c.runSteps n done s = .ok (.yielded m) t) :
    t.runState = s.runState := by
  induction n generalizing s done with
  | zero =>
    cases h
    rfl
  | succ n ih =>
    have hcontinues := c.guest.executeOneStep_continuous s
    simp only [runSteps] at h
    cases hstep : c.guest.executeOneStep s with
    | error e u =>
      rw [hstep] at h
      cases h
    | ok more u =>
      rw [hstep] at h hcontinues
      cases more with
      | true => exact (ih h).trans hcontinues.runState
      | false => cases h

/-- A batch that is not stopped at once is entered in a running session, and is its steps. -/
theorem runSteps_of_runBatch {r : EStateM.Result RuntimeError (Session σ) BatchOutcome}
    (h : c.runBatch s = r) (hr : ∀ u, r ≠ .ok .stopped u) :
    s.runState = .running ∧ c.runSteps c.stepsPerBatch 0 (s.emit .vsync) = r := by
  unfold runBatch at h
  dsimp only at h
  -- A batch has three ways: a request is observed, its steps are done, or nothing runs.
  split at h
  · exact absurd h.symm (hr _)
  · split at h
    · rename_i hrunning
      exact ⟨of_decide_eq_true hrunning, h⟩
    · exact absurd h.symm (hr _)

/-- A batch that yields leaves the session running. -/
theorem running_of_yielded {m : Nat} (h : c.runBatch s = .ok (.yielded m) t) :
    t.runState = .running := by
  obtain ⟨hrunning, hsteps⟩ := runSteps_of_runBatch h fun _ => by simp
  exact (runState_of_yielded hsteps).trans hrunning

/-- A run that a limit ends leaves the session running. -/
theorem running_of_batchLimit {k batches steps batches' steps' : Nat}
    (h : c.runBatches k batches steps s = .ok ⟨batches', steps', .batchLimit⟩ t)
    (hrunning : s.runState = .running) : t.runState = .running := by
  induction k generalizing s batches steps with
  | zero =>
    cases h
    exact hrunning
  | succ k ih =>
    obtain ⟨n, u, hfirst, hrest⟩ := runBatches_succ_eq_batchLimit_iff.mp h
    exact ih hrest (running_of_yielded hfirst)

theorem running_of_runUntil (hrunning : s.runState = .running) {k batches steps : Nat}
    (h : c.runUntil k s = .ok ⟨batches, steps, .batchLimit⟩ t) : t.runState = .running := by
  rw [runUntil_apply, started_of_running hrunning] at h
  exact running_of_batchLimit h hrunning

/-- A run of a running session that is asked to stop ends before its first batch. -/
theorem performs_of_requested (hrunning : s.runState = .running)
    (h : s.stopRequested c.stop = true) {limit : Option Nat} (hlimit : limit ≠ some 0) :
    c.Performs limit s [] (.ok ⟨0, 0, .stopped⟩ (c.observed s)) := by
  obtain ⟨hrun, hcalls⟩ := batch_of_requested h
  -- One batch is enough to observe the request, so any larger bound does the same.
  have hbound : ∀ m ≥ 1, (c.calls m (c.started s)).map Session.bare = [].map Session.bare ∧
      c.runUntil m s = .ok ⟨0, 0, .stopped⟩ (c.observed s) := by
    intro m hm
    obtain ⟨m, rfl⟩ := Nat.exists_eq_add_of_le' hm
    rw [runUntil_apply, started_of_running hrunning]
    simp only [calls, runBatches, hrun, hcalls, List.nil_append, List.map_nil, and_self]
  refine performs_of_bound hbound ?_ ?_
  · intro summary t hok
    cases hok
    exact RunOutcome.noConfusion
  · rintro m ⟨⟩
    exact Nat.one_le_iff_ne_zero.mpr fun hzero => hlimit (congrArg some hzero)

/-! ## Requests of another task -/

/-- Runs batches as `runBatches` does, as many as there are turns of another task. Before each batch
the run waits, and the other task makes the requests of its turn. -/
def runAmid (c : Scheduler σ) :
    (turns : List (List StopHandle)) → (batches steps : Nat) → Action RuntimeError σ RunSummary
  | [], batches, steps => pure ⟨batches, steps, .batchLimit⟩
  | requests :: turns, batches, steps => fun s =>
    match c.runBatch (s.requestStops requests) with
    | .ok (.yielded n) t => runAmid c turns (batches + 1) (steps + n) t
    | .ok (.halted n) t => .ok ⟨batches + 1, steps + n, .halted⟩ t
    | .ok .stopped t => .ok ⟨batches, steps, .stopped⟩ t
    | .error e t => .error e t

/-- Where the other task makes no requests, a run amid its turns is a run. -/
theorem runAmid_replicate_nil (k batches steps : Nat) (s : Session σ) :
    c.runAmid (List.replicate k []) batches steps s = c.runBatches k batches steps s := by
  induction k generalizing batches steps s with
  | zero => rfl
  | succ k ih =>
    have hturn : s.requestStops [] = s := rfl
    rw [List.replicate_succ]
    simp only [runAmid, runBatches, hturn]
    cases c.runBatch s with
    | error e t => rfl
    | ok outcome t =>
      cases outcome with
      | yielded n => exact ih _ _ t
      | halted n => rfl
      | stopped => rfl

/-- **A request between two batches of one run.** A run that is still going on when another task asks
for its stop does no further step: it reports the batches and steps that it has done, and observes
the request as soon as it goes on. A run that has ended by then ends as it did. -/
theorem runAmid_requested (turns more : List (List StopHandle)) {requests : List StopHandle}
    (hrequests : c.stop ∈ requests) (batches steps : Nat) (s : Session σ) :
    c.runAmid (turns ++ requests :: more) batches steps s =
      match c.runAmid turns batches steps s with
      | .ok ⟨batches', steps', .batchLimit⟩ t =>
        .ok ⟨batches', steps', .stopped⟩ (c.observed (t.requestStops requests))
      | r => r := by
  -- Induction on the turns before the request: in each of them the run ends or goes on.
  induction turns generalizing batches steps s with
  | nil =>
    have hbatch := (batch_of_requested (c := c)
      (Session.stopRequested_requestStops hrequests s)).1
    show c.runAmid (requests :: more) batches steps s = _
    simp only [runAmid, hbatch]
    rfl
  | cons first turns ih =>
    rw [List.cons_append]
    simp only [runAmid]
    cases c.runBatch (s.requestStops first) with
    | error e t => rfl
    | ok outcome t =>
      cases outcome with
      | yielded n => exact ih _ _ t
      | halted n => rfl
      | stopped => rfl

/-- A run with a limit that another task stops before its batch `k + 1`. -/
theorem runUntil_requested (k : Nat) (more : List (List StopHandle)) {requests : List StopHandle}
    (hrequests : c.stop ∈ requests) (s : Session σ) :
    c.runAmid (List.replicate k [] ++ requests :: more) 0 0 (c.started s) =
      match c.runUntil k s with
      | .ok ⟨batches, steps, .batchLimit⟩ t =>
        .ok ⟨batches, steps, .stopped⟩ (c.observed (t.requestStops requests))
      | r => r := by
  rw [runAmid_requested _ _ hrequests, runAmid_replicate_nil, runUntil_apply]

end Scheduler

open Scheduler

/-- **Stop requests are observed between batches, and only there.** For every guest, batch size and
running session:

* a request of the host is pending at once, and one that a callback makes at any moment of guest
  code, or of any step of a batch, is pending when control returns to the host;
* a batch that is entered without a request does the steps, and has the outcome, that it has when
  all requests of the handle are left out; so does guest code that the host calls;
* a pending request stays pending as long as the session stays running and no batch is entered; the
  next batch then does no step and observes it, and a run ends with it at once, unless its limit is
  zero;
* observing it stops the session, clears the request, and presents the output once;
* a run that goes on after a limit ended it observes a request that was made before, and reports
  unchanged how a batch halts or fails in which one is made;
* a stopped session is started as if there had been no request. -/
theorem stop_observed_between_batches {σ : Type} (c : Scheduler σ) (s : Session σ)
    (running : s.runState = .running) :
    let requested (u : Session σ) := u.stopRequested c.stop = true
    (requested (s.requestStop c.stop) ∧
      (∀ (α : Type) (code : Code σ α), ∀ m ∈ c.guest.moments code s, m.Requests c.stop →
        requested (Outcome.state (c.guest.run code s))) ∧
      (∀ u ∈ c.batchCalls s, ∀ m ∈ c.guest.moments c.guest.entry.executeOneStep u,
        m.Requests c.stop → requested (Outcome.state (c.runBatch s)))) ∧
    ((¬ requested s →
        c.runBatch (s.mute c.stop) = Outcome.mapState (·.mute c.stop) (c.runBatch s) ∧
        c.batchCalls (s.mute c.stop) = (c.batchCalls s).map (·.mute c.stop)) ∧
      (∀ (α : Type) (code : Code σ α), c.guest.run code (s.mute c.stop) =
        Outcome.mapState (·.mute c.stop) (c.guest.run code s)) ∧
      (∀ slot file source, c.guest.setSource slot file source (s.mute c.stop) =
        Outcome.mapState (·.mute c.stop) (c.guest.setSource slot file source s))) ∧
    (requested s → ∀ ops, (∀ op ∈ ops, op.entersBatch = false) →
      (∀ u ∈ c.visited ops s, u.runState = .running) →
      let t := c.history ops s
      requested t ∧
      c.batchCalls t = [] ∧
      c.runBatch t = .ok .stopped (c.observed t) ∧
      ∀ limit, limit ≠ some 0 →
        c.Performs limit t [] (.ok ⟨0, 0, .stopped⟩ (c.observed t))) ∧
    (∀ t, (c.observed t).runState = .stopped ∧
      (c.observed t).stopRequested c.stop = false ∧
      (c.observed t).vsyncs = t.vsyncs + 1 ∧
      (c.observed t).output = t.output) ∧
    (∀ k batches steps t, c.runUntil k s = .ok ⟨batches, steps, .batchLimit⟩ t →
      t.runState = .running ∧
      (requested t → ∀ limit,
        c.runUntil (k + (limit + 1)) s = .ok ⟨batches, steps, .stopped⟩ (c.observed t)) ∧
      (∀ n u, c.runBatch t = .ok (.halted n) u → ∀ limit,
        c.runUntil (k + (limit + 1)) s = .ok ⟨batches + 1, steps + n, .halted⟩ u) ∧
      (∀ e u, c.runBatch t = .error e u → ∀ limit,
        c.runUntil (k + (limit + 1)) s = .error e u)) ∧
    (∀ t, t.runState = .stopped →
      (c.started t).runState = .running ∧
      (c.started t).stopRequested c.stop = false ∧
      c.started t = c.started (t.clearStop c.stop) ∧
      ∀ limit, c.runUntil limit t = c.runUntil limit (t.clearStop c.stop)) := by
  intro requested
  refine ⟨⟨?_, fun α code m hm hasks => c.guest.stopRequested_of_moment hm hasks,
      fun u hu m hm hasks => stopRequested_of_batch hu hm hasks⟩,
    ⟨fun hquiet => batch_mute (Bool.eq_false_iff.mpr hquiet),
      fun α code => c.guest.run_unaffected (.muted c.stop) code s,
      fun slot file source => c.guest.setSource_unaffected (.muted c.stop) slot file source s⟩,
    fun hrequested ops hops hrunning => ?_,
    fun t => ⟨Session.runState_setRunState _ _, c.stopRequested_observed t, c.vsyncs_observed t,
      c.output_observed t⟩,
    fun k batches steps t hrun => ?_, fun t hstopped => ?_⟩
  · show (s.requestStop c.stop).stopRequested c.stop = true
    rw [Session.stopRequested_requestStop, beq_self_eq_true, Bool.true_or]
  · have ht := stopRequested_history ops hrequested hops hrunning
    obtain ⟨hrun, hcalls⟩ := batch_of_requested ht
    have hlast := hrunning _ (c.mem_visited_history ops s)
    exact ⟨ht, hcalls, hrun, fun limit hlimit => performs_of_requested hlast ht hlimit⟩
  · have hmore (limit : Nat) := runUntil_add running hrun (limit + 1)
    refine ⟨running_of_runUntil running hrun, fun ht limit => ?_, fun n u hhalts limit => ?_,
      fun e u hfails limit => ?_⟩
    · simp only [hmore, runBatches, (batch_of_requested ht).1]
    · simp only [hmore, runBatches, hhalts]
    · simp only [hmore, runBatches, hfails]
  · have hcleared := started_clearStop (c := c) hstopped
    refine ⟨runState_started c t, stopRequested_started hstopped, hcleared.symm, fun limit => ?_⟩
    rw [runUntil_apply, runUntil_apply, hcleared]

/-! ## A program that asks for a stop -/

/-- Asks for a stop. -/
def stopping : ExternalFunction := .procedure0 "STOP" (Callback.requestStop ⟨0⟩)

/-- A guest that calls the function with id 1 in each step, and always wants more. -/
def tireless : Guest Unit where
  entry :=
    { malloc := fun _ => pure 0
      initializer := pure ()
      setSource := fun _ _ _ => pure 1
      executeOneStep := do
        let _ ← Code.host (.external ⟨1, 0, 0, 0, 0⟩)
        pure 1
      registerFunction := fun _ => pure 0 }
  exports := []
  settings := .default

/-- A running session of it, in which the function is registered. -/
def tirelessSession : Session Unit :=
  { Session.initial ⟨none, 0, 0, fun _ => ⟨0⟩⟩ 1 () with
    table := ⟨#[none, some stopping]⟩
    runState := .running }

/-- The batch in which the stop is asked for does both its steps, and the next one none. -/
theorem stop_observed_between_batches_tireless :
    let c : Scheduler Unit := ⟨tireless, 2, 0, ⟨0⟩⟩
    tirelessSession.runState = .running ∧
    ∃ t, c.runUntil 1 tirelessSession = .ok ⟨1, 2, .batchLimit⟩ t ∧
      t.stopRequested c.stop = true ∧
      c.runUntil 2 tirelessSession = .ok ⟨1, 2, .stopped⟩ (c.observed t) ∧
      (c.observed t).vsyncs = t.vsyncs + 1 := by
  intro c
  have hfirst : ∃ t, c.runUntil 1 tirelessSession = .ok ⟨1, 2, .batchLimit⟩ t ∧
      t.stopRequested c.stop = true := ⟨_, rfl, rfl⟩
  obtain ⟨t, hrun, hrequested⟩ := hfirst
  obtain ⟨-, -, -, hobserved, hruns, -⟩ := stop_observed_between_batches c tirelessSession rfl
  obtain ⟨-, hstops, -⟩ := hruns 1 1 2 t hrun
  exact ⟨rfl, t, hrun, hrequested, hstops hrequested 0, (hobserved t).2.2.1⟩

end GuestBridge
