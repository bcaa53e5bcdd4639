import Mathlib.Algebra.Order.Floor.Div
import GuestBridge.Schedule
import GuestBridge.Proofs.Schedule.Steps
/-!
# Batching does not change what a program does

A run in batches of `size` steps is the plain loop of single steps with a presentation in front of
each batch. Where the program ends at its step number `N`, the run takes `N ⌈/⌉ size` batches: full
ones up to the last multiple of `size` before `N`, then the batch in which the program ends. Where
the limit comes first, all batches are full.

The proof follows the two loops. `runSteps_of_steps` lets a batch swallow single steps, `full_batch`
is one turn of the outer loop, and `full_batches` any number of turns. What a turn preserves is that
the run's session is the plain loop's session, paced by one more presentation, and that the program
is still running and was not asked to stop.

## Main statement

* **`batching_refines_steps`** — how a run in batches ends, for every guest, size and limit.
-/

namespace GuestBridge

open Session (Paced)

namespace Scheduler

variable {σ : Type}

/-! ## What a run does -/

/-- The session in which the first batch of a run begins. -/
def started (c : Scheduler σ) (s : Session σ) : Session σ :=
  if isRunning s then s else (s.clearStop c.stop).setRunState .running

/-- The sessions in which a batch calls the step function. -/
def batchCalls (c : Scheduler σ) (s : Session σ) : List (Session σ) :=
  let shown := s.emit .vsync
  if shown.stopRequested c.stop then []
  else if isRunning shown then c.guest.begun c.stepsPerBatch shown
  else []

/-- The sessions in which up to `limit` batches call the step function. -/
def calls (c : Scheduler σ) : (limit : Nat) → Session σ → List (Session σ)
  | 0, _ => []
  | limit + 1, s =>
    c.batchCalls s ++
      match c.runBatch s with
      | .ok (.yielded _) t => c.calls limit t
      | _ => []

/-- A run, with a limit or without one, calls the step function in the given sessions, their traces
aside, and ends in `r`. Without a limit, it does so whatever the number of batches that it may take,
from some number on. -/
def Performs (c : Scheduler σ) (limit : Option Nat) (s : Session σ) (begun : List (Session σ))
    (r : EStateM.Result RuntimeError (Session σ) RunSummary) : Prop :=
  match limit with
  | some m =>
    (c.calls m (c.started s)).map Session.bare = begun.map Session.bare ∧ c.runUntil m s = r
  | none =>
    ∃ bound, ∀ fuel ≥ bound,
      (c.calls fuel (c.started s)).map Session.bare = begun.map Session.bare ∧
      match r with
      | .ok summary t => c.run fuel s = .ok (some summary) t
      | .error e t => c.run fuel s = .error e t

/-- No stop is requested where the first `n` single steps begin. -/
def Quiet (c : Scheduler σ) (n : Nat) (s : Session σ) : Prop :=
  ∀ u ∈ c.guest.begun n s, u.stopRequested c.stop = false

variable {c : Scheduler σ}

/-- A run starts the session, and then does batches. -/
theorem runUntil_apply (limit : Nat) (s : Session σ) :
    c.runUntil limit s = c.runBatches limit 0 0 (c.started s) := rfl

theorem runState_started (c : Scheduler σ) (s : Session σ) :
    (c.started s).runState = .running := by
  unfold started
  by_cases hrunning : isRunning s = true
  · rw [if_pos hrunning]
    exact of_decide_eq_true hrunning
  · rw [if_neg hrunning, Session.runState_setRunState]

/-! ## One batch -/

/-- Inside a batch the steps of the plain loop are done. -/
theorem runSteps_of_steps {n : Nat} (m done : Nat) {s t : Session σ}
    (h : c.guest.steps n s = .ok true t) :
    c.runSteps (n + m) done s = c.runSteps m (done + n) t := by
  -- Induction on the steps, with any count done before.
  induction n generalizing s done with
  | zero =>
    cases h
    rw [Nat.zero_add, Nat.add_zero]
  | succ n ih =>
    obtain ⟨r, hstep, hrest⟩ := Guest.steps_succ_eq_more_iff.mp h
    rw [Nat.add_right_comm]
    simp only [runSteps, hstep]
    rw [ih (done + 1) hrest, Nat.add_right_comm, Nat.add_assoc]

/-- A batch of a running session that is not asked to stop: a presentation, then steps. -/
theorem runBatch_of_quiet {s : Session σ} (hrunning : s.runState = .running)
    (hquiet : s.stopRequested c.stop = false) :
    c.runBatch s = c.runSteps c.stepsPerBatch 0 (s.emit .vsync) ∧
      c.batchCalls s = c.guest.begun c.stepsPerBatch (s.emit .vsync) := by
  have hstop : ¬ (s.emit .vsync).stopRequested c.stop = true := Bool.eq_false_iff.mp hquiet
  have hrun : isRunning (s.emit .vsync) = true := decide_eq_true hrunning
  refine ⟨?_, ?_⟩
  · rw [runBatch, if_neg hstop, if_pos hrun]
  · rw [batchCalls, if_neg hstop, if_pos hrun]

section Batch

variable {k n : Nat} {s t v : Session σ} {e : RuntimeError}
  {last : EStateM.Result RuntimeError (Session σ) Bool}

/-- A batch whose steps all want more does them and yields. -/
theorem full_batch (h : Paced k s v) (hrunning : s.runState = .running)
    (hquiet : s.stopRequested c.stop = false)
    (hsteps : c.guest.steps c.stepsPerBatch s = .ok true t) :
    ∃ v', Paced (k + 1) t v' ∧ c.runBatch v = .ok (.yielded c.stepsPerBatch) v' ∧
      (c.batchCalls v).map Session.bare =
        (c.guest.begun c.stepsPerBatch s).map Session.bare := by
  have hshown := h.emit_vsync
  obtain ⟨hrun, hcalls⟩ :=
    runBatch_of_quiet (h.runState.trans hrunning) ((h.stopRequested c.stop).trans hquiet)
  -- the steps do not look at the trace, so they go the same way behind the presentation
  obtain ⟨v', hv, h'⟩ := (c.guest.steps_oblivious _).paced_ok hshown hsteps
  refine ⟨v', h', ?_, ?_⟩
  · rw [hrun, ← Nat.add_zero c.stepsPerBatch, runSteps_of_steps 0 0 hv, Nat.zero_add]
    rfl
  · rw [hcalls, c.guest.begun_paced _ hshown]

/-- Where the program ends inside a batch, the last step is done in a session with one more
presentation, and no other step begins. -/
theorem last_batch (h : Paced k s v) (hrunning : s.runState = .running)
    (hquiet : s.stopRequested c.stop = false) (hn : n < c.stepsPerBatch)
    (hends : c.guest.EndsAt s (n + 1) last) :
    ∃ u u' m, Paced (k + 1) u u' ∧ c.guest.executeOneStep u = last ∧
      c.runBatch v = c.runSteps (m + 1) n u' ∧
      (c.batchCalls v).map Session.bare = (c.guest.begun (n + 1) s).map Session.bare := by
  obtain ⟨m, hm⟩ := Nat.exists_eq_add_of_lt hn
  have hshown := h.emit_vsync
  obtain ⟨hrun, hcalls⟩ :=
    runBatch_of_quiet (h.runState.trans hrunning) ((h.stopRequested c.stop).trans hquiet)
  -- the room that the batch has left is not used
  have hbegun := Guest.begun_of_endsAt m hends
  obtain ⟨n', u, hn', hsteps, hlast, -⟩ := hends
  cases hn'
  obtain ⟨u', hu, h'⟩ := (c.guest.steps_oblivious _).paced_ok hshown hsteps
  refine ⟨u, u', m, h', hlast, ?_, ?_⟩
  · rw [hrun, hm, Nat.add_assoc, runSteps_of_steps _ _ hu, Nat.zero_add]
  · rw [hcalls, c.guest.begun_paced _ hshown, hm, Nat.add_right_comm, hbegun]

/-- The batch in which the program halts ends with the prompt and a second presentation. -/
theorem halting_batch (h : Paced k s v) (hrunning : s.runState = .running)
    (hquiet : s.stopRequested c.stop = false) (hn : n < c.stepsPerBatch)
    (hends : c.guest.EndsAt s (n + 1) (.ok false t)) :
    ∃ v', Paced (k + 2) ((t.setRunState .stopped).print prompt) v' ∧
      c.runBatch v = .ok (.halted (n + 1)) v' ∧
      (c.batchCalls v).map Session.bare = (c.guest.begun (n + 1) s).map Session.bare := by
  obtain ⟨u, u', m, hu, hlast, hrun, hcalls⟩ := last_batch h hrunning hquiet hn hends
  obtain ⟨t', ht, h'⟩ := c.guest.executeOneStep_oblivious.paced_ok hu hlast
  refine ⟨_, ((h'.setRunState .stopped).print prompt).emit_vsync, ?_, hcalls⟩
  simp only [hrun, runSteps, ht]

/-- The batch in which a step fails passes its error on. -/
theorem failing_batch (h : Paced k s v) (hrunning : s.runState = .running)
    (hquiet : s.stopRequested c.stop = false) (hn : n < c.stepsPerBatch)
    (hends : c.guest.EndsAt s (n + 1) (.error e t)) :
    ∃ v', Paced (k + 1) (t.setRunState .stopped) v' ∧ c.runBatch v = .error e v' ∧
      (c.batchCalls v).map Session.bare = (c.guest.begun (n + 1) s).map Session.bare := by
  obtain ⟨u, u', m, hu, hlast, hrun, hcalls⟩ := last_batch h hrunning hquiet hn hends
  obtain ⟨t', ht, h'⟩ := c.guest.executeOneStep_oblivious.paced_error hu hlast
  refine ⟨_, h'.setRunState .stopped, ?_, hcalls⟩
  simp only [hrun, runSteps, ht]

/-! ## Many batches -/

/-- No stop is requested where the first step begins. -/
theorem Quiet.head (h : c.Quiet (n + 1) s) : s.stopRequested c.stop = false :=
  h s (List.mem_cons_self ..)

/-- Steps without a request can be cut as the steps are. -/
theorem Quiet.split {m : Nat} (h : c.Quiet (m + n) s) (hsteps : c.guest.steps m s = .ok true t) :
    c.Quiet m s ∧ c.Quiet n t := by
  unfold Quiet at h ⊢
  rw [c.guest.begun_add n hsteps] at h
  exact List.forall_mem_append.mp h

/-- Full batches do the steps of the plain loop, and each adds one presentation. -/
theorem full_batches (j : Nat) (h : Paced k s v) (hrunning : s.runState = .running)
    (hsize : 0 < c.stepsPerBatch) (hquiet : c.Quiet (j * c.stepsPerBatch) s)
    (hsteps : c.guest.steps (j * c.stepsPerBatch) s = .ok true t) :
    ∃ v', Paced (k + j) t v' ∧ ∀ limit,
      (c.calls (j + limit) v).map Session.bare =
        (c.guest.begun (j * c.stepsPerBatch) s).map Session.bare ++
          (c.calls limit v').map Session.bare ∧
      ∀ batches steps, c.runBatches (j + limit) batches steps v =
        c.runBatches limit (batches + j) (steps + j * c.stepsPerBatch) v' := by
  -- Induction on the batches, the first one split off. The run's session may be paced already,
  -- and the counters may have any value, since the other batches begin where the first one ends.
  induction j generalizing k s v with
  | zero =>
    rw [Nat.zero_mul] at hsteps
    cases hsteps
    refine ⟨v, h, fun limit => ⟨?_, fun batches steps => ?_⟩⟩
    · rw [Nat.zero_add, Nat.zero_mul]
      rfl
    · rw [Nat.zero_add, Nat.zero_mul]
      rfl
  | succ j ih =>
    rw [Nat.succ_mul, Nat.add_comm] at hquiet hsteps
    obtain ⟨r, hfirst, hrest⟩ := Guest.steps_add.mp hsteps
    obtain ⟨hquiet₁, hquiet₂⟩ := hquiet.split hfirst
    -- the first batch is full, and the others follow in a session that is still running
    have hhead : s.stopRequested c.stop = false := by
      obtain ⟨size, hsucc⟩ := Nat.exists_eq_succ_of_ne_zero (Nat.pos_iff_ne_zero.mp hsize)
      rw [hsucc] at hquiet₁
      exact hquiet₁.head
    have hr : r.runState = .running := by
      have hcontinues := c.guest.steps_continuous c.stepsPerBatch s
      rw [hfirst] at hcontinues
      exact hcontinues.runState.trans hrunning
    obtain ⟨w, hw, hrun, hcalls⟩ := full_batch h hrunning hhead hfirst
    obtain ⟨v', hv', hmore⟩ := ih hw hr hquiet₂ hrest
    refine ⟨v', ?_, fun limit => ⟨?_, fun batches steps => ?_⟩⟩
    · rwa [Nat.add_right_comm, Nat.add_assoc] at hv'
    · rw [Nat.add_right_comm, calls, hrun, List.map_append, hcalls, (hmore limit).1, Nat.succ_mul,
        Nat.add_comm (j * c.stepsPerBatch), c.guest.begun_add _ hfirst, List.map_append,
        List.append_assoc]
    · rw [Nat.add_right_comm]
      simp only [runBatches, hrun]
      rw [(hmore limit).2, Nat.succ_mul, Nat.add_right_comm batches, Nat.add_assoc batches,
        Nat.add_assoc steps, Nat.add_comm c.stepsPerBatch]

/-- Where no step up to the limit ends the program, the run is full batches only. -/
theorem run_of_steps (m : Nat) (hrunning : s.runState = .running) (hsize : 0 < c.stepsPerBatch)
    (hquiet : c.Quiet (m * c.stepsPerBatch) s)
    (hsteps : c.guest.steps (m * c.stepsPerBatch) s = .ok true t) :
    ∃ v', Paced m t v' ∧
      (c.calls m s).map Session.bare =
        (c.guest.begun (m * c.stepsPerBatch) s).map Session.bare ∧
      c.runBatches m 0 0 s = .ok ⟨m, m * c.stepsPerBatch, .batchLimit⟩ v' := by
  obtain ⟨v', hv, hfull⟩ := full_batches m (Paced.refl s) hrunning hsize hquiet hsteps
  obtain ⟨hcalls, hrun⟩ := hfull 0
  rw [Nat.zero_add] at hv
  rw [Nat.add_zero] at hcalls hrun
  refine ⟨v', hv, hcalls.trans (List.append_nil _), ?_⟩
  rw [hrun, Nat.zero_add, Nat.zero_add]
  rfl

/-! ## The last batch -/

/-- The run is about to begin its last batch: `j` full batches are done, and the program ends in the
step after `r` more. -/
structure LastBatch (c : Scheduler σ) (s : Session σ) (N : Nat)
    (last : EStateM.Result RuntimeError (Session σ) Bool) (j r : Nat) (t v : Session σ) :
    Prop where
  count : N ⌈/⌉ c.stepsPerBatch = j + 1
  steps : N = j * c.stepsPerBatch + (r + 1)
  lt : r < c.stepsPerBatch
  paced : Paced j t v
  running : t.runState = .running
  quiet : t.stopRequested c.stop = false
  ends : c.guest.EndsAt t (r + 1) last
  begun : c.guest.begun N s = c.guest.begun (j * c.stepsPerBatch) s ++ c.guest.begun (r + 1) t
  calls : ∀ limit, (c.calls (j + limit) s).map Session.bare =
    (c.guest.begun (j * c.stepsPerBatch) s).map Session.bare ++
      (c.calls limit v).map Session.bare
  batches : ∀ limit, c.runBatches (j + limit) 0 0 s =
    c.runBatches limit j (j * c.stepsPerBatch) v

/-- A program that ends gets to its last batch. -/
theorem exists_lastBatch (hrunning : s.runState = .running) (hsize : 0 < c.stepsPerBatch)
    {N : Nat} (hquiet : c.Quiet N s) (hends : c.guest.EndsAt s N last) :
    ∃ j r t v, LastBatch c s N last j r t v := by
  have hpos : ∃ n, N = n + 1 := by
    obtain ⟨n, -, hN, -⟩ := hends
    exact ⟨n, hN⟩
  obtain ⟨n, rfl⟩ := hpos
  -- Of the `n` steps before the last one, the quotient fills batches and the remainder stands in
  -- front of the last step. A remainder of zero is no exception: the last step is never counted in.
  have hceil : (n + 1) ⌈/⌉ c.stepsPerBatch = n / c.stepsPerBatch + 1 := by
    rw [Nat.ceilDiv_eq_add_pred_div, Nat.add_right_comm, Nat.add_sub_cancel,
      Nat.add_div_right n hsize]
  have hN : n + 1 = n / c.stepsPerBatch * c.stepsPerBatch + (n % c.stepsPerBatch + 1) := by
    rw [← Nat.add_assoc, Nat.mul_comm, Nat.div_add_mod]
  rw [hN] at hends hquiet
  obtain ⟨t, hsteps, hlast⟩ := hends.split
  obtain ⟨hbefore, hafter⟩ := hquiet.split hsteps
  obtain ⟨v, hv, hfull⟩ :=
    full_batches (n / c.stepsPerBatch) (Paced.refl s) hrunning hsize hbefore hsteps
  rw [Nat.zero_add] at hv
  have hcontinues := c.guest.steps_continuous (n / c.stepsPerBatch * c.stepsPerBatch) s
  rw [hsteps] at hcontinues
  refine ⟨n / c.stepsPerBatch, n % c.stepsPerBatch, t, v, ?_⟩
  exact {
    count := hceil
    steps := hN
    lt := Nat.mod_lt n hsize
    paced := hv
    running := hcontinues.runState.trans hrunning
    quiet := hafter.head
    ends := hlast
    begun := by rw [hN, c.guest.begun_add _ hsteps]
    calls := fun limit => (hfull limit).1
    batches := fun limit => by rw [(hfull limit).2 0 0, Nat.zero_add, Nat.zero_add] }

/-- With room for its last batch, a run of a program that halts ends there. -/
theorem LastBatch.halted {N j r : Nat} {u : Session σ}
    (h : LastBatch c s N (.ok false u) j r t v) :
    ∃ v', Paced (N ⌈/⌉ c.stepsPerBatch + 1) ((u.setRunState .stopped).print prompt) v' ∧
      ∀ limit ≥ N ⌈/⌉ c.stepsPerBatch,
        (c.calls limit s).map Session.bare = (c.guest.begun N s).map Session.bare ∧
        c.runBatches limit 0 0 s = .ok ⟨N ⌈/⌉ c.stepsPerBatch, N, .halted⟩ v' := by
  obtain ⟨v', hv, hrun, hcalls⟩ := halting_batch h.paced h.running h.quiet h.lt h.ends
  rw [h.count]
  refine ⟨v', hv, fun limit hlimit => ?_⟩
  -- a larger limit makes no difference, as the run ends inside
  obtain ⟨l, rfl⟩ := Nat.exists_eq_add_of_le hlimit
  rw [Nat.add_assoc, Nat.add_comm 1 l, h.calls, h.batches, h.begun]
  refine ⟨?_, ?_⟩
  · rw [Scheduler.calls, hrun, List.map_append, List.map_append, hcalls]
    simp only [List.map_nil, List.append_nil]
  · simp only [runBatches, hrun]
    rw [← h.steps]

/-- With room for its last batch, a run of a program that fails ends there with the error. -/
theorem LastBatch.failed {N j r : Nat} {u : Session σ}
    (h : LastBatch c s N (.error e u) j r t v) :
    ∃ v', Paced (N ⌈/⌉ c.stepsPerBatch) (u.setRunState .stopped) v' ∧
      ∀ limit ≥ N ⌈/⌉ c.stepsPerBatch,
        (c.calls limit s).map Session.bare = (c.guest.begun N s).map Session.bare ∧
        c.runBatches limit 0 0 s = .error e v' := by
  obtain ⟨v', hv, hrun, hcalls⟩ := failing_batch h.paced h.running h.quiet h.lt h.ends
  rw [h.count]
  refine ⟨v', hv, fun limit hlimit => ?_⟩
  obtain ⟨l, rfl⟩ := Nat.exists_eq_add_of_le hlimit
  rw [Nat.add_assoc, Nat.add_comm 1 l, h.calls, h.batches, h.begun]
  refine ⟨?_, ?_⟩
  · rw [Scheduler.calls, hrun, List.map_append, List.map_append, hcalls]
    simp only [List.map_nil, List.append_nil]
  · simp only [runBatches, hrun]

end Batch

/-! ## Whole runs -/

/-- A run without a limit is a run with one, which is told apart if the limit ended it. -/
theorem run_apply (c : Scheduler σ) (fuel : Nat) (s : Session σ) :
    c.run fuel s =
      match c.runUntil fuel s with
      | .ok summary t =>
        .ok (if summary.outcome = .batchLimit then none else some summary) t
      | .error e t => .error e t := by
  rw [run, Outcome.bind_apply]
  cases c.runUntil fuel s with
  | ok summary t => rfl
  | error e t => rfl

/-- A run that ends in the same way for every limit from `bound` on ends so for a limit that is
absent, too. -/
theorem performs_of_bound {bound : Nat} {limit : Option Nat} {s : Session σ}
    {begun : List (Session σ)} {r : EStateM.Result RuntimeError (Session σ) RunSummary}
    (h : ∀ m ≥ bound, (c.calls m (c.started s)).map Session.bare = begun.map Session.bare ∧
      c.runUntil m s = r)
    (hend : ∀ summary t, r = .ok summary t → summary.outcome ≠ .batchLimit)
    (hlimit : ∀ m ∈ limit, bound ≤ m) : c.Performs limit s begun r := by
  cases limit with
  | some m => exact h m (hlimit m rfl)
  | none =>
    -- a run without a limit is one with enough of it, told apart by how it ended
    refine ⟨bound, fun fuel hfuel => ?_⟩
    obtain ⟨hcalls, hrun⟩ := h fuel hfuel
    refine ⟨hcalls, ?_⟩
    rw [run_apply, hrun]
    cases r with
    | ok summary t => simp only [hend summary t rfl, if_false]
    | error e t => rfl

end Scheduler

open Scheduler

/-- **Batching does not change what a program does.** For every guest, batch size and session,
while no stop is requested: let the program's step number `N` be the first that does not want more.

* If it halts, a run whose limit is absent or leaves room for `N ⌈/⌉ size` batches does exactly
  these `N` steps, halts in the last of the batches, and leaves the session that the steps leave,
  stopped and followed by the prompt, with `N ⌈/⌉ size + 1` presentations added.
* If it fails, such a run does exactly these steps and fails with the same error, and leaves the
  session stopped, with `N ⌈/⌉ size` presentations added and no prompt.
* If no step up to the limit ends the program, the run does `size` steps in each of its `m` batches
  and leaves the session running, with `m` presentations added. -/
theorem batching_refines_steps {σ : Type} (c : Scheduler σ) (stepsPerBatch : Nat)
    (s : Session σ) :
    let d := c.withStepsPerBatch stepsPerBatch
    let size := max stepsPerBatch 1
    let s₀ := c.started s
    (∀ (limit : Option Nat) N t, c.guest.EndsAt s₀ N (.ok false t) → c.Quiet N s₀ →
      (∀ m ∈ limit, N ⌈/⌉ size ≤ m) →
      (c.guest.begun N s₀).length = N ∧
      ∃ v, d.Performs limit s (c.guest.begun N s₀) (.ok ⟨N ⌈/⌉ size, N, .halted⟩ v) ∧
        Paced (N ⌈/⌉ size + 1) ((t.setRunState .stopped).print prompt) v ∧
        v.output = t.output ++ prompt.toList.map (·.val) ∧
        v.vsyncs = t.vsyncs + (N ⌈/⌉ size + 1) ∧
        v.runState = .stopped) ∧
    (∀ (limit : Option Nat) N e t, c.guest.EndsAt s₀ N (.error e t) → c.Quiet N s₀ →
      (∀ m ∈ limit, N ⌈/⌉ size ≤ m) →
      (c.guest.begun N s₀).length = N ∧
      ∃ v, d.Performs limit s (c.guest.begun N s₀) (.error e v) ∧
        Paced (N ⌈/⌉ size) (t.setRunState .stopped) v ∧
        v.output = t.output ∧
        v.vsyncs = t.vsyncs + N ⌈/⌉ size ∧
        v.runState = .stopped) ∧
    (∀ m, (∀ N last, c.guest.EndsAt s₀ N last → m < N ⌈/⌉ size) → c.Quiet (m * size) s₀ →
      (c.guest.begun (m * size) s₀).length = m * size ∧
      ∃ t v, c.guest.steps (m * size) s₀ = .ok true t ∧
        d.Performs (some m) s (c.guest.begun (m * size) s₀)
          (.ok ⟨m, m * size, .batchLimit⟩ v) ∧
        d.run m s = .ok none v ∧
        Paced m t v ∧
        v.runState = .running) := by
  intro d size s₀
  have hrunning : s₀.runState = .running := runState_started c s
  have hsize : 0 < d.stepsPerBatch := Nat.le_max_right stepsPerBatch 1
  refine ⟨fun limit N t hends hquiet hlimit => ?_, fun limit N e t hends hquiet hlimit => ?_,
    fun m hlater hquiet => ?_⟩
  · obtain ⟨j, r, u, w, hlast⟩ := exists_lastBatch hrunning hsize hquiet hends
    obtain ⟨v, hv, hrun⟩ := hlast.halted
    refine ⟨Guest.length_begun_of_endsAt hends, v, performs_of_bound hrun ?_ hlimit, hv, ?_, ?_, ?_⟩
    · intro summary u hok
      cases hok
      exact RunOutcome.noConfusion
    · rw [hv.output, Session.output_print, Session.output_setRunState]
    · rw [hv.vsyncs, Session.vsyncs_print, Session.vsyncs_setRunState]
      rfl
    · rw [hv.runState, Session.runState_print, Session.runState_setRunState]
  · obtain ⟨j, r, u, w, hlast⟩ := exists_lastBatch hrunning hsize hquiet hends
    obtain ⟨v, hv, hrun⟩ := hlast.failed
    refine ⟨Guest.length_begun_of_endsAt hends, v, performs_of_bound hrun ?_ hlimit, hv, ?_, ?_, ?_⟩
    · intro summary u hok
      cases hok
    · rw [hv.output, Session.output_setRunState]
    · rw [hv.vsyncs, Session.vsyncs_setRunState]
      rfl
    · rw [hv.runState, Session.runState_setRunState]
  · rcases c.guest.steps_or_ends (m * size) s₀ with ⟨t, hsteps⟩ | ⟨N, last, hN, hends⟩
    · obtain ⟨v, hv, hcalls, hrun⟩ := run_of_steps m hrunning hsize hquiet hsteps
      have hcontinues := c.guest.steps_continuous (m * size) s₀
      rw [hsteps] at hcontinues
      refine ⟨Guest.length_begun hsteps, t, v, hsteps, ⟨hcalls, hrun⟩, ?_, hv, ?_⟩
      · rw [run_apply, runUntil_apply, show d.runBatches m 0 0 (d.started s) = _ from hrun]
        rfl
      · exact hv.runState.trans (hcontinues.runState.trans hrunning)
    · -- a step that ends the program needs a batch beyond the limit, so it is not among these
      have hle : N ⌈/⌉ size ≤ m := (ceilDiv_le_iff_le_mul hsize).mpr (by rwa [Nat.mul_comm])
      exact absurd (hlater N last hends) (Nat.not_lt.mpr hle)

/-! ## A guest that counts down -/

/-- A guest that shows a dot for each number that it counts down, and then ends. -/
def countdown (last : Code Nat Int32) : Guest Nat where
  entry :=
    { malloc := fun _ => pure 0
      initializer := pure ()
      setSource := fun _ _ _ => pure 1
      executeOneStep := do
        match ← Code.getState with
        | 0 => last
        | n + 1 =>
          Code.setState n
          let _ ← Code.host (.putChar 46)
          pure 1
      registerFunction := fun _ => pure 0 }
  exports := []
  settings := .default

/-- A session in which four numbers are left. -/
def fourLeft : Session Nat := .initial ⟨none, 0, 0, fun _ => ⟨0⟩⟩ 1 4

/-- Four dots and the end are three batches of two steps; the end takes no batch of its own when a
batch has five steps, and is out of reach with a limit of two. -/
theorem batching_refines_steps_countdown :
    let c (last : Code Nat Int32) : Scheduler Nat := ⟨countdown last, 1, 0, ⟨0⟩⟩
    let s₀ := (c (pure 0)).started fourLeft
    (∃ v, ((c (pure 0)).withStepsPerBatch 2).Performs (some 3) fourLeft
        ((countdown (pure 0)).begun 5 s₀) (.ok ⟨3, 5, .halted⟩ v) ∧
      v.output = [46, 46, 46, 46, 79, 75, 10] ∧ v.vsyncs = 4) ∧
    (∃ v, ((c (pure 0)).withStepsPerBatch 5).Performs none fourLeft
        ((countdown (pure 0)).begun 5 s₀) (.ok ⟨1, 5, .halted⟩ v) ∧
      v.output = [46, 46, 46, 46, 79, 75, 10] ∧ v.vsyncs = 2) ∧
    (∃ v, ((c Code.trap).withStepsPerBatch 2).Performs none fourLeft
        ((countdown Code.trap).begun 5 s₀) (.error (.ofTrap .unreachable) v) ∧
      v.output = [46, 46, 46, 46] ∧ v.vsyncs = 3) ∧
    (∃ v, ((c (pure 0)).withStepsPerBatch 2).Performs (some 2) fourLeft
        ((countdown (pure 0)).begun 4 s₀) (.ok ⟨2, 4, .batchLimit⟩ v) ∧
      v.runState = .running) := by
  intro c s₀
  have hhalts : ∃ t, (countdown (pure 0)).EndsAt s₀ 5 (.ok false t) ∧
      t.output = [46, 46, 46, 46] ∧ t.vsyncs = 0 :=
    ⟨_, ⟨4, _, rfl, rfl, rfl, nofun⟩, by rfl, by rfl⟩
  have hfails : ∃ t, (countdown Code.trap).EndsAt s₀ 5 (.error (.ofTrap .unreachable) t) ∧
      t.output = [46, 46, 46, 46] ∧ t.vsyncs = 0 :=
    ⟨_, ⟨4, _, rfl, rfl, rfl, nofun⟩, by rfl, by rfl⟩
  have hgoes : ∃ t, (countdown (pure 0)).steps 4 s₀ = .ok true t := ⟨_, rfl⟩
  obtain ⟨t, hends, hdots, hvsyncs⟩ := hhalts
  obtain ⟨t', hends', hdots', hvsyncs'⟩ := hfails
  obtain ⟨u, hsteps⟩ := hgoes
  have hquiet : (c (pure 0)).Quiet 5 s₀ := by unfold Quiet; decide
  have hquiet' : (c Code.trap).Quiet 5 s₀ := by unfold Quiet; decide
  have hquiet₄ : (c (pure 0)).Quiet 4 s₀ := by unfold Quiet; decide
  refine ⟨?_, ?_, ?_, ?_⟩
  · obtain ⟨-, v, hrun, -, hout, hcount, -⟩ := (batching_refines_steps (c (pure 0)) 2 fourLeft).1
      (some 3) 5 t hends hquiet (by rintro m ⟨⟩; decide)
    exact ⟨v, hrun, by rw [hout, hdots]; rfl, by rw [hcount, hvsyncs]; rfl⟩
  · obtain ⟨-, v, hrun, -, hout, hcount, -⟩ := (batching_refines_steps (c (pure 0)) 5 fourLeft).1
      none 5 t hends hquiet nofun
    exact ⟨v, hrun, by rw [hout, hdots]; rfl, by rw [hcount, hvsyncs]; rfl⟩
  · obtain ⟨-, v, hrun, -, hout, hcount, -⟩ :=
      (batching_refines_steps (c Code.trap) 2 fourLeft).2.1
        none 5 _ t' hends' hquiet' nofun
    exact ⟨v, hrun, by rw [hout, hdots'], by rw [hcount, hvsyncs']; rfl⟩
  · have hlater (N : Nat) (last) (h : (countdown (pure 0)).EndsAt s₀ N last) :
        2 < N ⌈/⌉ max 2 1 := by
      have hN : 4 < N := h.lt_of_steps hsteps
      show 2 < (N + 2 - 1) / 2
      omega
    obtain ⟨-, t, v, -, hrun, -, -, hrunning⟩ :=
      (batching_refines_steps (c (pure 0)) 2 fourLeft).2.2 2 hlater hquiet₄
    exact ⟨v, hrun, hrunning⟩

end GuestBridge
