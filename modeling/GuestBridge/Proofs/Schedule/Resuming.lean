import GuestBridge.Proofs.Schedule.Stopping
/-!
# Resuming a run that a limit ended

A limit ends a run between two batches and leaves the session running. The next run finds it
running, so its start changes nothing, and it goes on with the batch that would have come next. Its
counters begin at zero again: `runBatches_followedBy` says that this is all the difference.

Both runs are compared as outcomes, with the whole session they leave. A stop that is requested in
the last batch before the cut, a batch that halts or fails right behind it, and limits of zero are
no cases of their own.

## Main statement

* **`resumed_run_eq`** — two runs with a cut between them are the single run.
-/

namespace GuestBridge

variable {ε σ α β : Type}

namespace Outcome

/-- Changes the value that an outcome has, if it has one. -/
def mapValue (f : α → β) : EStateM.Result ε σ α → EStateM.Result ε σ β
  | .ok a s => .ok (f a) s
  | .error e s => .error e s

theorem map_apply (f : α → β) (x : EStateM ε σ α) (s : σ) : (f <$> x) s = mapValue f (x s) := by
  show (x >>= fun a => pure (f a)) s = _
  rw [bind_apply]
  cases x s with
  | ok a t => rfl
  | error e t => rfl

/-- Outcomes can be told apart if their values can. -/
theorem mapValue_injective {f : α → β} (hf : Function.Injective f) :
    Function.Injective (mapValue f : EStateM.Result ε σ α → EStateM.Result ε σ β) := by
  intro x y h
  cases x <;> cases y <;> simp only [mapValue, EStateM.Result.ok.injEq,
    EStateM.Result.error.injEq, reduceCtorEq] at h
  · rw [hf h.1, h.2]
  · rw [h.1, h.2]

end Outcome

open Outcome (mapValue)

/-- The summary of a run whose second part goes on where a limit ended the first. -/
def RunSummary.followedBy (first second : RunSummary) : RunSummary :=
  ⟨first.batches + second.batches, first.steps + second.steps, second.outcome⟩

/-- The second summary can be told from the whole. -/
theorem RunSummary.followedBy_injective (first : RunSummary) :
    Function.Injective first.followedBy := by
  intro a b h
  obtain ⟨hbatches, hsteps, houtcome⟩ := RunSummary.mk.inj h
  cases a
  cases b
  simp only [RunSummary.mk.injEq]
  exact ⟨by simpa using hbatches, by simpa using hsteps, houtcome⟩

namespace Scheduler

variable {c : Scheduler σ} {s t : Session σ}

/-! ## Behind the cut -/

/-- The counters with which batches begin are added to the summary, and matter for nothing else. -/
theorem runBatches_followedBy (first : RunSummary) (limit batches steps : Nat) (s : Session σ) :
    c.runBatches limit (first.batches + batches) (first.steps + steps) s =
      mapValue first.followedBy (c.runBatches limit batches steps s) := by
  induction limit generalizing batches steps s with
  | zero => rfl
  | succ limit ih =>
    simp only [runBatches]
    -- each batch adds to the counters what it would add to smaller ones
    cases c.runBatch s with
    | error e t => rfl
    | ok outcome t =>
      cases outcome with
      | yielded n =>
        have hrest := ih (batches + 1) (steps + n) t
        rwa [← Nat.add_assoc, ← Nat.add_assoc] at hrest
      | halted n => simp only [mapValue, RunSummary.followedBy, Nat.add_assoc]
      | stopped => rfl

/-- The batches behind the cut call the step function in the sessions in which those of the single
run do. -/
theorem calls_add {m batches steps batches' steps' : Nat}
    (h : c.runBatches m batches steps s = .ok ⟨batches', steps', .batchLimit⟩ t) (k : Nat) :
    c.calls (m + k) s = c.calls m s ++ c.calls k t := by
  induction m generalizing s batches steps with
  | zero =>
    cases h
    rw [Nat.zero_add]
    rfl
  | succ m ih =>
    obtain ⟨n, u, hfirst, hrest⟩ := runBatches_succ_eq_batchLimit_iff.mp h
    rw [Nat.add_right_comm]
    simp only [calls, hfirst]
    rw [ih hrest, List.append_assoc]

/-! ## The two runs -/

section Cut

variable {m : Nat} {first : RunSummary}

/-- Where a limit ends a run, the session is still running. -/
theorem running_of_cut (hrun : c.runUntil m s = .ok first t)
    (hlimit : first.outcome = .batchLimit) : t.runState = .running := by
  obtain ⟨batches, steps, outcome⟩ := first
  cases hlimit
  exact running_of_batchLimit hrun (runState_started c s)

/-- A run with the added limit is the first run, and then the second one with the counters added. -/
theorem runUntil_resumed (hrun : c.runUntil m s = .ok first t)
    (hlimit : first.outcome = .batchLimit) (k : Nat) :
    c.runUntil (m + k) s = (first.followedBy <$> c.runUntil k) t := by
  have hstarted : c.started t = t := started_of_running (running_of_cut hrun hlimit)
  obtain ⟨batches, steps, outcome⟩ := first
  cases hlimit
  rw [Outcome.map_apply, runUntil_apply, runUntil_apply, hstarted]
  calc c.runBatches (m + k) 0 0 (c.started s)
      = c.runBatches k batches steps t := runBatches_add hrun k
    _ = _ := runBatches_followedBy ⟨batches, steps, .batchLimit⟩ k 0 0 t

/-- A run without a limit goes on from where a limited one stopped, whatever number of batches it
may take. -/
theorem run_resumed (hrun : c.runUntil m s = .ok first t)
    (hlimit : first.outcome = .batchLimit) (fuel : Nat) :
    c.run (m + fuel) s = (Option.map first.followedBy <$> c.run fuel) t := by
  rw [Outcome.map_apply, run_apply, run_apply, runUntil_resumed hrun hlimit fuel,
    Outcome.map_apply]
  cases c.runUntil fuel t with
  | error e u => rfl
  | ok second u =>
    -- the single run is out of fuel exactly when the resumed one is
    by_cases houtcome : second.outcome = .batchLimit
    · simp [mapValue, RunSummary.followedBy, houtcome]
    · simp [mapValue, RunSummary.followedBy, houtcome]

/-- The steps of the single run begin where those of the two runs begin. -/
theorem calls_resumed (hrun : c.runUntil m s = .ok first t)
    (hlimit : first.outcome = .batchLimit) (k : Nat) :
    c.calls (m + k) (c.started s) = c.calls m (c.started s) ++ c.calls k (c.started t) := by
  rw [started_of_running (running_of_cut hrun hlimit)]
  obtain ⟨batches, steps, outcome⟩ := first
  cases hlimit
  exact calls_add hrun k

end Cut

/-- A run without a limit ends in `r` if it does so for all numbers of batches from some on. -/
theorem performs_none_iff {begun : List (Session σ)}
    {r : EStateM.Result RuntimeError (Session σ) RunSummary} :
    c.Performs none s begun r ↔ ∃ bound, ∀ fuel ≥ bound,
      (c.calls fuel (c.started s)).map Session.bare = begun.map Session.bare ∧
      c.run fuel s = mapValue some r := by
  cases r with
  | ok summary t => exact Iff.rfl
  | error e t => exact Iff.rfl

end Scheduler

open Scheduler

/-- **A run can be cut by a limit without a trace.** For every guest, batch size and session: let a
run with the limit `m` end because of its limit. Then the session is running, and a start of it does
nothing. The next run, with any limit or with none, does what is left of the single run with the
added limit:

* it has the same outcome or error and leaves the same session, its trace included, and the batches
  and steps of the two summaries add up to those of the single run;
* a run without a limit that may take some batches gets as far as the single run that may take `m`
  more, so either both end, and in the same way, or both go on;
* the steps before the cut, followed by those behind it, begin in the sessions in which the steps of
  the single run begin. -/
theorem resumed_run_eq {σ : Type} (c : Scheduler σ) {m : Nat} {s t : Session σ}
    {first : RunSummary} (hrun : c.runUntil m s = .ok first t)
    (hlimit : first.outcome = .batchLimit) :
    t.runState = .running ∧
    (c.start : Action RuntimeError σ Unit) t = .ok () t ∧
    (∀ k, c.runUntil (m + k) s = (first.followedBy <$> c.runUntil k) t) ∧
    (∀ fuel, c.run (m + fuel) s = (Option.map first.followedBy <$> c.run fuel) t) ∧
    ∀ (limit : Option Nat) begun r,
      c.Performs (limit.map (m + ·)) s (c.calls m (c.started s) ++ begun)
          (mapValue first.followedBy r) ↔
        c.Performs limit t begun r := by
  have hrunning := running_of_cut hrun hlimit
  have hcalls (k : Nat) (begun : List (Session σ)) :
      (c.calls (m + k) (c.started s)).map Session.bare =
          (c.calls m (c.started s) ++ begun).map Session.bare ↔
        (c.calls k (c.started t)).map Session.bare = begun.map Session.bare := by
    rw [calls_resumed hrun hlimit, List.map_append, List.map_append, List.append_cancel_left_eq]
  refine ⟨hrunning, congrArg (EStateM.Result.ok ()) (started_of_running hrunning),
    runUntil_resumed hrun hlimit, run_resumed hrun hlimit, fun limit begun r => ?_⟩
  cases limit with
  | some k =>
    show (_ ∧ c.runUntil (m + k) s = _) ↔ (_ ∧ c.runUntil k t = r)
    rw [hcalls, runUntil_resumed hrun hlimit, Outcome.map_apply,
      (Outcome.mapValue_injective first.followedBy_injective).eq_iff]
  | none =>
    have hsome : mapValue some (mapValue first.followedBy r) =
        mapValue (Option.map first.followedBy) (mapValue some r) := by
      cases r with
      | ok summary u => rfl
      | error e u => rfl
    -- what may take `fuel` batches behind the cut may take `m` more before it
    have hends (fuel : Nat) :
        ((c.calls (m + fuel) (c.started s)).map Session.bare =
            (c.calls m (c.started s) ++ begun).map Session.bare ∧
          c.run (m + fuel) s = mapValue some (mapValue first.followedBy r)) ↔
        ((c.calls fuel (c.started t)).map Session.bare = begun.map Session.bare ∧
          c.run fuel t = mapValue some r) := by
      rw [hcalls, hsome, run_resumed hrun hlimit, Outcome.map_apply,
        (Outcome.mapValue_injective (Option.map_injective first.followedBy_injective)).eq_iff]
    rw [Option.map_none, performs_none_iff, performs_none_iff]
    constructor
    · rintro ⟨bound, hbound⟩
      exact ⟨bound, fun fuel hfuel => (hends fuel).mp (hbound (m + fuel) (by omega))⟩
    · rintro ⟨bound, hbound⟩
      refine ⟨m + bound, fun fuel hfuel => ?_⟩
      obtain ⟨extra, rfl⟩ := Nat.exists_eq_add_of_le (show m ≤ fuel by omega)
      exact (hends extra).mpr (hbound extra (by omega))

/-- Four numbers are counted down in batches of two steps, with a cut behind the first batch: the
run that goes on without a limit halts in two batches, and the single run in three. The other guest
asks for a stop in the batch before the cut, and the resumed run observes it. -/
theorem resumed_run_eq_countdown :
    let c : Scheduler Nat := ⟨countdown (pure 0), 2, 0, ⟨0⟩⟩
    let d : Scheduler Unit := ⟨tireless, 2, 0, ⟨0⟩⟩
    let s := tirelessSession.setRunState .stopped
    (∃ t, c.runUntil 1 fourLeft = .ok ⟨1, 2, .batchLimit⟩ t ∧
      ∃ u, c.run 2 t = .ok (some ⟨2, 3, .halted⟩) u ∧
        c.run 3 fourLeft = .ok (some ⟨3, 5, .halted⟩) u) ∧
    (∃ t, d.runUntil 1 s = .ok ⟨1, 2, .batchLimit⟩ t ∧
      ∃ u, d.runUntil 1 t = .ok ⟨0, 0, .stopped⟩ u ∧
        d.runUntil 2 s = .ok ⟨1, 2, .stopped⟩ u) := by
  intro c d s
  have hfirst : ∃ t, c.runUntil 1 fourLeft = .ok ⟨1, 2, .batchLimit⟩ t ∧
      ∃ u, c.run 2 t = .ok (some ⟨2, 3, .halted⟩) u := ⟨_, rfl, _, rfl⟩
  have hasked : ∃ t, d.runUntil 1 s = .ok ⟨1, 2, .batchLimit⟩ t ∧
      ∃ u, d.runUntil 1 t = .ok ⟨0, 0, .stopped⟩ u := ⟨_, rfl, _, rfl⟩
  refine ⟨?_, ?_⟩
  · obtain ⟨t, hrun, u, hrest⟩ := hfirst
    obtain ⟨-, -, -, hresumed, -⟩ := resumed_run_eq c hrun rfl
    refine ⟨t, hrun, u, hrest, ?_⟩
    rw [show 3 = 1 + 2 from rfl, hresumed, Outcome.map_apply, hrest]
    rfl
  · obtain ⟨t, hrun, u, hrest⟩ := hasked
    obtain ⟨-, -, hresumed, -⟩ := resumed_run_eq d hrun rfl
    refine ⟨t, hrun, u, hrest, ?_⟩
    rw [show 2 = 1 + 1 from rfl, hresumed, Outcome.map_apply, hrest]
    rfl

end GuestBridge
