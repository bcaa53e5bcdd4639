import GuestBridge.Proofs.Session.Stability
/-!
# What guest code and callbacks leave alone

While the host waits for its guest, guest code and callbacks change the arena, the guest's own state
and the trace, and they may ask for a stop. Everything else of the session belongs to the host:
`Session.Continues` lists it. The relation is stable, so it holds across every program of operations
and every nesting of the two sides. A guarded part begins with the guard released, and ends so; that
is why releasing the guard restores what was there.

## Main statements

* **`Reentry.level_continuous`** — the allocator and the callbacks of a guest, at every depth;
* **`Guest.run_continuous`** — every call of guest code by the host.
-/

namespace GuestBridge

variable {ε ε' σ α β : Type}

/-- The session `t` comes from `s` without a change to what belongs to the host. A pending stop
request stays pending. -/
structure Session.Continues (s t : Session σ) : Prop where
  environment : t.environment = s.environment
  table : t.table = s.table
  inExternalCall : t.inExternalCall = s.inExternalCall
  runState : t.runState = s.runState
  handles : t.handles = s.handles
  stopRequested : ∀ h, s.stopRequested h = true → t.stopRequested h = true

namespace Session.Continues

variable {s t u : Session σ}

theorem refl (s : Session σ) : s.Continues s := ⟨rfl, rfl, rfl, rfl, rfl, fun _ h => h⟩

theorem trans (hst : s.Continues t) (htu : t.Continues u) : s.Continues u where
  environment := htu.environment.trans hst.environment
  table := htu.table.trans hst.table
  inExternalCall := htu.inExternalCall.trans hst.inExternalCall
  runState := htu.runState.trans hst.runState
  handles := htu.handles.trans hst.handles
  stopRequested h hs := htu.stopRequested h (hst.stopRequested h hs)

theorem emit (s : Session σ) (e : Event) : s.Continues (s.emit e) :=
  ⟨rfl, rfl, rfl, rfl, rfl, fun _ h => h⟩

/-- A request of one handle keeps the requests of all handles pending. -/
theorem requestStop (s : Session σ) (handle : StopHandle) : s.Continues (s.requestStop handle) := by
  have hstop (h : StopHandle) (hs : s.stopRequested h = true) :
      (s.requestStop handle).stopRequested h = true := by
    rw [Session.stopRequested_requestStop, hs, Bool.or_true]
  unfold Session.requestStop at hstop ⊢
  -- A request that is already pending is not recorded a second time.
  by_cases hpending : s.stopRequested handle = true
  · rw [if_pos hpending]
    exact refl s
  · rw [if_neg hpending] at hstop ⊢
    exact ⟨rfl, rfl, rfl, rfl, rfl, hstop⟩

end Session.Continues

/-- Guest code and callbacks have no operation that reaches what belongs to the host. The guard of
external calls is the exception, and a guarded part puts it back. -/
theorem Session.Stable.continues :
    Session.Stable (Session.Continues : Session σ → Session σ → Prop) where
  refl := .refl
  trans := .trans
  emit s e _ := .emit s e
  requestStop := .requestStop
  write _ _ _ := ⟨rfl, rfl, rfl, rfl, rfl, fun _ h => h⟩
  grow _ := ⟨rfl, rfl, rfl, rfl, rfl, fun _ h => h⟩
  setGuest _ _ := ⟨rfl, rfl, rfl, rfl, rfl, fun _ h => h⟩
  setDraws _ _ := ⟨rfl, rfl, rfl, rfl, rfl, fun _ h => h⟩
  -- The guard was released before the guarded part, by `hidle`.
  guarded hidle hst := { hst with inExternalCall := hidle.symm }

theorem Session.Continues.print (s : Session σ) (text : String) : s.Continues (s.print text) :=
  Session.Stable.continues.print s text

theorem Session.Continues.loadText (s : Session σ) (name : String) :
    s.Continues (s.loadText name).2 :=
  Session.Stable.continues.loadText s name

/-! ## Actions -/

/-- An action leaves alone what belongs to the host, whether it succeeds or not. -/
def Action.Continuous (a : Action ε σ α) : Prop :=
  ∀ s : Session σ, s.Continues (Outcome.state (a s))

namespace Action.Continuous

theorem bind {a : Action ε σ α} {f : α → Action ε σ β} (ha : Action.Continuous a)
    (hf : ∀ r, Action.Continuous (f r)) : Action.Continuous (a >>= f) :=
  Action.Within.bind .continues ha hf

theorem pure (r : α) : Action.Continuous (Pure.pure r : Action ε σ α) := Session.Continues.refl

theorem throw (e : ε) : Action.Continuous (throw e : Action ε σ α) := Session.Continues.refl

theorem mapError {a : Action ε σ α} (ha : Action.Continuous a) (g : ε → ε') :
    Action.Continuous (a.mapError g) :=
  Action.Within.mapError ha g

end Action.Continuous

/-! ## Both sides of the boundary -/

/-- The way back into a guest is continuous. -/
structure Reentry.Continuous (re : Reentry σ) : Prop where
  malloc : ∀ slots, Action.Continuous (re.malloc slots)
  callback : ∀ function body, Action.Continuous (re.callback function body)

section Nesting

variable {re : Reentry σ} (hre : re.Continuous)
include hre

/-- Continuity is the case of the stable relation `Session.Continues`. -/
theorem Reentry.Continuous.within : re.Within Session.Continues := ⟨hre.malloc, hre.callback⟩

/-- One operation of a callback leaves alone what belongs to the host. -/
theorem Callback.answer_continues (function : String) (op : Callback.Op) (s : Session σ) :
    s.Continues (Callback.answer re function op s).2 :=
  Callback.answer_within .continues hre.within function op s

theorem Callback.run_continues (function : String) (p : Program Callback.Reply α)
    (s : Session σ) : s.Continues (p.run (Callback.answer re function) s).2 :=
  Callback.run_within .continues hre.within function p s

/-- Every call of the host by the guest leaves alone what belongs to the host, external calls
included. -/
theorem HostCall.answer_continuous (call : HostCall) : Action.Continuous (call.answer re) :=
  HostCall.answer_within .continues hre.within call

theorem Code.answer_continuous (op : Code.Op σ) : Action.Continuous (Code.answer re op) :=
  Code.answer_within .continues hre.within op

theorem Code.exec_continuous (code : Code σ α) : Action.Continuous (code.exec re) :=
  Code.exec_within .continues hre.within code

end Nesting

/-! ## Every nesting -/

theorem Reentry.exhausted_continuous : (Reentry.exhausted : Reentry σ).Continuous where
  malloc _ := .throw _
  callback _ _ := .throw _

/-- Allocator and callbacks leave alone what belongs to the host, however deeply the two sides call
each other. -/
theorem Reentry.level_continuous (malloc : Int32 → Code σ Int32) (depth : Nat) :
    (Reentry.level malloc depth).Continuous :=
  have hlevel := Reentry.level_within (R := Session.Continues) .continues malloc depth
  ⟨hlevel.malloc, hlevel.callback⟩

/-- However the guest ends, in a trap or not, the host finds its own part of the session as it was
left. -/
theorem Guest.run_continuous (g : Guest σ) (code : Code σ α) : Action.Continuous (g.run code) :=
  g.run_within .continues code

end GuestBridge
