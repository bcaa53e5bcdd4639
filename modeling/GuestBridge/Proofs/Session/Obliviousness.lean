import GuestBridge.Proofs.Session.Disguise
/-!
# Nothing reads the trace

The trace is what the outside sees of a session; guest code and callbacks write to it and never
read it. So what they do after some past is what they do without it: an action is oblivious when it
commutes with `Session.after`, which puts a past in front of the trace. A past is a disguise in
which no stop request is ignored, so guest code and callbacks are oblivious at every depth.

## Main statements

* **`Reentry.level_oblivious`** — the allocator and the callbacks of a guest, at every depth;
* **`Guest.executeOneStep_oblivious`** — a step of the guest's program;
* **`Action.Oblivious.eq_after_bare`** — an oblivious action is determined by what it does with an
  empty trace.
-/

namespace GuestBridge

variable {ε ε' σ α β : Type}

namespace Session

/-- The session with a past in front of its trace. -/
def after (s : Session σ) (past : Array Event) : Session σ := { s with trace := past ++ s.trace }

/-- The session without its trace. -/
def bare (s : Session σ) : Session σ := { s with trace := #[] }

/-- The trace of a session is a past of the session without it. -/
theorem eq_bare_after (s : Session σ) : s = s.bare.after s.trace := by
  simp only [after, bare, Array.append_empty]

theorem emit_after (s : Session σ) (past : Array Event) (e : Event) :
    (s.after past).emit e = (s.emit e).after past := by
  simp only [emit, after, Array.push_append]

theorem requestStop_after (s : Session σ) (past : Array Event) (handle : StopHandle) :
    (s.after past).requestStop handle = (s.requestStop handle).after past := by
  unfold requestStop
  rw [show (s.after past).stopRequested handle = s.stopRequested handle from rfl]
  split <;> rfl

end Session

/-- A past is not noticed. -/
def Disguise.past (past : Array Event) : Disguise σ where
  wear s := s.after past
  ignores _ := false
  environment _ := rfl
  arena _ := rfl
  inExternalCall _ := rfl
  runState _ := rfl
  draws _ := rfl
  guest _ := rfl
  size _ := rfl
  get? s id := by
    simp only [ExternalFunction.ignoring_none, Option.map_id']
    rfl
  emit s e := s.emit_after past e
  setArena _ _ := rfl
  setInExternalCall _ _ := rfl
  changeRunState _ _ := rfl
  setDraws _ _ := rfl
  setGuest _ _ := rfl
  requestStop s handle _ := s.requestStop_after past handle
  ignore _ _ := nofun

/-! ## Actions -/

/-- An action that does the same after any past. -/
def Action.Oblivious (a : Action ε σ α) : Prop :=
  ∀ (s : Session σ) (past : Array Event), a (s.after past) = Outcome.mapState (·.after past) (a s)

namespace Action.Oblivious

/-- An action that no past affects is oblivious. -/
theorem of_unaffected {a : Action ε σ α} (ha : ∀ past, Action.Unaffected (.past past) a) :
    Action.Oblivious a :=
  fun s past => ha past s

/-- An oblivious action is determined by what it does with an empty trace. -/
theorem eq_after_bare {a : Action ε σ α} (ha : Action.Oblivious a) (s : Session σ) :
    a s = Outcome.mapState (·.after s.trace) (a s.bare) := by
  have hs := ha s.bare s.trace
  rwa [← s.eq_bare_after] at hs

theorem bind {a : Action ε σ α} {f : α → Action ε σ β} (ha : Action.Oblivious a)
    (hf : ∀ r, Action.Oblivious (f r)) : Action.Oblivious (a >>= f) :=
  of_unaffected fun past => .bind (fun s => ha s past) fun r s => hf r s past

theorem pure (r : α) : Action.Oblivious (Pure.pure r : Action ε σ α) := fun _ _ => rfl

end Action.Oblivious

/-! ## Every nesting -/

/-- The way back into a guest is oblivious. -/
structure Reentry.Oblivious (re : Reentry σ) : Prop where
  malloc : ∀ slots, Action.Oblivious (re.malloc slots)
  callback : ∀ function body, Action.Oblivious (re.callback function body)

/-- Allocator and callbacks never read the trace, however deeply the two sides call each other. -/
theorem Reentry.level_oblivious (malloc : Int32 → Code σ Int32) (depth : Nat) :
    (Reentry.level malloc depth).Oblivious where
  malloc slots := .of_unaffected fun past => (level_unaffected (.past past) malloc depth).malloc slots
  callback function body s past := by
    -- A past ignores no request, so the callback is the one that was registered.
    have hs := (level_unaffected (.past past) malloc depth).callback function body s
    rwa [show (Disguise.past past : Disguise σ).ignores = fun _ => false from rfl,
      Callback.ignoring_none] at hs

/-- A step of the guest's program never reads the trace. -/
theorem Guest.executeOneStep_oblivious (g : Guest σ) : Action.Oblivious g.executeOneStep :=
  .of_unaffected fun past => g.executeOneStep_unaffected (.past past)

end GuestBridge
