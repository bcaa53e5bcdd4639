import GuestBridge.Proofs.Nesting.Moments
/-!
# Stop requests of callbacks

A callback may ask for a stop at any moment, however deep in the nesting of the two sides and
whatever happens to the guest afterwards. The request is pending when control returns to the host:
it is pending after the operation that makes it, and all that follows continues the session
(`Session.Continues`), a trap or an error included. Only the host clears requests.

The proof goes along the lists of moments, clause by clause: a moment of a program is one of an
operation, and what comes after that operation continues.

## Main statement

* **`Guest.stopRequested_of_moment`** — a request made at a moment of a run is pending after the
  run.
-/

namespace GuestBridge

variable {ε ε' σ α β : Type}

/-- A callback makes the stop request of a handle. -/
def Moment.Requests (m : Moment σ) (handle : StopHandle) : Prop :=
  m.happening = .callback (.requestStop handle)

/-- The stop request of a handle is pending after an action, whether that succeeds or not. -/
def Action.Leaves (handle : StopHandle) (a : Action ε σ α) (s : Session σ) : Prop :=
  (Outcome.state (a s)).stopRequested handle = true

namespace Action.Leaves

variable {handle : StopHandle} {s : Session σ}

/-- A request stays pending whatever follows, as long as that continues the session. -/
theorem bind {a : Action ε σ α} {f : α → Action ε σ β} (ha : Action.Leaves handle a s)
    (hf : ∀ r, Action.Continuous (f r)) : Action.Leaves handle (a >>= f) s := by
  unfold Leaves at ha ⊢
  rw [Outcome.bind_apply]
  cases h : a s with
  | ok r t =>
    rw [h] at ha
    exact (hf r t).stopRequested handle ha
  | error e t => rwa [h] at ha

/-- A request made in the later part of a sequence is pending after it. -/
theorem bind_ok {a : Action ε σ α} {f : α → Action ε σ β} {r : α} {t : Session σ}
    (ha : a s = .ok r t) (hf : Action.Leaves handle (f r) t) :
    Action.Leaves handle (a >>= f) s := by
  unfold Leaves at hf ⊢
  rwa [Outcome.bind_apply, ha]

theorem mapError {a : Action ε σ α} (ha : Action.Leaves handle a s) (g : ε → ε') :
    Action.Leaves handle (a.mapError g) s := by
  unfold Leaves
  rw [Outcome.state_renamed]
  exact ha

theorem attempt {a : Action ε σ α} (ha : Action.Leaves handle a s) :
    (a.attempt s).2.stopRequested handle = true := by
  rw [Outcome.state_attempt]
  exact ha

end Action.Leaves

/-- The requests made at the moments that are watched are pending after what is run. -/
structure Watch.Reports (w : Watch σ) (re : Reentry σ) (handle : StopHandle) : Prop where
  malloc : ∀ n slots s, ∀ m ∈ w.malloc n slots s, m.Requests handle →
    Action.Leaves handle (re.malloc slots) s
  callback : ∀ n function body s, ∀ m ∈ w.callback n function body s, m.Requests handle →
    Action.Leaves handle (re.callback function body) s

namespace Watch.Reports

variable {w : Watch σ} {re : Reentry σ} {handle : StopHandle} {n : Nat} {s : Session σ}
  {m : Moment σ}

/-- A request inside an allocation is one of the allocator, and is pending after the allocation. -/
theorem allocate (hw : w.Reports re handle) {slots : Nat} (hm : m ∈ w.allocation n slots s)
    (hasks : m.Requests handle) : Action.Leaves handle (Allocation.allocate re.malloc slots) s := by
  unfold Watch.allocation at hm
  unfold Allocation.allocate
  split at hm
  · exact absurd hm List.not_mem_nil
  · rename_i hfits
    rw [if_neg hfits]
    refine .bind ((hw.malloc _ _ _ m hm hasks).mapError _) fun raw => ?_
    refine .bind Session.Continues.refl fun t => ?_
    split
    · exact .pure _
    · exact .throw _

theorem writeText (hw : w.Reports re handle) {text : String}
    (hm : m ∈ w.allocation n (Slots.count text) s) (hasks : m.Requests handle) :
    Action.Leaves handle (Allocation.writeText re.malloc text) s :=
  .bind (hw.allocate hm hasks) fun _ =>
    .bind (Action.Within.writeMemory .continues _ _) fun _ => .pure _

/-- A request inside an external call is one of its callback. The entry itself asks for nothing. -/
theorem externalCall (hw : w.Reports re handle) {call : ExternalCall}
    (hm : m ∈ w.externalCall n call s) (hasks : m.Requests handle) :
    Action.Leaves handle (call.run re.callback) s := by
  unfold Watch.externalCall at hm
  unfold Action.Leaves ExternalCall.run
  cases hresolve : call.resolve s with
  | error e =>
    rw [hresolve] at hm
    exact absurd hm List.not_mem_nil
  | ok request =>
    obtain ⟨f, args⟩ := request
    rw [hresolve] at hm
    rcases List.mem_cons.mp hm with rfl | hm
    · cases hasks
    · -- the guard is released at the end, and the request stays
      dsimp only
      rw [ExternalCall.state_guarded]
      exact hw.callback _ _ _ _ m hm hasks

/-- A request inside an import is pending after it; a report of the import comes behind it. -/
theorem hostCall (hw : w.Reports re handle) {call : HostCall} (hm : m ∈ w.hostCall n call s)
    (hasks : m.Requests handle) : Action.Leaves handle (call.answer re) s := by
  cases call with
  | external call =>
    have hleaves := hw.externalCall hm hasks
    show (Outcome.state (HostCall.answerExternal re call s)).stopRequested handle = true
    -- Reporting a failure leaves the requests as they are.
    rcases HostCall.state_answerExternal re s call with h | ⟨failure, h⟩
    · rwa [h]
    · rwa [h]
  | floatToString v digits =>
    have hleaves := hw.writeText hm hasks
    show (Outcome.state (HostCall.answerFloatText re v digits s)).stopRequested handle = true
    rcases HostCall.state_answerFloatText re s v digits with h | ⟨failure, h⟩
    · rwa [h]
    · rwa [h]
  | loadTextFile name length =>
    simp only [Watch.hostCall] at hm
    cases hname : HostCall.requestedName s name length with
    | error detail =>
      rw [hname] at hm
      exact absurd hm List.not_mem_nil
    | ok file =>
      rw [hname] at hm
      cases hfound : s.loadText file with
      | mk found t =>
        simp only [hfound] at hm
        cases found with
        | none => exact absurd hm List.not_mem_nil
        | some text =>
          show (Outcome.state (HostCall.answerTextFile re name length s)).stopRequested handle = true
          -- The moments are those of placing the text that was loaded.
          rw [HostCall.state_answerTextFile re hname hfound]
          exact hw.writeText hm hasks
  | putChar _ | printDouble _ | date | time | unary _ _ | binary _ _ _ | test _ _ | random =>
    exact absurd hm List.not_mem_nil

/-- Guest code itself asks for nothing, but an import of it may. -/
theorem guestOp (hw : w.Reports re handle) {op : Code.Op σ} (hm : m ∈ w.guestOp n op s)
    (hasks : m.Requests handle) : Action.Leaves handle (Code.answer re op) s := by
  rcases List.mem_cons.mp hm with rfl | hm
  · cases hasks
  · cases op with
    | host call => exact hw.hostCall hm hasks
    | getState | setState _ | load _ _ | store _ _ | memoryPages | grow _ | trap =>
      exact absurd hm List.not_mem_nil

/-- An operation of a callback is the request, or has it inside. -/
theorem callbackOp (hw : w.Reports re handle) {function : String} {op : Callback.Op}
    (hm : m ∈ w.callbackOp n function op s) (hasks : m.Requests handle) :
    (Callback.answer re function op s).2.stopRequested handle = true := by
  rcases List.mem_cons.mp hm with rfl | hm
  · -- the moment of the request itself
    cases hasks
    show (s.requestStop handle).stopRequested handle = true
    rw [Session.stopRequested_requestStop, beq_self_eq_true, Bool.true_or]
  · cases op with
    | allocate slots => exact (hw.allocate hm hasks).attempt
    | allocateText text => exact (hw.writeText hm hasks).attempt
    | invoke id args =>
      apply Action.Leaves.attempt
      simp only at hm
      unfold Action.Leaves Callback.invoked
      cases hget : s.table.get? id with
      | none =>
        rw [hget] at hm
        exact absurd hm List.not_mem_nil
      | some f =>
        rw [hget] at hm
        exact hw.callback _ _ _ _ m hm hasks
    | print _ | readText _ _ | write _ _ | function | functionCount | runState | vsync
    | loadText _ | requestStop _ | screen _ | note _ => exact absurd hm List.not_mem_nil

/-- A request in guest code is pending when the code ends. -/
theorem code (hw : w.Reports re handle) (hre : re.Continuous) {code : Code σ α}
    (hm : m ∈ w.code re n code s) (hasks : m.Requests handle) :
    Action.Leaves handle (code.exec re) s := by
  -- Induction on the program: the moment is one of the first operation, or comes after it.
  induction code generalizing s with
  | done r => exact absurd hm List.not_mem_nil
  | perform op next ih =>
    rw [Watch.code, Program.visits] at hm
    rcases List.mem_append.mp hm with hm | hm
    · exact .bind (hw.guestOp hm hasks) fun r => Code.exec_continuous hre (next r)
    · cases h : Code.answer re op s with
      | ok r t =>
        rw [h] at hm
        exact .bind_ok h (ih r hm)
      | error e t =>
        rw [h] at hm
        exact absurd hm List.not_mem_nil

/-- A request in a callback is pending when the callback ends. -/
theorem body (hw : w.Reports re handle) (hre : re.Continuous) {function : String}
    {body : Callback Unit} (hm : m ∈ w.body re n function body s) (hasks : m.Requests handle) :
    Action.Leaves handle (Callback.exec re function body) s := by
  -- Induction on the program of the callback, as for guest code.
  have hrun (p : Program Callback.Reply (Except BridgeError Unit)) (t : Session σ)
      (hm : m ∈ p.visits (w.callbackOp n function)
        (fun op u => some (Callback.answer re function op u)) t) :
      (p.run (Callback.answer re function) t).2.stopRequested handle = true := by
    induction p generalizing t with
    | done r => exact absurd hm List.not_mem_nil
    | perform op next ih =>
      rcases List.mem_append.mp hm with hm | hm
      · exact (Callback.run_continues hre function (next _) _).stopRequested handle
          (hw.callbackOp hm hasks)
      · exact ih _ _ hm
  unfold Action.Leaves
  rw [Callback.state_exec]
  exact hrun body.run s hm

end Watch.Reports

/-- However deep in the nesting a request is made, it is pending when control comes back. -/
theorem Watch.level_reports (malloc : Int32 → Code σ Int32) (handle : StopHandle) (depth : Nat) :
    (Watch.level malloc depth).Reports (Reentry.level malloc depth) handle := by
  -- Induction on the depth: the moments of a level are those of programs, and what these reach is
  -- reported by the level below.
  induction depth with
  | zero =>
    have hexhausted : (Watch.exhausted : Watch σ).Reports .exhausted handle :=
      ⟨fun _ _ _ _ hm => absurd hm List.not_mem_nil, fun _ _ _ _ _ hm => absurd hm List.not_mem_nil⟩
    exact ⟨fun _ _ _ _ hm => absurd hm List.not_mem_nil,
      fun _ _ _ _ _ hm hasks => hexhausted.body Reentry.exhausted_continuous hm hasks⟩
  | succ depth ih =>
    have hre := Reentry.level_continuous malloc depth
    exact ⟨fun _ _ _ _ hm hasks => ih.code hre hm hasks,
      fun _ _ _ _ _ hm hasks => ih.body hre hm hasks⟩

/-- A stop request that a callback makes at any moment of a run is pending after the run, whether
that succeeds or not. -/
theorem Guest.stopRequested_of_moment (g : Guest σ) {handle : StopHandle} {code : Code σ α}
    {s : Session σ} {m : Moment σ} (hm : m ∈ g.moments code s) (hasks : m.Requests handle) :
    Action.Leaves handle (g.run code) s :=
  (Watch.level_reports g.entry.malloc handle callDepth).code
    (Reentry.level_continuous g.entry.malloc callDepth) hm hasks

end GuestBridge
