import GuestBridge.Proofs.Nesting.Moments
/-!
# Runs that record their moments

`Guest.moments` follows a run from outside: each clause of it takes the session from the interpreter
and says which moments lie inside an operation. Here the interpreter itself writes them down. The
record is kept in the private state of the guest (`Recorded`), where neither side looks at it, and
the definitions that answer a run are those of `Guest.run`, at that state. Three things are added: a
note before each operation of guest code, one before each operation of a callback, and one where an
external call has passed its checks and runs its callback.

Such a run ends as the one without a record does, and its record is `Guest.moments`. So what is
proved of the moments is proved of what the interpreter does. `Action.Records` says this of a single
action: what it adds to the record is given by a list, and the record does not change anything else.
It is kept by sequences, so each clause of the watch is checked beside the clause of the interpreter
that it follows.

## Main statements

* **`Watch.level_describes`** — the allocator and the callbacks of a guest, at every depth;
* **`Guest.run_recorded`** — one run gives both the outcome of `Guest.run` and `Guest.moments`.
-/

namespace GuestBridge

variable {ε ε' σ α β : Type}

/-! ## Records -/

/-- The private state of a guest, and a record of the run so far. -/
structure Recorded (σ : Type) where
  state : σ
  /-- How many callbacks are active. -/
  active : Nat
  moments : List (Moment σ)

namespace Session

/-- The session with a record of the run. -/
def recorded (s : Session σ) (active : Nat) (moments : List (Moment σ)) : Session (Recorded σ) :=
  { s with guest := ⟨s.guest, active, moments⟩ }

/-- The session without the record. -/
def unrecorded (s : Session (Recorded σ)) : Session σ := { s with guest := s.guest.state }

/-- Writes down what happens in this session. -/
def record (happening : Happening σ) (s : Session (Recorded σ)) : Session (Recorded σ) :=
  let moment : Moment σ := ⟨s.guest.active, s.unrecorded, happening⟩
  { s with guest := { s.guest with moments := s.guest.moments ++ [moment] } }

/-- One more callback is active. -/
def activate (s : Session (Recorded σ)) : Session (Recorded σ) :=
  { s with guest := { s.guest with active := s.guest.active + 1 } }

/-- One callback less is active. -/
def deactivate (s : Session (Recorded σ)) : Session (Recorded σ) :=
  { s with guest := { s.guest with active := s.guest.active - 1 } }

/-- A moment goes to the end of the record, with the session as it is without one. -/
theorem record_recorded (s : Session σ) (n : Nat) (log : List (Moment σ))
    (happening : Happening σ) :
    (s.recorded n log).record happening = s.recorded n (log ++ [⟨n, s, happening⟩]) := rfl

theorem arena_recorded (s : Session σ) (n : Nat) (log : List (Moment σ)) :
    (s.recorded n log).arena = s.arena := rfl

/-- What is printed does not depend on the record. -/
theorem print_recorded (s : Session σ) (n : Nat) (log : List (Moment σ)) (text : String) :
    (s.recorded n log).print text = (s.print text).recorded n log := by
  rw [print_eq, print_eq]
  rfl

theorem loadText_recorded (s : Session σ) (n : Nat) (log : List (Moment σ)) (name : String) :
    (s.recorded n log).loadText name =
      ((s.loadText name).1, (s.loadText name).2.recorded n log) := by
  -- the loader is part of the environment, which no record touches
  have henvironment : (s.recorded n log).environment = s.environment := rfl
  simp only [loadText, henvironment]
  cases s.environment.loader with
  | none => rfl
  | some load => rfl

theorem requestStop_recorded (s : Session σ) (n : Nat) (log : List (Moment σ))
    (handle : StopHandle) :
    (s.recorded n log).requestStop handle = (s.requestStop handle).recorded n log := by
  show (if s.stopRequested handle then s.recorded n log else _) = _
  unfold requestStop
  split
  · rfl
  · rfl

end Session

/-! ## The interpreter with a record -/

namespace Recorder

/-- Runs the callback of a call. Where the call passes its checks, the entry is written down, and the
callback is active from then until it ends. -/
def enter (re : Reentry (Recorded σ)) (called : Except BridgeError (ExternalFunction × List Value))
    (function : String) (body : Callback Unit) : Action BridgeError (Recorded σ) Unit :=
  match called with
  | .error _ => re.callback function body
  | .ok (f, args) => fun s =>
    Outcome.mapState Session.deactivate
      (re.callback function body (s.activate.record (.entry f args)))

/-- An external call is answered as ever, except that it enters its callback by `enter`. -/
def external (re : Reentry (Recorded σ)) (call : ExternalCall) : Action Trap (Recorded σ) Int32 :=
  fun s => HostCall.answerExternal ⟨re.malloc, enter re (call.resolve s)⟩ call s

/-- An operation of guest code is written down and answered. The private state of the guest is the
one beside the record. -/
def guest (re : Reentry (Recorded σ)) (op : Code.Op σ) :
    Action Trap (Recorded σ) (Code.Reply σ op) := fun s =>
  let noted := s.record (.guest op)
  match op with
  | .getState => .ok noted.guest.state noted
  | .setState state => .ok () { noted with guest := { noted.guest with state } }
  | .load address length => Code.answer re (.load address length) noted
  | .store address bytes => Code.answer re (.store address bytes) noted
  | .memoryPages => Code.answer re .memoryPages noted
  | .grow pages => Code.answer re (.grow pages) noted
  | .host (.external call) => external re call noted
  | .host call => HostCall.answer re call noted
  | .trap => .error .unreachable noted

/-- An operation of a callback is written down and answered. -/
def callback (re : Reentry (Recorded σ)) (function : String) (op : Callback.Op) :
    StateM (Session (Recorded σ)) (Callback.Reply op) := fun s =>
  Callback.answer re function op (s.record (.callback op))

/-- Runs guest code and writes down its moments. -/
def code (re : Reentry (Recorded σ)) (code : Code σ α) : Action Trap (Recorded σ) α :=
  Program.run (guest re) code

/-- Runs a callback and writes down its moments. -/
def body (re : Reentry (Recorded σ)) (function : String) (body : Callback Unit) :
    Action BridgeError (Recorded σ) Unit := fun s =>
  match Program.run (callback re function) body.run s with
  | (.ok (), t) => .ok () t
  | (.error e, t) => .error e t

/-- What `Reentry.level` runs, with a record. -/
def level (malloc : Int32 → Code σ Int32) : (depth : Nat) → Reentry (Recorded σ)
  | 0 => ⟨fun _ => throw .exhausted, body .exhausted⟩
  | depth + 1 => ⟨fun slots => code (level malloc depth) (malloc slots), body (level malloc depth)⟩

end Recorder

/-- Runs code of the guest, called by the host, and writes down its moments. -/
def Guest.recording (g : Guest σ) (code : Code σ α) : Action Trap (Recorded σ) α :=
  Recorder.code (Recorder.level g.entry.malloc callDepth) code

/-! ## Actions that only record -/

/-- With a record, an action does what another one does without, and adds the given moments. They may
depend on the number of active callbacks, which the action leaves as it is, and on the session in
which it starts, but not on what was recorded before. -/
def Action.Records (r : Action ε (Recorded σ) α) (moments : Nat → Session σ → List (Moment σ))
    (a : Action ε σ α) : Prop :=
  ∀ n log s, r (s.recorded n log) =
    Outcome.mapState (fun t => t.recorded n (log ++ moments n s)) (a s)

/-- With a record, an action does the same and adds nothing. -/
def Action.Silent (r : Action ε (Recorded σ) α) (a : Action ε σ α) : Prop :=
  ∀ n log s, r (s.recorded n log) = Outcome.mapState (fun t => t.recorded n log) (a s)

namespace Action

variable {r : Action ε (Recorded σ) α} {a : Action ε σ α}
  {moments : Nat → Session σ → List (Moment σ)}

/-- To be silent is to record nothing. -/
theorem Silent.records (h : Silent r a) : r.Records (fun _ _ => []) a := by
  intro n log s
  rw [List.append_nil]
  exact h n log s

/-- Nothing is added where a sequence goes on in silence. -/
theorem Records.bind_silent {r' : α → Action ε (Recorded σ) β} {a' : α → Action ε σ β}
    (h : r.Records moments a) (h' : ∀ x, Silent (r' x) (a' x)) :
    (r >>= r').Records moments (a >>= a') := by
  intro n log s
  rw [Outcome.bind_apply, Outcome.bind_apply, h n log s]
  cases a s with
  | ok x t => exact h' x n _ t
  | error e t => rfl

/-- Naming an error differently records nothing. -/
theorem Records.mapError (h : r.Records moments a) (g : ε → ε') :
    (r.mapError g).Records moments (a.mapError g) := by
  intro n log s
  unfold Action.mapError
  rw [h n log s]
  cases a s with
  | ok x t => rfl
  | error e t => rfl

/-- An error that is delivered as a value leaves the record as far as it got. -/
theorem Records.attempt (h : r.Records moments a) (n : Nat) (log : List (Moment σ))
    (s : Session σ) :
    r.attempt (s.recorded n log) =
      ((a.attempt s).1, (a.attempt s).2.recorded n (log ++ moments n s)) := by
  unfold Action.attempt
  rw [h n log s]
  cases a s with
  | ok x t => rfl
  | error e t => rfl

theorem Silent.pure (x : α) : Silent (Pure.pure x : Action ε (Recorded σ) α) (Pure.pure x) :=
  fun _ _ _ => rfl

theorem Silent.throw (e : ε) :
    Silent (MonadExcept.throw e : Action ε (Recorded σ) α) (MonadExcept.throw e) :=
  fun _ _ _ => rfl

/-- Writing to the arena is silent. -/
theorem Silent.writeMemory (p : Pointer) (bytes : List UInt8) :
    Silent (Action.writeMemory p bytes : Action BridgeError (Recorded σ) Unit)
      (Action.writeMemory p bytes) := by
  intro n log s
  simp only [Action.writeMemory, Session.arena_recorded]
  cases s.arena.write p bytes with
  | ok arena => rfl
  | error e => rfl

end Action

/-! ## Both sides of the boundary -/

/-- With a record, the way back into a guest does the same, and records what is watched. -/
structure Watch.Describes (w : Watch σ) (re : Reentry σ) (re' : Reentry (Recorded σ)) : Prop where
  malloc : ∀ slots, (re'.malloc slots).Records (fun n => w.malloc n slots) (re.malloc slots)
  callback : ∀ function body, (re'.callback function body).Records
    (fun n => w.callback n function body) (re.callback function body)

namespace Watch.Describes

variable {w : Watch σ} {re : Reentry σ} {re' : Reentry (Recorded σ)}

/-- The moments inside an allocation are those of the allocator, unless the number of slots is too
large for it. -/
theorem allocate (hw : w.Describes re re') (slots : Nat) :
    (Allocation.allocate re'.malloc slots).Records (fun n => w.allocation n slots)
      (Allocation.allocate re.malloc slots) := by
  unfold Allocation.allocate Watch.allocation
  split
  · exact (Action.Silent.throw _).records
  · refine ((hw.malloc _).mapError _).bind_silent fun raw n log s => ?_
    -- of the session, only the size of the arena is read
    have hget {τ : Type} (t : Session τ) : (get : Action BridgeError τ _) t = .ok t t := rfl
    simp only [Outcome.bind_apply, hget, Session.arena_recorded]
    cases Allocation.granted? s.arena.size slots raw with
    | some p => rfl
    | none => rfl

/-- The moments inside the allocation are all: writing the text comes after it and is silent. -/
theorem writeText (hw : w.Describes re re') (text : String) :
    (Allocation.writeText re'.malloc text).Records (fun n => w.allocation n (Slots.count text))
      (Allocation.writeText re.malloc text) := by
  refine (hw.allocate _).bind_silent fun p n log s => ?_
  rw [Outcome.bind_apply, Outcome.bind_apply, Action.Silent.writeMemory]
  cases Action.writeMemory p (Slots.encode text) s with
  | ok _ t => rfl
  | error e t => rfl

/-- An external call is recorded from its entry on. While the callback runs it counts as active, and
the record that the call hands back has the old number again. -/
theorem enter (hw : w.Describes re re') (call : ExternalCall) (n : Nat) (log : List (Moment σ))
    (s : Session σ) :
    call.run (Recorder.enter re' (call.resolve s)) (s.recorded n log) =
      Outcome.mapState (fun t => t.recorded n (log ++ w.externalCall n call s))
        (call.run re.callback s) := by
  have hresolve : call.resolve (s.recorded n log) = call.resolve s := rfl
  unfold ExternalCall.run Watch.externalCall
  rw [hresolve]
  cases call.resolve s with
  | error e =>
    -- refused, so no callback is run and nothing is added
    show _ = EStateM.Result.error e (s.recorded n (log ++ []))
    rw [List.append_nil]
  | ok request =>
    obtain ⟨f, args⟩ := request
    let entered : Session σ := { s with inExternalCall := true }
    have hrun := hw.callback f.name (f.callback args) (n + 1)
      (log ++ [⟨n + 1, entered, .entry f args⟩]) entered
    have henter : Recorder.enter re' (.ok (f, args)) f.name (f.callback args)
        (entered.recorded n log) =
          Outcome.mapState Session.deactivate (re'.callback f.name (f.callback args)
            (entered.recorded (n + 1) (log ++ [⟨n + 1, entered, .entry f args⟩]))) := rfl
    -- the entry and the moments of the callback together are what the watch lists
    rw [hrun, List.append_assoc] at henter
    show ExternalCall.guarded _ (s.recorded n log) = Outcome.mapState _ (ExternalCall.guarded _ s)
    rw [ExternalCall.guarded_eq, ExternalCall.guarded_eq]
    show Outcome.mapState _ (Recorder.enter _ _ _ _ (entered.recorded n log)) = _
    rw [henter]
    cases re.callback f.name (f.callback args) entered with
    | ok r t => rfl
    | error e t => rfl

/-- The answer of an external call does not depend on the record, as it is made from the outcome of
the callback. -/
theorem external (hw : w.Describes re re') (call : ExternalCall) :
    (Recorder.external re' call).Records (fun n => w.externalCall n call)
      (HostCall.answerExternal re call) := by
  intro n log s
  have hresolve : call.resolve (s.recorded n log) = call.resolve s := rfl
  simp only [Recorder.external, HostCall.answerExternal, hresolve, hw.enter call n log s]
  cases call.run re.callback s with
  | ok r t => rfl
  | error e t =>
    by_cases hfatal : e.isFatal = true
    · simp only [Outcome.mapState, hfatal, if_true]
    · simp only [Outcome.mapState, hfatal]
      rfl

/-- Every other import is answered by the same definition on both sides. -/
theorem hostCall (hw : w.Describes re re') (call : HostCall) (hother : ∀ c, call ≠ .external c) :
    (call.answer re').Records (fun n => w.hostCall n call) (call.answer re) := by
  cases call with
  | external call => exact absurd rfl (hother call)
  | floatToString v digits =>
    intro n log s
    simp only [HostCall.answer, HostCall.answerFloatText, hw.writeText (v.fixed digits) n log s]
    cases Allocation.writeText re.malloc (v.fixed digits) s with
    | ok p t => rfl
    | error e t => rfl
  | loadTextFile name length =>
    intro n log s
    -- The name is read from the arena, which is the same in both sessions.
    have hname : HostCall.requestedName (s.recorded n log) name length =
        HostCall.requestedName s name length := rfl
    simp only [HostCall.answer, HostCall.answerTextFile, Watch.hostCall, hname]
    cases HostCall.requestedName s name length with
    | error detail =>
      simp only [List.append_nil]
      rfl
    | ok file =>
      simp only [Session.loadText_recorded]
      cases s.loadText file with
      | mk found t =>
        cases found with
        | none =>
          simp only [List.append_nil]
          rfl
        | some text =>
          simp only [hw.writeText text n log t]
          cases Allocation.writeText re.malloc text t with
          | ok p u => rfl
          | error e u => rfl
  | printDouble v =>
    exact Action.Silent.records fun n log s =>
      congrArg (EStateM.Result.ok ()) (s.print_recorded n log _)
  | putChar _ | date | time | unary _ _ | binary _ _ _ | test _ _ | random =>
    exact Action.Silent.records fun _ _ _ => rfl

/-- An operation of guest code is recorded before it is answered. -/
theorem guestOp (hw : w.Describes re re') (op : Code.Op σ) :
    (Recorder.guest re' op).Records (fun n => w.guestOp n op) (Code.answer re op) := by
  intro n log s
  -- what lies inside the operation comes behind its own moment
  unfold Watch.guestOp
  rw [List.append_cons]
  cases op with
  | host call =>
    by_cases hexternal : ∃ c, call = .external c
    · obtain ⟨call, rfl⟩ := hexternal
      exact hw.external call n _ s
    · have hanswer := hw.hostCall call (fun c h => hexternal ⟨c, h⟩) n
        (log ++ [⟨n, s, .guest (.host call)⟩]) s
      cases call with
      | external call => exact absurd ⟨call, rfl⟩ hexternal
      | putChar _ | printDouble _ | floatToString _ _ | loadTextFile _ _ | date | time | unary _ _
      | binary _ _ _ | test _ _ | random => exact hanswer
  | load address length =>
    rw [List.append_nil]
    show (if s.arena.memory.holds address length then _ else _) = Outcome.mapState _ (ite _ _ _)
    cases s.arena.memory.holds address length with
    | true => rfl
    | false => rfl
  | store address bytes =>
    rw [List.append_nil]
    show (if s.arena.memory.holds address bytes.length then _ else _) =
      Outcome.mapState _ (ite _ _ _)
    cases s.arena.memory.holds address bytes.length with
    | true => rfl
    | false => rfl
  | grow pages =>
    simp only [List.append_nil, Recorder.guest, Code.answer, Session.record_recorded,
      Session.arena_recorded]
    cases s.arena.grow? pages with
    | some arena => rfl
    | none => rfl
  | getState | setState _ | memoryPages | trap =>
    rw [List.append_nil]
    rfl

/-- A function that a callback runs is recorded as its callback is, and without an entry. -/
theorem invoked (hw : w.Describes re re') (function : String) (id : Int32) (args : List Value) :
    (Callback.invoked re' function id args).Records
      (fun n s =>
        match s.table.get? id with
        | none => []
        | some f => w.callback n function (f.callback args) s)
      (Callback.invoked re function id args) := by
  intro n log s
  have htable : (s.recorded n log).table = s.table := rfl
  simp only [Callback.invoked, htable]
  cases s.table.get? id with
  | none =>
    simp only [List.append_nil]
    rfl
  | some f => exact hw.callback function (f.callback args) n log s

/-- An operation of a callback is recorded before it is answered, and its reply is the same. -/
theorem callbackOp (hw : w.Describes re re') (function : String) (op : Callback.Op) (n : Nat)
    (log : List (Moment σ)) (s : Session σ) :
    Recorder.callback re' function op (s.recorded n log) =
      ((Callback.answer re function op s).1,
        (Callback.answer re function op s).2.recorded n (log ++ w.callbackOp n function op s)) := by
  unfold Recorder.callback Watch.callbackOp
  rw [List.append_cons, Session.record_recorded]
  cases op with
  | allocate slots => exact (hw.allocate slots).attempt n _ s
  | allocateText text => exact (hw.writeText text).attempt n _ s
  | invoke id args => exact (hw.invoked function id args).attempt n _ s
  | print text =>
    rw [List.append_nil]
    exact congrArg (Prod.mk ()) (s.print_recorded n _ text)
  | write p bytes => exact (Action.Silent.writeMemory p bytes).records.attempt n _ s
  | loadText name =>
    rw [List.append_nil]
    exact s.loadText_recorded n _ name
  | requestStop handle =>
    rw [List.append_nil]
    exact congrArg (Prod.mk ()) (s.requestStop_recorded n _ handle)
  | readText _ _ | function | functionCount | runState | vsync | screen _ | note _ =>
    rw [List.append_nil]
    rfl

/-- The record of a program grows by what is met on the way through it. -/
theorem code (hw : w.Describes re re') (code : Code σ α) :
    (Recorder.code re' code).Records (fun n => w.code re n code) (code.exec re) := by
  -- Induction on the program: the record of an operation, and behind it that of what follows.
  induction code with
  | done r => exact (Action.Silent.pure r).records
  | perform op next ih =>
    intro n log s
    show (Recorder.guest re' op >>= fun r => Recorder.code re' (next r)) (s.recorded n log) =
      Outcome.mapState _ ((Code.answer re op >>= fun r => Code.exec re (next r)) s)
    rw [Outcome.bind_apply, Outcome.bind_apply, hw.guestOp op n log s]
    simp only [Watch.code, Program.visits]
    cases Code.answer re op s with
    | ok r t =>
      simp only [← List.append_assoc]
      exact ih r n _ t
    | error e t =>
      simp only [List.append_nil]
      rfl

/-- A callback is recorded as its program is, whether it ends with an error or not. -/
theorem body (hw : w.Describes re re') (function : String) (body : Callback Unit) :
    (Recorder.body re' function body).Records (fun n => w.body re n function body)
      (Callback.exec re function body) := by
  have hrun (p : Program Callback.Reply (Except BridgeError Unit)) (n : Nat)
      (log : List (Moment σ)) (s : Session σ) :
      p.run (Recorder.callback re' function) (s.recorded n log) =
        ((p.run (Callback.answer re function) s).1,
          (p.run (Callback.answer re function) s).2.recorded n (log ++
            p.visits (w.callbackOp n function)
              (fun op t => some (Callback.answer re function op t)) s)) := by
    -- Induction on the program, as for guest code; every operation of a callback has a reply.
    induction p generalizing log s with
    | done r =>
      rw [Program.visits, List.append_nil]
      rfl
    | perform op next ih =>
      show (next (Recorder.callback re' function op (s.recorded n log)).1).run
        (Recorder.callback re' function) (Recorder.callback re' function op (s.recorded n log)).2 = _
      rw [hw.callbackOp function op n log s, ih, List.append_assoc]
      rfl
  intro n log s
  unfold Recorder.body Callback.exec
  rw [hrun]
  cases body.run.run (Callback.answer re function) s with
  | mk r t =>
    cases r with
    | ok r => rfl
    | error e => rfl

end Watch.Describes

/-! ## Every nesting -/

/-- Where no call fits there is nothing to record. -/
theorem Watch.exhausted_describes :
    (Watch.exhausted : Watch σ).Describes .exhausted .exhausted where
  malloc _ := (Action.Silent.throw _).records
  callback _ _ := (Action.Silent.throw _).records

/-- However deeply the two sides call each other, the record is what is watched. -/
theorem Watch.level_describes (malloc : Int32 → Code σ Int32) (depth : Nat) :
    (Watch.level malloc depth).Describes (Reentry.level malloc depth)
      (Recorder.level malloc depth) := by
  -- Induction on the depth: a level runs programs, and what these reach is recorded by the level
  -- below.
  induction depth with
  | zero => exact ⟨fun _ => (Action.Silent.throw _).records, exhausted_describes.body⟩
  | succ depth ih => exact ⟨fun slots => ih.code (malloc slots), ih.body⟩

/-- **The moments of a run are those that the interpreter passes.** A run that writes down its
moments ends as the run without a record does, with the same value or error and in the same session,
and what it has written down is `Guest.moments`. -/
theorem Guest.run_recorded (g : Guest σ) (code : Code σ α) (s : Session σ) :
    g.recording code (s.recorded 0 []) =
      Outcome.mapState (fun t => t.recorded 0 (g.moments code s)) (g.run code s) :=
  (Watch.level_describes g.entry.malloc callDepth).code code 0 [] s

end GuestBridge
