import GuestBridge.Guest.Basic
import GuestBridge.Proofs.Outcome
/-!
# Changes of a session that its guest does not notice

Guest code and callbacks see little of a session. A disguise is a change of sessions that they
cannot tell: what they read is the same, and the change commutes with everything that they write.
In a disguise, requests of some stop handles may be ignored; then the registered callbacks leave
them out.

An action is unaffected by a disguise when it commutes with it. Like continuity, this is kept by
programs of operations (induction on the program) and by every nesting of the two sides (induction
on the depth of `Reentry.level`). A callback is run in the disguise without the requests that are
ignored there; that is the one place where the two runs differ.

## Main statements

* **`Reentry.level_unaffected`** — the allocator and the callbacks of a guest, at every depth;
* **`Guest.run_unaffected`** — every call of guest code by the host.
-/

namespace GuestBridge

variable {ε ε' σ α β : Type}

/-! ## Callbacks without their stop requests -/

namespace Program

variable {Op : Type} {Reply : Op → Type} {skip? : (op : Op) → Option (Reply op)}

/-- Leaves out the operations whose reply is given by `skip?`. -/
def skipping (skip? : (op : Op) → Option (Reply op)) : Program Reply α → Program Reply α
  | done a => done a
  | perform op next =>
    match skip? op with
    | some r => (next r).skipping skip?
    | none => perform op fun r => (next r).skipping skip?

theorem skipping_of_none (h : ∀ op, skip? op = none) (p : Program Reply α) :
    p.skipping skip? = p := by
  induction p with
  | done a => rfl
  | perform op next ih =>
    rw [skipping, h op]
    simp only [ih]

end Program

namespace Callback

/-- The reply of a stop request that is ignored. -/
def ignored? (ignores : StopHandle → Bool) : (op : Op) → Option (Reply op)
  | .requestStop handle => if ignores handle then some () else none
  | _ => none

/-- The callback without the stop requests that are ignored. -/
def ignoring (ignores : StopHandle → Bool) (body : Callback α) : Callback α :=
  ExceptT.mk (body.run.skipping (ignored? ignores))

/-- Where no request is ignored, the callback is left as it is. -/
theorem ignoring_none (body : Callback α) : body.ignoring (fun _ => false) = body := by
  refine Program.skipping_of_none (fun op => ?_) body.run
  cases op <;> rfl

end Callback

/-- The function with the callback that leaves out stop requests. -/
def ExternalFunction.ignoring (ignores : StopHandle → Bool) (f : ExternalFunction) :
    ExternalFunction :=
  { f with callback := fun args => (f.callback args).ignoring ignores }

theorem ExternalFunction.ignoring_none (f : ExternalFunction) :
    f.ignoring (fun _ => false) = f := by
  simp only [ignoring, Callback.ignoring_none]

/-! ## Disguises -/

/-- A change of sessions that guest code and callbacks cannot tell. -/
structure Disguise (σ : Type) where
  /-- The session in disguise. -/
  wear : Session σ → Session σ
  /-- The stop handles whose requests are ignored in disguise. -/
  ignores : StopHandle → Bool
  environment : ∀ s, (wear s).environment = s.environment
  arena : ∀ s, (wear s).arena = s.arena
  inExternalCall : ∀ s, (wear s).inExternalCall = s.inExternalCall
  runState : ∀ s, (wear s).runState = s.runState
  draws : ∀ s, (wear s).draws = s.draws
  guest : ∀ s, (wear s).guest = s.guest
  size : ∀ s, (wear s).table.size = s.table.size
  get? : ∀ s id, (wear s).table.get? id = (s.table.get? id).map (·.ignoring ignores)
  emit : ∀ s e, (wear s).emit e = wear (s.emit e)
  setArena : ∀ s arena, { wear s with arena } = wear { s with arena }
  setInExternalCall : ∀ s inExternalCall,
    { wear s with inExternalCall } = wear { s with inExternalCall }
  changeRunState : ∀ s runState, { wear s with runState } = wear { s with runState }
  setDraws : ∀ s draws, { wear s with draws } = wear { s with draws }
  setGuest : ∀ s guest, { wear s with guest } = wear { s with guest }
  requestStop : ∀ s handle, ignores handle = false →
    (wear s).requestStop handle = wear (s.requestStop handle)
  ignore : ∀ s handle, ignores handle = true → wear (s.requestStop handle) = wear s

namespace Disguise

variable (d : Disguise σ)

theorem print (s : Session σ) (text : String) : (d.wear s).print text = d.wear (s.print text) := by
  have hchars (cs : List Char) (s : Session σ) :
      cs.foldl (fun s c => s.emit (.output c.val)) (d.wear s) =
        d.wear (cs.foldl (fun s c => s.emit (.output c.val)) s) := by
    induction cs generalizing s with
    | nil => rfl
    | cons c rest ih => rw [List.foldl_cons, List.foldl_cons, d.emit, ih]
  exact hchars text.toList s

/-- The run state is changed, and reported, in disguise as it is without. -/
theorem setRunState (s : Session σ) (state : RunState) :
    (d.wear s).setRunState state = d.wear (s.setRunState state) := by
  unfold Session.setRunState
  rw [d.runState]
  split
  · rfl
  · rw [d.emit]
    exact d.changeRunState _ state

theorem loadText (s : Session σ) (name : String) :
    (d.wear s).loadText name = ((s.loadText name).1, d.wear (s.loadText name).2) := by
  unfold Session.loadText
  rw [d.environment]
  cases s.environment.loader with
  | none => rfl
  | some load => simp only [d.emit]

end Disguise

/-! ## Actions -/

/-- An action does the same in disguise. -/
def Action.Unaffected (d : Disguise σ) (a : Action ε σ α) : Prop :=
  ∀ s, a (d.wear s) = Outcome.mapState d.wear (a s)

namespace Action.Unaffected

variable {d : Disguise σ}

/-- In disguise the first action gives the same result, so the same second action follows. -/
theorem bind {a : Action ε σ α} {f : α → Action ε σ β} (ha : Action.Unaffected d a)
    (hf : ∀ r, Action.Unaffected d (f r)) : Action.Unaffected d (a >>= f) := by
  intro s
  rw [Outcome.bind_apply, Outcome.bind_apply, ha s]
  cases a s with
  | ok r t => exact hf r t
  | error e t => rfl

theorem pure (r : α) : Action.Unaffected d (Pure.pure r : Action ε σ α) := fun _ => rfl

theorem throw (e : ε) : Action.Unaffected d (throw e : Action ε σ α) := fun _ => rfl

theorem modify {f : Session σ → Session σ} (hf : ∀ s, f (d.wear s) = d.wear (f s)) :
    Action.Unaffected d (modify f : Action ε σ PUnit) :=
  fun s => congrArg (EStateM.Result.ok PUnit.unit) (hf s)

theorem mapError {a : Action ε σ α} (ha : Action.Unaffected d a) (g : ε → ε') :
    Action.Unaffected d (a.mapError g) := by
  intro s
  unfold Action.mapError
  rw [ha s]
  cases a s with
  | ok r t => rfl
  | error e t => rfl

/-- A caught error is the same error in disguise. -/
theorem attempt {a : Action ε σ α} (ha : Action.Unaffected d a) (s : Session σ) :
    a.attempt (d.wear s) = ((a.attempt s).1, d.wear (a.attempt s).2) := by
  unfold Action.attempt
  rw [ha s]
  cases a s with
  | ok r t => rfl
  | error e t => rfl

theorem writeMemory (p : Pointer) (bytes : List UInt8) :
    Action.Unaffected d (Action.writeMemory p bytes : Action BridgeError σ Unit) := by
  intro s
  unfold Action.writeMemory
  rw [d.arena]
  cases s.arena.write p bytes with
  | ok arena => exact congrArg (EStateM.Result.ok ()) (d.setArena s arena)
  | error e => rfl

/-- A program is unaffected if each of its operations is. -/
theorem run {Op : Type} {Reply : Op → Type} {answer : (op : Op) → Action ε σ (Reply op)}
    (hop : ∀ op, Action.Unaffected d (answer op)) (p : Program Reply α) :
    Action.Unaffected d (p.run answer) := by
  -- Induction on the program: the reply is the same in disguise, so the same program follows.
  induction p with
  | done r => exact pure r
  | perform op next ih => exact bind (hop op) ih

end Action.Unaffected

/-! ## Allocation -/

section

variable {d : Disguise σ}

/-- The allocation reads the size of the arena, which a disguise keeps. -/
theorem Allocation.allocate_unaffected {malloc : Int32 → Action Trap σ Int32}
    (hmalloc : ∀ n, Action.Unaffected d (malloc n)) (slots : Nat) :
    Action.Unaffected d (Allocation.allocate malloc slots) := by
  unfold Allocation.allocate
  split
  · exact .throw _
  · refine .bind ((hmalloc _).mapError _) fun raw s => ?_
    -- of the session, only the size of the arena is read
    have hget (t : Session σ) : (get : Action BridgeError σ _) t = .ok t t := rfl
    simp only [Outcome.bind_apply, hget, d.arena]
    cases granted? s.arena.size slots raw with
    | some p => rfl
    | none => rfl

theorem Allocation.writeText_unaffected {malloc : Int32 → Action Trap σ Int32}
    (hmalloc : ∀ n, Action.Unaffected d (malloc n)) (text : String) :
    Action.Unaffected d (Allocation.writeText malloc text) :=
  .bind (allocate_unaffected hmalloc _) fun p =>
    .bind (.writeMemory p _) fun _ => .pure p

/-! ## Both sides of the boundary -/

/-- The way back into a guest is unaffected; a callback leaves out the requests that are ignored. -/
structure Reentry.Unaffected (d : Disguise σ) (re : Reentry σ) : Prop where
  malloc : ∀ slots, Action.Unaffected d (re.malloc slots)
  callback : ∀ function body s, re.callback function (body.ignoring d.ignores) (d.wear s) =
    Outcome.mapState d.wear (re.callback function body s)

variable {re : Reentry σ}

/-- An operation that is not ignored has the same reply in disguise. -/
theorem Callback.answer_wear (hre : re.Unaffected d) (function : String) (op : Callback.Op)
    (hop : Callback.ignored? d.ignores op = none) (s : Session σ) :
    Callback.answer re function op (d.wear s) =
      ((Callback.answer re function op s).1, d.wear (Callback.answer re function op s).2) := by
  cases op with
  | print text => exact congrArg (Prod.mk ()) (d.print s text)
  | allocate slots => exact (Allocation.allocate_unaffected hre.malloc slots).attempt s
  | allocateText text => exact (Allocation.writeText_unaffected hre.malloc text).attempt s
  | readText p length => simp only [Callback.answer, d.arena]
  | write p bytes => exact (Action.Unaffected.writeMemory p bytes).attempt s
  | function => rfl
  | functionCount => simp only [Callback.answer, d.size]
  | runState => simp only [Callback.answer, d.runState]
  | vsync => exact congrArg (Prod.mk ()) (d.emit s _)
  | loadText name => exact d.loadText s name
  | requestStop handle =>
    -- An ignored request is excluded by `hop`.
    have hheard : d.ignores handle = false := by
      cases h : d.ignores handle with
      | false => rfl
      | true => simp only [Callback.ignored?, h, if_true, reduceCtorEq] at hop
    exact congrArg (Prod.mk ()) (d.requestStop s handle hheard)
  | screen change => exact congrArg (Prod.mk ()) (d.emit s _)
  | note n => exact congrArg (Prod.mk ()) (d.emit s _)
  | invoke id args =>
    -- The table has the callback of the same id without the ignored requests.
    refine Action.Unaffected.attempt (fun t => ?_) s
    unfold Callback.invoked
    rw [d.get?]
    cases t.table.get? id with
    | none => rfl
    | some f => exact hre.callback function (f.callback args) t

/-- A request that is ignored does nothing in disguise. -/
theorem Callback.wear_answer_of_ignored (re : Reentry σ) (function : String) {op : Callback.Op}
    {r : Callback.Reply op} (hop : Callback.ignored? d.ignores op = some r) (s : Session σ) :
    (Callback.answer re function op s).1 = r ∧
      d.wear (Callback.answer re function op s).2 = d.wear s := by
  cases op with
  | requestStop handle =>
    refine ⟨rfl, d.ignore s handle ?_⟩
    cases h : d.ignores handle with
    | true => rfl
    | false => simp only [Callback.ignored?, h, Bool.false_eq_true, if_false, reduceCtorEq] at hop
  | print _ | allocate _ | allocateText _ | readText _ _ | write _ _ | function | functionCount
  | runState | vsync | loadText _ | screen _ | note _ | invoke _ _ => cases hop

/-- Without the ignored requests a callback does in disguise what the whole of it does without. -/
theorem Callback.exec_wear (hre : re.Unaffected d) (function : String) (body : Callback Unit)
    (s : Session σ) :
    Callback.exec re function (body.ignoring d.ignores) (d.wear s) =
      Outcome.mapState d.wear (Callback.exec re function body s) := by
  have hrun (p : Program Callback.Reply (Except BridgeError Unit)) (s : Session σ) :
      (p.skipping (Callback.ignored? d.ignores)).run (Callback.answer re function) (d.wear s) =
        ((p.run (Callback.answer re function) s).1,
          d.wear (p.run (Callback.answer re function) s).2) := by
    -- Induction on the program: an operation that is left out changes nothing in disguise.
    induction p generalizing s with
    | done r => rfl
    | perform op next ih =>
      have hstep (next : Callback.Reply op → Program Callback.Reply (Except BridgeError Unit))
          (t : Session σ) : (Program.perform op next).run (Callback.answer re function) t =
            (next (Callback.answer re function op t).1).run (Callback.answer re function)
              (Callback.answer re function op t).2 := rfl
      rw [Program.skipping, hstep]
      cases hop : Callback.ignored? d.ignores op with
      | none =>
        dsimp only
        rw [hstep, Callback.answer_wear hre function op hop]
        exact ih _ _
      | some r =>
        obtain ⟨hreply, hwear⟩ := Callback.wear_answer_of_ignored re function hop s
        dsimp only
        rw [← hwear, hreply]
        exact ih _ _
  unfold Callback.exec
  rw [show (body.ignoring d.ignores).run = body.run.skipping (Callback.ignored? d.ignores) from rfl,
    hrun]
  cases body.run.run (Callback.answer re function) s with
  | mk r t =>
    cases r with
    | ok r => rfl
    | error e => rfl

/-- A call comes to the same function, but for the requests that are ignored. -/
theorem ExternalCall.resolve_wear (call : ExternalCall) (s : Session σ) :
    call.resolve (d.wear s) =
      (call.resolve s).map fun request => (request.1.ignoring d.ignores, request.2) := by
  have harguments (f : ExternalFunction) :
      call.argumentsOf (d.wear s) (f.ignoring d.ignores) = call.argumentsOf s f := by
    unfold ExternalCall.argumentsOf ExternalCall.returnCount
    rw [d.arena]
    rfl
  unfold ExternalCall.resolve
  rw [d.inExternalCall, d.get?]
  cases s.inExternalCall with
  | true => rfl
  | false =>
    cases s.table.get? call.id with
    | none => rfl
    | some f =>
      simp only [Option.map_some, Bool.false_eq_true, if_false, harguments]
      cases call.argumentsOf s f with
      | ok args => rfl
      | error e => rfl

/-- An external call ends in disguise as it does without, and the guard is released in both. -/
theorem ExternalCall.run_unaffected
    {runCallback : String → Callback Unit → Action BridgeError σ Unit}
    (hrun : ∀ function body s, runCallback function (body.ignoring d.ignores) (d.wear s) =
      Outcome.mapState d.wear (runCallback function body s))
    (call : ExternalCall) : Action.Unaffected d (call.run runCallback) := by
  intro s
  unfold ExternalCall.run
  rw [call.resolve_wear]
  cases call.resolve s with
  | error e => rfl
  | ok request =>
    obtain ⟨f, args⟩ := request
    have hs := hrun f.name (f.callback args) { s with inExternalCall := true }
    simp only [Except.map, ExternalCall.guarded, d.setInExternalCall]
    rw [show ((f.ignoring d.ignores).callback args) = (f.callback args).ignoring d.ignores from rfl,
      show (f.ignoring d.ignores).name = f.name from rfl, hs]
    cases runCallback f.name (f.callback args) { s with inExternalCall := true } with
    | ok r t => exact congrArg (EStateM.Result.ok ()) (d.setInExternalCall t false)
    | error e t => exact congrArg (EStateM.Result.error e) (d.setInExternalCall t false)

theorem HostCall.report_wear (interface function : String) (kind : FailureKind)
    (detail : String) (s : Session σ) :
    HostCall.report interface function kind detail (d.wear s) =
      d.wear (HostCall.report interface function kind detail s) :=
  d.emit s _

/-- Every call of the host by the guest is answered in disguise as it is without. -/
theorem HostCall.answer_unaffected (hre : re.Unaffected d) (call : HostCall) :
    Action.Unaffected d (call.answer re) := by
  intro s
  cases call with
  | putChar code => exact congrArg (EStateM.Result.ok ()) (d.emit s _)
  | printDouble v => exact congrArg (EStateM.Result.ok ()) (d.print s _)
  | floatToString v digits =>
    simp only [HostCall.answer, HostCall.answerFloatText]
    rw [Allocation.writeText_unaffected hre.malloc (v.fixed digits) s]
    cases Allocation.writeText re.malloc (v.fixed digits) s with
    | ok p t => rfl
    | error e t =>
      simp only [Outcome.mapState, HostCall.report_wear]
      rfl
  | external call =>
    simp only [HostCall.answer, HostCall.answerExternal]
    rw [ExternalCall.run_unaffected hre.callback call s]
    cases call.run re.callback s with
    | ok r t => rfl
    | error e t =>
      -- Whether the guest survives the error is the same in disguise; a report is shown in both.
      by_cases hfatal : e.isFatal = true
      · simp only [Outcome.mapState, hfatal, if_true]
        rfl
      · simp only [Outcome.mapState, hfatal, HostCall.report_wear]
        rfl
  | date => exact congrArg (fun env => EStateM.Result.ok env.date (d.wear s)) (d.environment s)
  | time => exact congrArg (fun env => EStateM.Result.ok env.time (d.wear s)) (d.environment s)
  | loadTextFile name length =>
    simp only [HostCall.answer, HostCall.answerTextFile]
    -- The name is read from the arena, which a disguise keeps.
    have hname : HostCall.requestedName (d.wear s) name length =
        HostCall.requestedName s name length := by
      unfold HostCall.requestedName
      rw [d.arena]
    rw [hname]
    cases HostCall.requestedName s name length with
    | error detail => exact congrArg (EStateM.Result.ok 0) (HostCall.report_wear _ _ _ _ s)
    | ok file =>
      simp only [d.loadText s file]
      cases s.loadText file with
      | mk found t =>
        cases found with
        | none => rfl
        | some text =>
          simp only [Allocation.writeText_unaffected hre.malloc text t]
          cases Allocation.writeText re.malloc text t with
          | ok p u => rfl
          | error e u => rfl
  | unary f x => rfl
  | binary f x y => rfl
  | test t x => rfl
  | random =>
    -- The number and the rest of the sequence are taken from the same random numbers.
    have hnumber : (d.wear s).draw.1 = s.draw.1 := by
      simp only [Session.draw, d.environment, d.draws]
    have hdrawn : (d.wear s).draw.2 = d.wear s.draw.2 := by
      simp only [Session.draw, d.draws, d.setDraws]
    show EStateM.Result.ok (d.wear s).draw.1 (d.wear s).draw.2 = _
    rw [hnumber, hdrawn]
    rfl

theorem Code.answer_unaffected (hre : re.Unaffected d) (op : Code.Op σ) :
    Action.Unaffected d (Code.answer re op) := by
  intro s
  cases op with
  | getState => simp only [Code.answer, d.guest, Outcome.mapState]
  | setState state => exact congrArg (EStateM.Result.ok ()) (d.setGuest s state)
  | load address length =>
    simp only [Code.answer, d.arena]
    cases s.arena.memory.holds address length with
    | true => rfl
    | false => rfl
  | store address bytes =>
    simp only [Code.answer, d.arena]
    cases s.arena.memory.holds address bytes.length with
    | true => exact congrArg (EStateM.Result.ok ()) (d.setArena s _)
    | false => rfl
  | memoryPages => simp only [Code.answer, d.arena, Outcome.mapState]
  | grow pages =>
    simp only [Code.answer, d.arena]
    cases s.arena.grow? pages with
    | some arena => exact congrArg (EStateM.Result.ok _) (d.setArena s arena)
    | none => rfl
  | host call => exact HostCall.answer_unaffected hre call s
  | trap => rfl

/-- Guest code does the same in disguise. -/
theorem Code.exec_unaffected (hre : re.Unaffected d) (code : Code σ α) :
    Action.Unaffected d (code.exec re) := .run (Code.answer_unaffected hre) code

/-! ## Every nesting -/

theorem Reentry.exhausted_unaffected : (Reentry.exhausted : Reentry σ).Unaffected d where
  malloc _ := .throw _
  callback _ _ _ := rfl

/-- Allocator and callbacks do the same in disguise, however deeply the two sides call each
other. -/
theorem Reentry.level_unaffected (d : Disguise σ) (malloc : Int32 → Code σ Int32) (depth : Nat) :
    (Reentry.level malloc depth).Unaffected d := by
  -- Induction on the depth: a level runs programs by the level below.
  induction depth with
  | zero => exact ⟨fun _ => .throw _, Callback.exec_wear exhausted_unaffected⟩
  | succ depth ih => exact ⟨fun slots => Code.exec_unaffected ih _, Callback.exec_wear ih⟩

/-- A call of guest code by the host ends in disguise as it does without. -/
theorem Guest.run_unaffected (d : Disguise σ) (g : Guest σ) (code : Code σ α) :
    Action.Unaffected d (g.run code) :=
  Code.exec_unaffected (Reentry.level_unaffected d _ _) code

/-! ## Operations of the host on its guest -/

namespace Guest

theorem executeOneStep_unaffected (d : Disguise σ) (g : Guest σ) :
    Action.Unaffected d g.executeOneStep :=
  .bind ((g.run_unaffected d _).mapError _) fun _ => .pure _

theorem allocateText_unaffected (d : Disguise σ) (g : Guest σ) (text : String) :
    Action.Unaffected d (g.allocateText text) :=
  Allocation.writeText_unaffected (fun n => g.run_unaffected d (g.entry.malloc n)) text

theorem setSource_unaffected (d : Disguise σ) (g : Guest σ) (slot : Int32)
    (file source : String) : Action.Unaffected d (g.setSource slot file source) := by
  unfold setSource
  refine .bind ((g.allocateText_unaffected d _).mapError _) fun _ => ?_
  refine .bind ((g.allocateText_unaffected d _).mapError _) fun _ => ?_
  refine .bind ((g.run_unaffected d _).mapError _) fun accepted => ?_
  split
  · refine .bind (.modify fun s => ?_) fun _ => .pure _
    rw [d.setRunState, d.emit]
  · exact .pure _

end Guest

end

end GuestBridge
