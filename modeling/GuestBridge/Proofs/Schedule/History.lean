import GuestBridge.Bridge.Registration
import GuestBridge.Proofs.Schedule.Batching
import GuestBridge.Proofs.Session.Traces
/-!
# Histories of a session

After its guest has booted, a session changes by what the host does with it, one operation after the
other: registrations, allocations, programs, single steps, calls of exports, and the operations of a
scheduler. Each of them may fail, and the next one goes on from the session that the failure left.
Guest code that makes external calls is part of the operation that runs it.

A property is durable (`Session.Durable`) if it survives guest code and changes of the run state.
Then it survives all that the host does, except perhaps the two changes that only the host makes:
recording a function in the table, and clearing a stop request. Properties that do not look at the
trace are durable if they last (`Session.Lasting`).

## Main statements

* **`Guest.register_cases`** — all that a registration can do to a session;
* **`Scheduler.after_keeps`** — what an operation keeps.
-/

namespace GuestBridge

variable {ε ε' σ α β : Type}

/-! ## Properties that actions keep -/

/-- An action keeps a property, whether it succeeds or not. -/
def Action.Keeps (P : Session σ → Prop) (a : Action ε σ α) : Prop :=
  ∀ s, P s → P (Outcome.state (a s))

/-- A property survives guest code, callbacks, and changes of the run state. -/
structure Session.Lasting (P : Session σ → Prop) : Prop where
  continues : ∀ {s t : Session σ}, P s → s.Continues t → P t
  setRunState : ∀ {s : Session σ} (state : RunState), P s → P (s.setRunState state)

/-- A property, of the trace too, survives guest code, callbacks, and changes of the run state. -/
structure Session.Durable (P : Session σ → Prop) : Prop where
  proceeds : ∀ {s t : Session σ}, P s → s.Proceeds t → P t
  setRunState : ∀ {s : Session σ} (state : RunState), P s → P (s.setRunState state)

/-- A property that does not look at the trace is durable if it lasts. -/
theorem Session.Lasting.durable {P : Session σ → Prop} (hP : Session.Lasting P) :
    Session.Durable P :=
  ⟨fun hs hst => hP.continues hs hst.toContinues, hP.setRunState⟩

namespace Action.Keeps

variable {P : Session σ → Prop}

/-- An action that only proceeds keeps every durable property. -/
theorem of_within (hP : Session.Durable P) {a : Action ε σ α}
    (ha : Action.Within Session.Proceeds a) : Action.Keeps P a :=
  fun s hs => hP.proceeds hs (ha s)

/-- A sequence keeps what its parts keep, also if it ends early. -/
theorem bind {a : Action ε σ α} {f : α → Action ε σ β} (ha : Action.Keeps P a)
    (hf : ∀ r, Action.Keeps P (f r)) : Action.Keeps P (a >>= f) := by
  intro s hs
  have ht := ha s hs
  rw [Outcome.bind_apply]
  cases h : a s with
  | ok r t =>
    rw [h] at ht
    exact hf r t ht
  | error e t =>
    rw [h] at ht
    exact ht

theorem pure (r : α) : Action.Keeps P (Pure.pure r : Action ε σ α) := fun _ hs => hs

theorem modify {f : Session σ → Session σ} (hf : ∀ s, P s → P (f s)) :
    Action.Keeps P (modify f : Action ε σ PUnit) := hf

end Action.Keeps

/-! ## Operations on a guest -/

namespace Guest

variable {g : Guest σ}

section Within

variable {R : Session σ → Session σ → Prop} (hR : Session.Stable R)
include hR

/-- An allocation runs the allocator, and reads the size of the arena. -/
theorem allocate_within (g : Guest σ) (slots : Nat) : Action.Within R (g.allocate slots) :=
  Allocation.allocate_within hR (fun n => g.run_within hR (g.entry.malloc n)) slots

/-- Placing a text is an allocation and a write. -/
theorem allocateText_within (g : Guest σ) (text : String) :
    Action.Within R (g.allocateText text) :=
  Allocation.writeText_within hR (fun n => g.run_within hR (g.entry.malloc n)) text

/-- A description places a text, and a descriptor behind it. -/
theorem describe_within (g : Guest σ) (f : ExternalFunction) : Action.Within R (g.describe f) :=
  .bind hR (g.allocateText_within hR _) fun _ => .bind hR (g.allocate_within hR _) fun _ =>
    .bind hR (.writeMemory hR _ _) fun _ => .pure hR _

/-- A call by name runs guest code, or fails at once. -/
theorem call_within (g : Guest σ) (name : String) (operands : List Operand) :
    Action.Within R (g.call name operands) := by
  unfold Guest.call
  split
  · split
    · exact (g.run_within hR _).mapError _
    · exact .throw hR _
  · exact .throw hR _

end Within

/-- A registration records the function in the table that it found, or it fails and leaves alone
what belongs to the host, the table included. -/
theorem register_cases (g : Guest σ) (f : ExternalFunction) (s : Session σ) :
    (∃ id u table, s.Continues u ∧ s.table.insert id f = .ok table ∧
      g.register f s = .ok id { u with table }) ∨
    (∃ e t, s.Continues t ∧ g.register f s = .error e t) := by
  have hdescribe := g.describe_within .continues f s
  unfold register
  rw [Outcome.bind_apply]
  -- In the order of the registration: the description, the answer of the guest, the id, the table.
  cases hd : g.describe f s with
  | error e t =>
    rw [hd] at hdescribe
    exact .inr ⟨e, t, hdescribe, rfl⟩
  | ok descriptor t =>
    rw [hd] at hdescribe
    have hanswer := ((g.run_continuous (g.entry.registerFunction descriptor.toInt32)).mapError
      Trap.toBridgeError) t
    simp only [Outcome.bind_apply]
    cases hr : ((g.run (g.entry.registerFunction descriptor.toInt32)).mapError
        Trap.toBridgeError) t with
    | error e u =>
      rw [hr] at hanswer
      exact .inr ⟨e, u, hdescribe.trans hanswer, rfl⟩
    | ok raw u =>
      rw [hr] at hanswer
      have hu : s.Continues u := hdescribe.trans hanswer
      dsimp only
      cases FunctionId.ofRaw? raw with
      | none => exact .inr ⟨_, u, hu, rfl⟩
      | some id =>
        simp only [record, Outcome.bind_apply, hu.table]
        cases hinsert : s.table.insert id f with
        | error e => exact .inr ⟨e, u, hu, rfl⟩
        | ok table => exact .inl ⟨id, u, table, hu, hinsert, rfl⟩

section Keeps

variable {P : Session σ → Prop} (hP : Session.Durable P)
  (hrecord : ∀ (s : Session σ) table, P s → P { s with table })
include hP

/-- Setting a source places two texts and calls the guest. A refusal prints nothing; a program that
is taken is presented and stops the session. -/
theorem setSource_keeps (slot : Int32) (file source : String) :
    Action.Keeps P (g.setSource slot file source) := by
  unfold setSource
  have htext (text : String) :
      Action.Keeps P ((g.allocateText text).mapError RuntimeError.bridge) :=
    .of_within hP ((g.allocateText_within .proceeds text).mapError _)
  refine .bind (htext file) fun _ => .bind (htext source) fun _ => ?_
  refine .bind (.of_within hP ((g.run_within .proceeds _).mapError _)) fun accepted => ?_
  -- Only a program that was taken is presented.
  split
  · refine .bind (.modify fun s hs => ?_) fun _ => .pure _
    exact hP.proceeds (hP.setRunState _ hs) (.emit _ .vsync rfl)
  · exact .pure _

include hrecord

/-- A registration is guest code, and then perhaps a row in the table. -/
theorem register_keeps (f : ExternalFunction) : Action.Keeps P (g.register f) := by
  unfold register
  refine .bind (.of_within hP (g.describe_within .proceeds f)) fun descriptor => ?_
  refine .bind (.of_within hP ((g.run_within .proceeds _).mapError _)) fun raw => ?_
  -- Without an id of its own the function is not recorded.
  cases FunctionId.ofRaw? raw with
  | none => exact fun s hs => hs
  | some id =>
    refine .bind (fun s hs => ?_) fun _ => .pure _
    unfold record
    cases s.table.insert id f with
    | ok table => exact hrecord s table hs
    | error e => exact hs

/-- Registering many functions keeps what registering one keeps. Induction on the list. -/
theorem registerAll_keeps (fs : List ExternalFunction) : Action.Keeps P (g.registerAll fs) := by
  induction fs with
  | nil => exact .pure _
  | cons f rest ih =>
    exact .bind (register_keeps hP hrecord f) fun _ => .bind ih fun _ => .pure _

/-- A best-effort registration keeps it too: each of its registrations does, failed or not. -/
theorem registerAvailable_keeps (fs : List ExternalFunction) :
    Action.Keeps P (g.registerAvailable fs) := by
  induction fs with
  | nil => exact .pure _
  | cons f rest ih =>
    intro s hs
    have ht := register_keeps (g := g) hP hrecord f s hs
    unfold registerAvailable
    cases h : g.register f s with
    | ok id t =>
      rw [h] at ht
      exact Action.Keeps.bind ih (fun _ => .pure _) t ht
    | error e t =>
      rw [h] at ht
      -- the loop goes on from the session that the failed registration left
      by_cases hfatal : e.isFatal = true
      · simp only [hfatal, if_true]
        exact ht
      · simp only [hfatal]
        exact ih t ht

end Keeps

end Guest

/-! ## Operations of a scheduler -/

namespace Scheduler

variable {c : Scheduler σ} {P : Session σ → Prop}

/-- The steps of a batch are guest code; the one that ends the program changes the run state. -/
theorem runSteps_keeps (hP : Session.Durable P) (remaining done : Nat) :
    Action.Keeps P (c.runSteps remaining done) := by
  induction remaining generalizing done with
  | zero => exact .pure _
  | succ remaining ih =>
    intro s hs
    have hstep := c.guest.executeOneStep_within .proceeds s
    unfold runSteps
    cases h : c.guest.executeOneStep s with
    | error e t =>
      rw [h] at hstep
      exact hP.setRunState _ (hP.proceeds hs hstep)
    | ok more t =>
      rw [h] at hstep
      have ht := hP.proceeds hs hstep
      cases more with
      | true => exact ih _ t ht
      | false =>
        -- The last step is followed by the change of the run state, the prompt and a presentation.
        have hprompt := Session.Proceeds.print (t.setRunState .stopped) prompt
        exact hP.proceeds (hP.setRunState _ ht) (hprompt.trans (.emit _ .vsync rfl))

section Clearing

variable (hP : Session.Durable P) (hclear : ∀ s, P s → P (s.clearStop c.stop))
include hP hclear

/-- A batch presents the output, observes a request or does its steps. -/
theorem runBatch_keeps : Action.Keeps P c.runBatch := by
  intro s hs
  have hshown : P (s.emit .vsync) := hP.proceeds hs (.emit s .vsync rfl)
  unfold runBatch
  simp only
  -- A request is observed, or the steps are done, or the session is not running.
  split
  · exact hP.setRunState _ (hclear _ hshown)
  · split
    · exact runSteps_keeps hP _ _ _ hshown
    · exact hshown

/-- A run keeps what its batches keep. Induction on the limit. -/
theorem runBatches_keeps (limit batches steps : Nat) :
    Action.Keeps P (c.runBatches limit batches steps) := by
  induction limit generalizing batches steps with
  | zero => exact .pure _
  | succ limit ih =>
    intro s hs
    have ht := runBatch_keeps hP hclear s hs
    unfold runBatches
    cases h : c.runBatch s with
    | error e t => rwa [h] at ht
    | ok outcome t =>
      rw [h] at ht
      cases outcome with
      | yielded n => exact ih _ _ t ht
      | halted n => exact ht
      | stopped => exact ht

end Clearing

end Scheduler

/-! ## Histories -/

/-- What the host can do with the session of a booted guest. -/
inductive HostOperation
  | register (f : ExternalFunction)
  | registerAll (fs : List ExternalFunction)
  | registerAvailable (fs : List ExternalFunction)
  | allocate (slots : Nat)
  | allocateText (text : String)
  | writeMemory (p : Pointer) (bytes : List UInt8)
  | setSource (slot : Int32) (file source : String)
  | executeOneStep
  | call (name : String) (operands : List Operand)
  | setRunState (state : RunState)
  | requestStop (handle : StopHandle)
  | start
  | halt
  | runBatch
  | runUntil (limit : Nat)

namespace HostOperation

/-- The operation offers functions to the guest. -/
def isRegistration : HostOperation → Bool
  | register _ | registerAll _ | registerAvailable _ => true
  | _ => false

/-- The operation enters a batch. -/
def entersBatch : HostOperation → Bool
  | runBatch => true
  | runUntil limit => limit != 0
  | _ => false

/-- The operation begins with a start. -/
def starts : HostOperation → Bool
  | start | runUntil _ => true
  | _ => false

end HostOperation

namespace Scheduler

/-- The session after an operation, whether that succeeds or not. -/
def after (c : Scheduler σ) : HostOperation → Session σ → Session σ
  | .register f, s => Outcome.state (c.guest.register f s)
  | .registerAll fs, s => Outcome.state (c.guest.registerAll fs s)
  | .registerAvailable fs, s => Outcome.state (c.guest.registerAvailable fs s)
  | .allocate slots, s => Outcome.state (c.guest.allocate slots s)
  | .allocateText text, s => Outcome.state (c.guest.allocateText text s)
  | .writeMemory p bytes, s => Outcome.state (Action.writeMemory p bytes s)
  | .setSource slot file source, s => Outcome.state (c.guest.setSource slot file source s)
  | .executeOneStep, s => Outcome.state (c.guest.executeOneStep s)
  | .call name operands, s => Outcome.state (c.guest.call name operands s)
  | .setRunState state, s => s.setRunState state
  | .requestStop handle, s => s.requestStop handle
  | .start, s => c.started s
  | .halt, s => s.setRunState .stopped
  | .runBatch, s => Outcome.state (c.runBatch s)
  | .runUntil limit, s => Outcome.state (c.runUntil limit s)

/-- The session after a sequence of operations. -/
def history (c : Scheduler σ) (ops : List HostOperation) (s : Session σ) : Session σ :=
  ops.foldl (fun s op => c.after op s) s

variable {c : Scheduler σ} {P : Session σ → Prop}

/-- The operation may clear a stop request in this session: it enters a batch, or it starts a
session that is not running. -/
def Clears (op : HostOperation) (s : Session σ) : Prop :=
  op.entersBatch = true ∨ op.starts = true ∧ s.runState ≠ .running

/-- A start of a running session changes nothing, so only other starts need the clearing of
requests. -/
theorem started_keeps (hP : Session.Durable P) {s : Session σ}
    (hclear : s.runState ≠ .running → ∀ u, P u → P (u.clearStop c.stop)) (hs : P s) :
    P (c.started s) := by
  unfold started
  by_cases hrunning : s.runState = .running
  · rw [if_pos (by rw [isRunning, decide_eq_true hrunning])]
    exact hs
  · rw [if_neg (by rw [isRunning, decide_eq_false hrunning]; exact Bool.false_ne_true)]
    exact hP.setRunState _ (hclear hrunning s hs)

/-- A durable property survives an operation, if it survives the recording of functions in case the
operation is a registration, and the clearing of a stop request in case the operation may clear
one. -/
theorem after_keeps (hP : Session.Durable P) {op : HostOperation} {s : Session σ}
    (hrecord : op.isRegistration = true → ∀ (s : Session σ) table, P s → P { s with table })
    (hclear : Clears op s → ∀ u, P u → P (u.clearStop c.stop)) (hs : P s) :
    P (c.after op s) := by
  cases op with
  | register f => exact Guest.register_keeps hP (hrecord rfl) f s hs
  | registerAll fs => exact Guest.registerAll_keeps hP (hrecord rfl) fs s hs
  | registerAvailable fs => exact Guest.registerAvailable_keeps hP (hrecord rfl) fs s hs
  | allocate slots => exact hP.proceeds hs (c.guest.allocate_within .proceeds slots s)
  | allocateText text => exact hP.proceeds hs (c.guest.allocateText_within .proceeds text s)
  | writeMemory p bytes => exact hP.proceeds hs (Action.Within.writeMemory .proceeds p bytes s)
  | setSource slot file source => exact Guest.setSource_keeps hP slot file source s hs
  | executeOneStep => exact hP.proceeds hs (c.guest.executeOneStep_within .proceeds s)
  | call name operands => exact hP.proceeds hs (c.guest.call_within .proceeds name operands s)
  | setRunState state => exact hP.setRunState state hs
  | requestStop handle => exact hP.proceeds hs (.requestStop s handle)
  | start => exact started_keeps hP (fun hstopped => hclear (.inr ⟨rfl, hstopped⟩)) hs
  | halt => exact hP.setRunState _ hs
  | runBatch => exact runBatch_keeps hP (hclear (.inl rfl)) s hs
  | runUntil limit =>
    have hstarted : P (c.started s) :=
      started_keeps hP (fun hstopped => hclear (.inr ⟨rfl, hstopped⟩)) hs
    cases limit with
    | zero => exact hstarted
    | succ limit => exact runBatches_keeps hP (hclear (.inl rfl)) _ _ _ _ hstarted

/-- A history keeps what each of its operations keeps. -/
theorem history_keeps (hafter : ∀ op s, P s → P (c.after op s)) (ops : List HostOperation)
    {s : Session σ} (hs : P s) : P (c.history ops s) := by
  induction ops generalizing s with
  | nil => exact hs
  | cons op rest ih => exact ih (hafter op s hs)

end Scheduler

end GuestBridge
