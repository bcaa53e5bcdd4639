import GuestBridge.Guest.Basic
import GuestBridge.Proofs.Outcome
/-!
# Relations that hold across guest code and callbacks

While the host waits for its guest, the session changes by a few small changes only: an event is
shown, a stop is requested, bytes are written, the arena grows, the guest's own state or the random
numbers move on. A relation between sessions is stable (`Session.Stable`) if it holds across each of
these changes and can be put together. Then it holds across every program of operations (induction on
the program), and across every nesting of the two sides (induction on the depth of
`Reentry.level`).

The one operation that touches the guard of external calls is the external call itself. It sets the
guard only where it found it released, so the relation is asked for one thing more: that it holds
across a guarded part if it holds inside.

## Main statements

* **`Reentry.level_within`** — the allocator and the callbacks of a guest, at every depth;
* **`Guest.run_within`** — every call of guest code by the host.
-/

namespace GuestBridge

variable {ε ε' σ α β : Type} {R : Session σ → Session σ → Prop}

/-- The run state that an event reports. -/
def Event.stateChange? : Event → Option RunState
  | .stateChanged state => some state
  | _ => none

/-- A relation that holds across all that guest code and callbacks can do to a session. -/
structure Session.Stable (R : Session σ → Session σ → Prop) : Prop where
  refl : ∀ s, R s s
  trans : ∀ {s t u}, R s t → R t u → R s u
  /-- Only the host reports changes of the run state. -/
  emit : ∀ s e, e.stateChange? = none → R s (s.emit e)
  requestStop : ∀ s handle, R s (s.requestStop handle)
  write : ∀ s offset bytes,
    R s { s with arena.memory := s.arena.memory.write offset bytes }
  grow : ∀ {s : Session σ} {arena pages}, s.arena.grow? pages = some arena →
    R s { s with arena }
  setGuest : ∀ s guest, R s { s with guest }
  setDraws : ∀ s draws, R s { s with draws }
  guarded : ∀ {s t : Session σ}, s.inExternalCall = false →
    R { s with inExternalCall := true } t → R s { t with inExternalCall := false }

namespace Session.Stable

/-- Text is shown one character at a time. -/
theorem print (hR : Stable R) (s : Session σ) (text : String) : R s (s.print text) := by
  have hchars (cs : List Char) (s : Session σ) :
      R s (cs.foldl (fun s c => s.emit (.output c.val)) s) := by
    induction cs generalizing s with
    | nil => exact hR.refl s
    | cons c rest ih => exact hR.trans (hR.emit s _ rfl) (ih _)
  exact hchars text.toList s

theorem loadText (hR : Stable R) (s : Session σ) (name : String) : R s (s.loadText name).2 := by
  unfold Session.loadText
  cases s.environment.loader with
  | none => exact hR.refl s
  | some load => exact hR.emit s _ rfl

end Session.Stable

/-! ## Actions -/

/-- The sessions before and after an action are related, whether it succeeds or not. -/
def Action.Within (R : Session σ → Session σ → Prop) (a : Action ε σ α) : Prop :=
  ∀ s, R s (Outcome.state (a s))

namespace Action.Within

variable {a : Action ε σ α} {f : α → Action ε σ β} (hR : Session.Stable R)
include hR

/-- The two actions of a sequence are two changes after each other; after an error there is one. -/
theorem bind (ha : Action.Within R a) (hf : ∀ r, Action.Within R (f r)) :
    Action.Within R (a >>= f) := by
  intro s
  have hs := ha s
  rw [Outcome.bind_apply]
  cases h : a s with
  | ok r t =>
    rw [h] at hs
    exact hR.trans hs (hf r t)
  | error e t => rwa [h] at hs

theorem pure (r : α) : Action.Within R (Pure.pure r : Action ε σ α) := hR.refl

theorem throw (e : ε) : Action.Within R (throw e : Action ε σ α) := hR.refl

omit hR in
theorem mapError (ha : Action.Within R a) (g : ε → ε') : Action.Within R (a.mapError g) := by
  intro s
  rw [Outcome.state_renamed]
  exact ha s

omit hR in
/-- Catching the error of an action does not undo what it did. -/
theorem attempt (ha : Action.Within R a) (s : Session σ) : R s (a.attempt s).2 := by
  rw [Outcome.state_attempt]
  exact ha s

theorem ofExcept (r : Except ε α) : Action.Within R (Action.ofExcept r : Action ε σ α) := by
  intro s
  unfold Action.ofExcept
  cases r with
  | ok r => exact hR.refl s
  | error e => exact hR.refl s

theorem writeMemory (p : Pointer) (bytes : List UInt8) :
    Action.Within R (Action.writeMemory p bytes : Action BridgeError σ Unit) := by
  intro s
  unfold Action.writeMemory Arena.write
  cases (Slots.checkRange s.arena.memory p.offset bytes.length).mapError BridgeError.codec with
  | ok _ => exact hR.write s p.offset bytes
  | error e => exact hR.refl s

/-- A program stays within a relation if each of its operations does. -/
theorem run {Op : Type} {Reply : Op → Type} {answer : (op : Op) → Action ε σ (Reply op)}
    (hop : ∀ op, Action.Within R (answer op)) (p : Program Reply α) :
    Action.Within R (p.run answer) := by
  induction p with
  | done r => exact pure hR r
  | perform op next ih => exact bind hR (hop op) ih

end Action.Within

/-! ## Allocation -/

section Allocation

variable {malloc : Int32 → Action Trap σ Int32} (hR : Session.Stable R)
  (hmalloc : ∀ n, Action.Within R (malloc n))
include hR hmalloc

/-- An allocation runs the allocator of the guest and changes nothing besides. -/
theorem Allocation.allocate_within (slots : Nat) :
    Action.Within R (Allocation.allocate malloc slots) := by
  unfold Allocation.allocate
  split
  · -- too many slots: the guest is not asked
    exact .throw hR _
  · refine .bind hR ((hmalloc _).mapError _) fun raw => .bind hR hR.refl fun s => ?_
    split
    · exact .pure hR _
    · exact .throw hR _

theorem Allocation.writeText_within (text : String) :
    Action.Within R (Allocation.writeText malloc text) :=
  .bind hR (allocate_within hR hmalloc _) fun p =>
    .bind hR (.writeMemory hR p _) fun _ => .pure hR p

end Allocation

/-! ## Both sides of the boundary -/

/-- The way back into a guest stays within a relation. -/
structure Reentry.Within (R : Session σ → Session σ → Prop) (re : Reentry σ) : Prop where
  malloc : ∀ slots, Action.Within R (re.malloc slots)
  callback : ∀ function body, Action.Within R (re.callback function body)

/-- Only a call that found the guard released comes to a function. -/
theorem ExternalCall.resolve_ok_idle {s : Session σ} {call : ExternalCall}
    {request : ExternalFunction × List Value} (h : call.resolve s = .ok request) :
    s.inExternalCall = false := by
  by_cases hidle : s.inExternalCall = true
  · rw [ExternalCall.resolve, if_pos hidle] at h
    cases h
  · exact Bool.eq_false_iff.mpr hidle

/-- The guard is set before an action, and released however it ends. -/
theorem ExternalCall.guarded_eq (a : Action BridgeError σ Unit) (s : Session σ) :
    guarded a s = Outcome.mapState (fun t => { t with inExternalCall := false })
      (a { s with inExternalCall := true }) := by
  unfold guarded
  cases a { s with inExternalCall := true } with
  | ok r t => rfl
  | error e t => rfl

theorem ExternalCall.state_guarded (a : Action BridgeError σ Unit) (s : Session σ) :
    Outcome.state (guarded a s) =
      { Outcome.state (a { s with inExternalCall := true }) with inExternalCall := false } := by
  rw [guarded_eq]
  cases a { s with inExternalCall := true } with
  | ok r t => rfl
  | error e t => rfl

/-- An external call stays within a relation if the callbacks do. -/
theorem ExternalCall.run_within (hR : Session.Stable R)
    {runCallback : String → Callback Unit → Action BridgeError σ Unit}
    (hrun : ∀ function body, Action.Within R (runCallback function body))
    (call : ExternalCall) : Action.Within R (call.run runCallback) := by
  intro s
  unfold ExternalCall.run
  cases hresolve : call.resolve s with
  | error e => exact hR.refl s
  | ok request =>
    obtain ⟨f, args⟩ := request
    -- The guard was released before the call, so releasing it at the end restores it.
    have hidle := resolve_ok_idle hresolve
    dsimp only
    rw [state_guarded]
    exact hR.guarded hidle (hrun f.name (f.callback args) { s with inExternalCall := true })

/-- A callback leaves the session as its program does. -/
theorem Callback.state_exec (re : Reentry σ) (function : String) (body : Callback Unit)
    (s : Session σ) :
    Outcome.state (Callback.exec re function body s) =
      (body.run.run (Callback.answer re function) s).2 := by
  unfold Callback.exec
  cases body.run.run (Callback.answer re function) s with
  | mk r t =>
    cases r with
    | ok r => rfl
    | error e => rfl

namespace HostCall

variable (re : Reentry σ) (s : Session σ)

/-- A failed external call that the guest survives is reported; nothing else is added to it. -/
theorem state_answerExternal (call : ExternalCall) :
    Outcome.state (answerExternal re call s) = Outcome.state (call.run re.callback s) ∨
      ∃ failure, Outcome.state (answerExternal re call s) =
        (Outcome.state (call.run re.callback s)).emit (.failure failure) := by
  unfold answerExternal
  cases call.run re.callback s with
  | ok r t => exact .inl rfl
  | error e t =>
    by_cases hfatal : e.isFatal = true
    · simp only [hfatal, if_true]
      exact .inl rfl
    · simp only [hfatal]
      exact .inr ⟨_, rfl⟩

/-- A number whose text could not be placed is reported; nothing else is added to the attempt. -/
theorem state_answerFloatText (v : Double) (digits : Int32) :
    let written := Outcome.state (Allocation.writeText re.malloc (v.fixed digits) s)
    Outcome.state (answerFloatText re v digits s) = written ∨
      ∃ failure, Outcome.state (answerFloatText re v digits s) = written.emit (.failure failure) := by
  unfold answerFloatText
  cases Allocation.writeText re.malloc (v.fixed digits) s with
  | ok p t => exact .inl rfl
  | error e t => exact .inr ⟨_, rfl⟩

variable {s}

/-- Once a text was loaded, placing it is all that is left. -/
theorem state_answerTextFile {name length : Int32} {file text : String} {t : Session σ}
    (hname : requestedName s name length = .ok file) (hload : s.loadText file = (some text, t)) :
    Outcome.state (answerTextFile re name length s) =
      Outcome.state (Allocation.writeText re.malloc text t) := by
  simp only [answerTextFile, hname, hload]
  cases Allocation.writeText re.malloc text t with
  | ok p u => rfl
  | error e u => rfl

end HostCall

section Nesting

variable {re : Reentry σ} (hR : Session.Stable R) (hre : re.Within R)
include hR hre

/-- One operation of a callback stays within a stable relation. -/
theorem Callback.answer_within (function : String) (op : Callback.Op) (s : Session σ) :
    R s (Callback.answer re function op s).2 := by
  cases op with
  | print text => exact hR.print s text
  | allocate slots => exact (Allocation.allocate_within hR hre.malloc slots).attempt s
  | allocateText text => exact (Allocation.writeText_within hR hre.malloc text).attempt s
  | write p bytes => exact (Action.Within.writeMemory hR p bytes).attempt s
  | readText _ _ | function | functionCount | runState => exact hR.refl s
  | vsync | screen _ | note _ => exact hR.emit s _ rfl
  | loadText name => exact hR.loadText s name
  | requestStop handle => exact hR.requestStop s handle
  | invoke id args =>
    -- Another function of the table runs one nesting further down, where `hre` holds.
    apply Action.Within.attempt
    intro u
    unfold Callback.invoked
    cases u.table.get? id with
    | none => exact hR.refl u
    | some f => exact hre.callback function (f.callback args) u

/-- A callback stays within the relation for as many operations as it has. -/
theorem Callback.run_within (function : String) (p : Program Callback.Reply α) (s : Session σ) :
    R s (p.run (Callback.answer re function) s).2 := by
  -- Induction on the program: each reply decides which operations follow.
  induction p generalizing s with
  | done r => exact hR.refl s
  | perform op next ih => exact hR.trans (Callback.answer_within hR hre function op s) (ih _ _)

theorem Callback.exec_within (function : String) (body : Callback Unit) :
    Action.Within R (Callback.exec re function body) := by
  intro s
  rw [Callback.state_exec]
  exact Callback.run_within hR hre function body.run s

theorem HostCall.answerFloatText_within (v : Double) (digits : Int32) :
    Action.Within R (HostCall.answerFloatText re v digits) := by
  intro s
  have hs := Allocation.writeText_within hR hre.malloc (v.fixed digits) s
  rcases state_answerFloatText re s v digits with h | ⟨failure, h⟩
  · rwa [h]
  · rw [h]
    exact hR.trans hs (hR.emit _ _ rfl)

theorem HostCall.answerExternal_within (call : ExternalCall) :
    Action.Within R (HostCall.answerExternal re call) := by
  intro s
  have hs := ExternalCall.run_within hR hre.callback call s
  rcases state_answerExternal re s call with h | ⟨failure, h⟩
  · rwa [h]
  · rw [h]
    exact hR.trans hs (hR.emit _ _ rfl)

theorem HostCall.answerTextFile_within (name length : Int32) :
    Action.Within R (HostCall.answerTextFile re name length) := by
  intro s
  cases hname : HostCall.requestedName s name length with
  -- Without a name nothing is loaded, and only the failure is shown.
  | error detail =>
    simp only [HostCall.answerTextFile, hname]
    exact hR.emit s _ rfl
  | ok file =>
    have hload := hR.loadText s file
    cases hs : s.loadText file with
    | mk found t =>
      rw [hs] at hload
      cases found with
      | none =>
        simp only [HostCall.answerTextFile, hname, hs]
        exact hload
      | some text =>
        rw [state_answerTextFile re hname hs]
        exact hR.trans hload (Allocation.writeText_within hR hre.malloc text t)

/-- Every call of the host by the guest stays within a stable relation. -/
theorem HostCall.answer_within (call : HostCall) : Action.Within R (call.answer re) := by
  cases call with
  | putChar code => exact fun s => hR.emit s _ rfl
  | printDouble v => exact fun s => hR.print s _
  | floatToString v digits => exact answerFloatText_within hR hre v digits
  | external call => exact answerExternal_within hR hre call
  | date | time => exact .bind hR hR.refl fun _ => .pure hR _
  | loadTextFile name length => exact answerTextFile_within hR hre name length
  | unary _ _ | binary _ _ _ | test _ _ => exact .pure hR _
  | random => exact fun s => hR.setDraws s _

/-- One operation of guest code stays within a stable relation. -/
theorem Code.answer_within (op : Code.Op σ) : Action.Within R (Code.answer re op) := by
  cases op with
  | getState | memoryPages => exact hR.refl
  | setState state => exact fun s => hR.setGuest s state
  | load address length =>
    intro s
    simp only [Code.answer]
    split <;> exact hR.refl s
  | store address bytes =>
    intro s
    simp only [Code.answer]
    split
    · exact hR.write s address bytes
    · exact hR.refl s
  | grow pages =>
    intro s
    simp only [Code.answer]
    cases h : s.arena.grow? pages with
    | some arena => exact hR.grow h
    | none => exact hR.refl s
  | host call => exact HostCall.answer_within hR hre call
  | trap => exact .throw hR _

theorem Code.exec_within (code : Code σ α) : Action.Within R (code.exec re) :=
  .run hR (Code.answer_within hR hre) code

end Nesting

/-! ## Every nesting -/

theorem Reentry.exhausted_within (hR : Session.Stable R) :
    (Reentry.exhausted : Reentry σ).Within R where
  malloc _ := .throw hR _
  callback _ _ := .throw hR _

/-- Allocator and callbacks stay within a stable relation, however deeply the two sides call each
other. -/
theorem Reentry.level_within (hR : Session.Stable R) (malloc : Int32 → Code σ Int32)
    (depth : Nat) : (Reentry.level malloc depth).Within R := by
  -- Induction on the depth: a level runs programs by the level below.
  induction depth with
  | zero => exact ⟨fun _ => .throw hR _, Callback.exec_within hR (exhausted_within hR)⟩
  | succ depth ih =>
    exact ⟨fun slots => Code.exec_within hR ih _, Callback.exec_within hR ih⟩

/-- A call of guest code by the host stays within a stable relation, however the guest ends. -/
theorem Guest.run_within (hR : Session.Stable R) (g : Guest σ) (code : Code σ α) :
    Action.Within R (g.run code) :=
  Code.exec_within hR (Reentry.level_within hR _ _) code

end GuestBridge
