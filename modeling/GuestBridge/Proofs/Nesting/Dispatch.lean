import GuestBridge.Proofs.Nesting.Guard
/-!
# What an external call comes to

A call that passes every check enters its callback once, with the decoded arguments, and how the
callback ends decides what the guest gets (`GuestGets`). A call that fails a check enters nothing
and changes nothing: a wrong shape is reported and answered by a status, everything else traps the
guest.

The crux of "once" is nesting. The callback may allocate, and the guest's allocator may call again;
but it does so with the guard set, so the entry of the call itself is the only one among all moments
below it (`no_entry_context`).

## Main statement

* **`dispatch_external_call`** — both kinds of call, at every depth.
-/

namespace GuestBridge

variable {σ : Type}

/-- What callbacks on a level are run by. -/
def Reentry.below (malloc : Int32 → Code σ Int32) : (depth : Nat) → Reentry σ
  | 0 => exhausted
  | depth + 1 => level malloc depth

/-- A callback of a level is run by what lies below it. -/
theorem Reentry.callback_level (malloc : Int32 → Code σ Int32) (depth : Nat) (function : String)
    (body : Callback Unit) (s : Session σ) :
    (level malloc depth).callback function body s =
      Callback.exec (below malloc depth) function body s := by
  cases depth <;> rfl

namespace ExternalCall

/-- The report of a call that failed without trapping the guest. -/
def failure (e : BridgeError) : Event :=
  let kind :=
    match e with
    | .callback .. => FailureKind.callback
    | _ => FailureKind.dispatch
  .failure ⟨"core", "extFunctionCall", kind, e.message⟩

/-- Which answer the guest gets for an outcome of the callback. The guard is released in every case,
and a failure that the guest survives is reported. -/
inductive GuestGets :
    EStateM.Result BridgeError (Session σ) Unit → EStateM.Result Trap (Session σ) Int32 → Prop
  | success (t : Session σ) : GuestGets (.ok () t) (.ok 0 { t with inExternalCall := false })
  | fatal {e : BridgeError} (fatal : e.isFatal = true) (t : Session σ) :
      GuestGets (.error e t) (.error (.host e) { t with inExternalCall := false })
  | unsupported (name reason : String) (t : Session σ) :
      GuestGets (.error (.unsupportedShape name reason) t)
        (.ok (-1) ({ t with inExternalCall := false }.emit
          (failure (.unsupportedShape name reason))))
  | failed {e : BridgeError} (recoverable : e.isFatal = false)
      (shape : ∀ name reason, e ≠ .unsupportedShape name reason) (t : Session σ) :
      GuestGets (.error e t) (.ok (-2) ({ t with inExternalCall := false }.emit (failure e)))

/-- Only a callback that succeeds is answered by zero. -/
theorem GuestGets.zero_iff {r : EStateM.Result BridgeError (Session σ) Unit}
    {answer : EStateM.Result Trap (Session σ) Int32} (h : GuestGets r answer) :
    (∃ t, answer = .ok 0 t) ↔ ∃ t, r = .ok () t := by
  cases h with
  | success t => exact ⟨fun _ => ⟨t, rfl⟩, fun _ => ⟨_, rfl⟩⟩
  | fatal _ t => simp only [reduceCtorEq, exists_false]
  | unsupported name reason t =>
    have hstatus : (-1 : Int32) ≠ 0 := by decide
    simp only [EStateM.Result.ok.injEq, hstatus, false_and, reduceCtorEq, exists_false]
  | failed _ _ t =>
    have hstatus : (-2 : Int32) ≠ 0 := by decide
    simp only [EStateM.Result.ok.injEq, hstatus, false_and, reduceCtorEq, exists_false]

/-! ## The two kinds of call -/

variable {s : Session σ} {call : ExternalCall}

/-- A valid call sets the guard, runs its callback and translates the outcome. By cases on the
error, as the translation goes by its kind. -/
theorem answer_of_valid (re : Reentry σ) {f : ExternalFunction} {args : List Value}
    (h : call.Valid s f args) :
    GuestGets (re.callback f.name (f.callback args) { s with inExternalCall := true })
      ((HostCall.external call).answer re s) := by
  show GuestGets _ (HostCall.answerExternal re call s)
  simp only [HostCall.answerExternal, ExternalCall.run, resolve_of_valid h, guarded]
  cases re.callback f.name (f.callback args) { s with inExternalCall := true } with
  | ok r t => exact .success t
  | error e t =>
    cases e with
    | unsupportedShape name reason => exact .unsupported name reason t
    | registrationRejected _ _ | duplicateId _ | idOutOfRange _ | callback _ _ =>
      exact .failed rfl (fun _ _ => BridgeError.noConfusion) t
    | unknownFunction _ | tagMismatch _ _ _ _ | arityMismatch _ _ _ | frame _ _
    | allocationFailed _ _ | reentrant _ | codec _ | noArena | guest _ => exact .fatal rfl t

/-- A refused call is fatal, unless it is of an unsupported shape. -/
theorem Refused.fatal_or_shape {e : BridgeError} (h : call.Refused s e) :
    e.isFatal = true ∨ ∃ name reason, e = .unsupportedShape name reason := by
  cases h with
  | reentrant _ | unknown _ _ | argWords _ _ _ | retWords _ _ _ _ | returnFrame _ _ =>
    exact .inl rfl
  | returns _ _ _ | arrays _ _ _ _ => exact .inr ⟨_, _, rfl⟩
  | arguments _ refused =>
    rcases Arguments.decode_error refused with ⟨_, rfl⟩ | ⟨_, rfl⟩ | ⟨_, _, _, rfl⟩ <;>
      exact .inl rfl

/-- A refused call is answered without any callback, in the session it was made in. -/
theorem answer_of_refused (re : Reentry σ) {e : BridgeError} (h : call.Refused s e) :
    (HostCall.external call).answer re s =
      if e.isFatal then .error (.host e) s
      else .ok e.status (s.emit (failure e)) := by
  show HostCall.answerExternal re call s = _
  simp only [HostCall.answerExternal, ExternalCall.run, resolve_of_refused h]
  rcases h.fatal_or_shape with hfatal | ⟨name, reason, rfl⟩
  · rw [if_pos hfatal, if_pos hfatal]
    rfl
  · rfl

/-- A valid call enters one callback, its own. -/
theorem entries_of_valid (malloc : Int32 → Code σ Int32) (depth active : Nat)
    {f : ExternalFunction} {args : List Value} (h : call.Valid s f args) :
    ((Watch.level malloc depth).externalCall active call s).filterMap Moment.entry? =
      [(f, args)] := by
  -- every moment below the entry starts with the guard set
  have hbelow := (Watch.level_ensures no_entry_context malloc depth).callback (active + 1) f.name
    (f.callback args) { s with inExternalCall := true } rfl
  unfold Watch.externalCall
  rw [resolve_of_valid h]
  show _ :: List.filterMap Moment.entry? _ = _
  rw [List.filterMap_eq_nil_iff.mpr hbelow]

/-- A refused call passes no moments. -/
theorem entries_of_refused (w : Watch σ) (active : Nat) {e : BridgeError}
    (h : call.Refused s e) : w.externalCall active call s = [] := by
  -- an error of the checks ends the call before anything is run
  unfold Watch.externalCall
  rw [resolve_of_refused h]

end ExternalCall

/-- **An external call runs its callback exactly when it is valid.** For every session, guest and
call, at every depth: a valid call enters the callback of its function exactly once, with exactly
the decoded arguments, and the guest gets what `GuestGets` says of the callback's outcome; that is
zero if and only if the callback succeeds. A call that is not valid is refused with the error of the
first check that it fails. It enters no callback. If its shape is not supported, the guest gets -1
and the failure is reported; otherwise the guest traps with the error. Nothing else changes. -/
theorem dispatch_external_call (g : Guest σ) (s : Session σ) (call : ExternalCall)
    (depth active : Nat) :
    let answer : EStateM.Result Trap (Session σ) Int32 :=
      (HostCall.external call).answer (Reentry.level g.entry.malloc depth) s
    let moments := (Watch.level g.entry.malloc depth).externalCall active call s
    (∀ f args, call.Valid s f args →
      let outcome := Callback.exec (Reentry.below g.entry.malloc depth) f.name (f.callback args)
        { s with inExternalCall := true }
      moments.filterMap Moment.entry? = [(f, args)] ∧
      ExternalCall.GuestGets outcome answer ∧
      ((∃ t, answer = .ok 0 t) ↔ ∃ t, outcome = .ok () t)) ∧
    ((¬ ∃ f args, call.Valid s f args) →
      moments = [] ∧
      ∃ e, call.Refused s e ∧
        ((∃ name reason, e = .unsupportedShape name reason) ∧
            answer = .ok (-1) (s.emit (ExternalCall.failure e)) ∨
          (¬ ∃ name reason, e = .unsupportedShape name reason) ∧
            answer = .error (.host e) s)) := by
  refine ⟨fun f args hvalid => ?_, fun hinvalid => ?_⟩
  · have hgets := ExternalCall.answer_of_valid (Reentry.level g.entry.malloc depth) hvalid
    rw [Reentry.callback_level] at hgets
    exact ⟨ExternalCall.entries_of_valid _ depth active hvalid, hgets, hgets.zero_iff⟩
  · rcases ExternalCall.valid_or_refused s call with hvalid | ⟨e, hrefused⟩
    · exact absurd hvalid hinvalid
    have hanswer := ExternalCall.answer_of_refused (Reentry.level g.entry.malloc depth) hrefused
    refine ⟨ExternalCall.entries_of_refused _ active hrefused, e, hrefused, ?_⟩
    -- The kind of the refusal is read off its error: a shape is recoverable, all others are fatal.
    rcases hrefused.fatal_or_shape with hfatal | ⟨name, reason, rfl⟩
    · rw [if_pos hfatal] at hanswer
      refine .inr ⟨?_, hanswer⟩
      rintro ⟨name, reason, rfl⟩
      cases hfatal
    · exact .inl ⟨⟨name, reason, rfl⟩, hanswer⟩

/-- A call with null frames is valid for a function without arguments, and the guest's own call
from inside it enters nothing. -/
theorem dispatch_external_call_once :
    let call : ExternalCall := ⟨1, 0, 0, 0, 0⟩
    call.Valid callingSession allocating [] ∧
    ((Watch.level callingGuest.entry.malloc Guest.callDepth).externalCall 0 call
      callingSession).filterMap Moment.entry? = [(allocating, [])] := by
  intro call
  have known : ExternalCall.Known callingSession call allocating :=
    ⟨rfl, rfl, by decide, by decide⟩
  have valid : call.Valid callingSession allocating [] := ⟨⟨known, rfl, rfl, by decide⟩, rfl⟩
  exact ⟨valid, ((dispatch_external_call callingGuest callingSession call Guest.callDepth 0).1
    allocating [] valid).1⟩

end GuestBridge
