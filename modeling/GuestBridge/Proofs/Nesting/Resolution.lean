import GuestBridge.Bridge.Call
import GuestBridge.Proofs.Frame.Faults
/-!
# Which external calls are valid

The checks of an external call, said on their own. `ExternalCall.Valid` is the conjunction of all of
them; `ExternalCall.Refused` gives for each check the error of a call that passes the checks before
it and fails this one, so the order of the constructors is the order of the checks.

## Main statements

* **`resolve_of_valid`** — a valid call is resolved to its function and its arguments;
* **`resolve_of_refused`** — a refused one to the error of the first check that it fails;
* **`valid_or_refused`** — there is no third kind of call.
-/

namespace GuestBridge.ExternalCall

variable {σ : Type}

/-- The first four checks: no call is in progress, the id is registered, and both frames have a
size. -/
structure Known (s : Session σ) (call : ExternalCall) (f : ExternalFunction) : Prop where
  idle : s.inExternalCall = false
  registered : s.table.get? call.id = some f
  argWords : 0 ≤ call.argWords
  retWords : 0 ≤ call.retWords

/-- The next three: nothing is to be returned, by the frame and by the signature, and no argument
is an array. -/
structure Shaped (s : Session σ) (call : ExternalCall) (f : ExternalFunction) : Prop extends
    Known s call f where
  frameReturns : call.returnCount s call.retWords.toInt.toNat = .ok 0
  declaredReturns : f.signature.rets = []
  arrays : .array ∉ f.signature.args

/-- A valid call: the argument frame holds arguments of the registered tags, too. -/
structure Valid (s : Session σ) (call : ExternalCall) (f : ExternalFunction) (args : List Value) :
    Prop extends Shaped s call f where
  arguments : Arguments.decode f.name f.signature.args s.arena.memory (.ofInt32 call.args)
    call.argWords.toInt.toNat = .ok args

/-- The error of the first check that a call fails. -/
inductive Refused (s : Session σ) (call : ExternalCall) : BridgeError → Prop
  | reentrant (busy : s.inExternalCall = true) : Refused s call (.reentrant call.id)
  | unknown (idle : s.inExternalCall = false) (missing : s.table.get? call.id = none) :
      Refused s call (.unknownFunction call.id)
  | argWords {f : ExternalFunction} (idle : s.inExternalCall = false)
      (registered : s.table.get? call.id = some f) (negative : call.argWords < 0) :
      Refused s call (.frame f.name (.invalidCount call.argWords.toInt64))
  | retWords {f : ExternalFunction} (idle : s.inExternalCall = false)
      (registered : s.table.get? call.id = some f) (argWords : 0 ≤ call.argWords)
      (negative : call.retWords < 0) :
      Refused s call (.frame f.name (.invalidCount call.retWords.toInt64))
  | returnFrame {f : ExternalFunction} {fault : Fault} (known : Known s call f)
      (unreadable : call.returnCount s call.retWords.toInt.toNat = .error fault) :
      Refused s call (.frame f.name fault)
  | returns {f : ExternalFunction} {n : Nat} (known : Known s call f)
      (readable : call.returnCount s call.retWords.toInt.toNat = .ok n)
      (returned : 0 < n ∨ f.signature.rets ≠ []) :
      Refused s call (.unsupportedShape f.name
        ("return values are not supported (" ++ toString n ++ " requested)"))
  | arrays {f : ExternalFunction} (known : Known s call f)
      (frameReturns : call.returnCount s call.retWords.toInt.toNat = .ok 0)
      (declaredReturns : f.signature.rets = []) (array : .array ∈ f.signature.args) :
      Refused s call (.unsupportedShape f.name "array arguments are not supported")
  | arguments {f : ExternalFunction} {e : BridgeError} (shaped : Shaped s call f)
      (refused : Arguments.decode f.name f.signature.args s.arena.memory (.ofInt32 call.args)
        call.argWords.toInt.toNat = .error e) : Refused s call e

variable {s : Session σ} {call : ExternalCall} {f : ExternalFunction}

/-! ## One check after the other -/

theorem wordCount_of_nonneg {function : String} {raw : Int32} (h : 0 ≤ raw) :
    wordCount function raw = .ok raw.toInt.toNat := by
  rw [wordCount, if_neg (Int32.not_lt.mpr h)]

theorem wordCount_of_neg {function : String} {raw : Int32} (h : raw < 0) :
    wordCount function raw = .error (.frame function (.invalidCount raw.toInt64)) := by
  rw [wordCount, if_pos h]

/-- Without returns, a signature uses an array if an argument is one. -/
theorem usesArray_of_noReturns {g : Signature} (h : g.rets = []) :
    g.usesArray = true ↔ .array ∈ g.args := by
  rw [Signature.usesArray, h, List.append_nil, List.any_eq_true]
  exact ⟨fun ⟨t, ht, heq⟩ => eq_of_beq heq ▸ ht, fun ht => ⟨_, ht, beq_self_eq_true _⟩⟩

/-- The guard is looked at first. -/
theorem resolve_of_busy (h : s.inExternalCall = true) :
    call.resolve s = .error (.reentrant call.id) := by
  rw [resolve, if_pos h]
  rfl

/-- An unknown id is refused before any frame is looked at. -/
theorem resolve_of_unknown (h : s.inExternalCall = false) (hget : s.table.get? call.id = none) :
    call.resolve s = .error (.unknownFunction call.id) := by
  rw [resolve, if_neg (Bool.eq_false_iff.mp h), hget]
  rfl

/-- With a registered id, all other checks are about the frames. -/
theorem resolve_of_registered (h : s.inExternalCall = false)
    (hget : s.table.get? call.id = some f) :
    call.resolve s = (call.argumentsOf s f).map fun args => (f, args) := by
  rw [resolve, if_neg (Bool.eq_false_iff.mp h), hget]
  rfl

/-- A negative length of the argument frame is refused first. -/
theorem argumentsOf_of_argWords_neg (h : call.argWords < 0) :
    call.argumentsOf s f = .error (.frame f.name (.invalidCount call.argWords.toInt64)) := by
  rw [argumentsOf, wordCount_of_neg h]
  rfl

/-- A negative length of the return frame is refused where that of the argument frame is none. -/
theorem argumentsOf_of_retWords_neg (harg : 0 ≤ call.argWords) (h : call.retWords < 0) :
    call.argumentsOf s f = .error (.frame f.name (.invalidCount call.retWords.toInt64)) := by
  rw [argumentsOf, wordCount_of_nonneg harg, wordCount_of_neg h]
  rfl

/-- A return frame that cannot be read is refused before the arguments are decoded. -/
theorem argumentsOf_of_returnFault (harg : 0 ≤ call.argWords) (hret : 0 ≤ call.retWords)
    {fault : Fault} (h : call.returnCount s call.retWords.toInt.toNat = .error fault) :
    call.argumentsOf s f = .error (.frame f.name fault) := by
  rw [argumentsOf, wordCount_of_nonneg harg, wordCount_of_nonneg hret]
  show (Arguments.ofFrame f.name (call.returnCount s call.retWords.toInt.toNat) >>= _) = _
  rw [h]
  rfl

/-- Behind the return frame three checks are left: returns, arrays and the argument frame. -/
theorem argumentsOf_of_returnCount (harg : 0 ≤ call.argWords) (hret : 0 ≤ call.retWords) {n : Nat}
    (h : call.returnCount s call.retWords.toInt.toNat = .ok n) :
    call.argumentsOf s f =
      if 0 < n ∨ f.signature.rets ≠ [] then
        .error (.unsupportedShape f.name
          ("return values are not supported (" ++ toString n ++ " requested)"))
      else if .array ∈ f.signature.args then
        .error (.unsupportedShape f.name "array arguments are not supported")
      else Arguments.decode f.name f.signature.args s.arena.memory (.ofInt32 call.args)
        call.argWords.toInt.toNat := by
  rw [argumentsOf, wordCount_of_nonneg harg, wordCount_of_nonneg hret]
  show (Arguments.ofFrame f.name (call.returnCount s call.retWords.toInt.toNat) >>= _) = _
  rw [h]
  -- The program tests with Booleans what the statement says with propositions; both `if`s are taken
  -- the same way.
  by_cases hreturns : 0 < n ∨ f.signature.rets ≠ []
  · have hcond : (decide (n > 0) || !f.signature.rets.isEmpty) = true := by
      simpa [List.isEmpty_iff] using hreturns
    rw [if_pos hreturns]
    show (if (decide (n > 0) || !f.signature.rets.isEmpty) = true then _ else _) = _
    rw [if_pos hcond]
    rfl
  · have hcond : ¬ (decide (n > 0) || !f.signature.rets.isEmpty) = true := by
      simpa [List.isEmpty_iff] using hreturns
    have hnone : f.signature.rets = [] := by
      by_contra hsome
      exact hreturns (.inr hsome)
    rw [if_neg hreturns]
    show (if (decide (n > 0) || !f.signature.rets.isEmpty) = true then _ else _) = _
    rw [if_neg hcond]
    by_cases harray : .array ∈ f.signature.args
    · rw [if_pos harray]
      show (if f.signature.usesArray = true then _ else _) = _
      rw [if_pos ((usesArray_of_noReturns hnone).mpr harray)]
      rfl
    · rw [if_neg harray]
      show (if f.signature.usesArray = true then _ else _) = _
      rw [if_neg fun hused => harray ((usesArray_of_noReturns hnone).mp hused)]

/-! ## All checks together -/

/-- A call of the right shape is left to its argument frame. -/
theorem Shaped.argumentsOf_eq (h : Shaped s call f) :
    call.argumentsOf s f =
      Arguments.decode f.name f.signature.args s.arena.memory (.ofInt32 call.args)
        call.argWords.toInt.toNat := by
  have hreturns : ¬ (0 < 0 ∨ f.signature.rets ≠ []) := by
    rw [h.declaredReturns]
    decide
  rw [argumentsOf_of_returnCount h.argWords h.retWords h.frameReturns, if_neg hreturns,
    if_neg h.arrays]

/-- A valid call is resolved to its function and its arguments. -/
theorem resolve_of_valid {args : List Value} (h : Valid s call f args) :
    call.resolve s = .ok (f, args) := by
  rw [resolve_of_registered h.idle h.registered, h.toShaped.argumentsOf_eq, h.arguments]
  rfl

/-- A refused call is resolved to the error of the first check that it fails. -/
theorem resolve_of_refused {e : BridgeError} (h : Refused s call e) :
    call.resolve s = .error e := by
  -- One case for each check; the hypotheses of a case say that those before it are passed.
  cases h with
  | reentrant busy => exact resolve_of_busy busy
  | unknown idle missing => exact resolve_of_unknown idle missing
  | argWords idle registered negative =>
    rw [resolve_of_registered idle registered, argumentsOf_of_argWords_neg negative]
    rfl
  | retWords idle registered argWords negative =>
    rw [resolve_of_registered idle registered, argumentsOf_of_retWords_neg argWords negative]
    rfl
  | returnFrame known unreadable =>
    rw [resolve_of_registered known.idle known.registered,
      argumentsOf_of_returnFault known.argWords known.retWords unreadable]
    rfl
  | returns known readable returned =>
    rw [resolve_of_registered known.idle known.registered,
      argumentsOf_of_returnCount known.argWords known.retWords readable, if_pos returned]
    rfl
  | @arrays g known frameReturns declaredReturns array =>
    have hreturns : ¬ (0 < 0 ∨ g.signature.rets ≠ []) := by
      rw [declaredReturns]
      decide
    rw [resolve_of_registered known.idle known.registered,
      argumentsOf_of_returnCount known.argWords known.retWords frameReturns, if_neg hreturns,
      if_pos array]
    rfl
  | arguments shaped refused =>
    rw [resolve_of_registered shaped.idle shaped.registered, shaped.argumentsOf_eq, refused]
    rfl

/-- Every call is valid or refused. -/
theorem valid_or_refused (s : Session σ) (call : ExternalCall) :
    (∃ f args, Valid s call f args) ∨ ∃ e, Refused s call e := by
  -- One check after the other, in their order; each case has passed those before it.
  cases hguard : s.inExternalCall with
  | true => exact .inr ⟨_, .reentrant hguard⟩
  | false =>
  cases hget : s.table.get? call.id with
  | none => exact .inr ⟨_, .unknown hguard hget⟩
  | some f =>
  by_cases harg : call.argWords < 0
  · exact .inr ⟨_, .argWords hguard hget harg⟩
  have harg := Int32.not_lt.mp harg
  by_cases hret : call.retWords < 0
  · exact .inr ⟨_, .retWords hguard hget harg hret⟩
  have known : Known s call f := ⟨hguard, hget, harg, Int32.not_lt.mp hret⟩
  cases hcount : call.returnCount s call.retWords.toInt.toNat with
  | error fault => exact .inr ⟨_, .returnFrame known hcount⟩
  | ok n =>
  by_cases hreturns : 0 < n ∨ f.signature.rets ≠ []
  · exact .inr ⟨_, .returns known hcount hreturns⟩
  have hzero : n = 0 := by omega
  have hnone : f.signature.rets = [] := by
    by_contra hsome
    exact hreturns (.inr hsome)
  rw [hzero] at hcount
  by_cases harray : .array ∈ f.signature.args
  · exact .inr ⟨_, .arrays known hcount hnone harray⟩
  have shaped : Shaped s call f := ⟨known, hcount, hnone, harray⟩
  cases hargs : Arguments.decode f.name f.signature.args s.arena.memory (.ofInt32 call.args)
      call.argWords.toInt.toNat with
  | error e => exact .inr ⟨e, .arguments shaped hargs⟩
  | ok args => exact .inl ⟨f, args, shaped, hargs⟩

/-- Only a call inside another one is refused as reentrant. -/
theorem resolve_ne_reentrant (h : s.inExternalCall = false) (call : ExternalCall) (id : Int32) :
    call.resolve s ≠ .error (.reentrant id) := by
  intro hresolve
  rcases valid_or_refused s call with ⟨f, args, hvalid⟩ | ⟨e, hrefused⟩
  · rw [resolve_of_valid hvalid] at hresolve
    cases hresolve
  · rw [resolve_of_refused hrefused, Except.error.injEq] at hresolve
    subst hresolve
    cases hrefused with
    | reentrant busy =>
      rw [h] at busy
      cases busy
    | arguments shaped refused =>
      -- what a frame can be refused for is about its words
      rcases Arguments.decode_error refused with ⟨_, h⟩ | ⟨_, h⟩ | ⟨_, _, _, h⟩ <;> cases h

end GuestBridge.ExternalCall
