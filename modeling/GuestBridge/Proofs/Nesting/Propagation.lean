import GuestBridge.Guest.Boot
import GuestBridge.Proofs.Arena.Grants
import GuestBridge.Proofs.Guest.Compatibility
import GuestBridge.Proofs.Nesting.Dispatch
import GuestBridge.Proofs.Nesting.TypedFunctions
/-!
# Errors of the host cross every nesting

Inside a call of guest code, an import may run a callback, the callback may allocate, the guest's
allocator runs and may call an import again. What is going on is a stack of layers (`Layer`), and an
error that is raised in the innermost of them goes through all the others: an allocation wraps what
ended the allocator, an import turns an error into a trap, and in the end the host unwraps the trap.

`Layer.Raises` says where an error comes from. It is raised by a host function: by an import that
refuses a call, by an allocation that is not answered by a block, by an operation of a callback or
by the callback itself. And it goes on unchanged: from the allocator to the allocation, from an
operation to the callback that returns its error, from the callback to the import if it is fatal,
from the import to the guest code that called it. The relation never converts an error; the theorem
is that the program, which does so on every layer, gives the same (`Layer.endsWith_iff`).

## Main statement

* **`host_errors_cross_every_nesting`** — the errors of all calls of guest code by the host.
-/

namespace GuestBridge

variable {σ α : Type}

/-! ## Faults of guest code -/

namespace Code

/-- An operation that is a fault of the guest's own. -/
inductive Op.Faults (s : Session σ) : Op σ → String → Prop
  | trap : Op.Faults s .trap "unreachable code executed"
  | load {address length : Nat} (outside : s.arena.memory.holds address length = false) :
      Op.Faults s (.load address length) "memory access out of bounds"
  | store {address : Nat} {bytes : List UInt8}
      (outside : s.arena.memory.holds address bytes.length = false) :
      Op.Faults s (.store address bytes) "memory access out of bounds"

/-- Guest code traps of its own: all operations before are answered, and then there is a fault. -/
inductive Traps (re : Reentry σ) : Code σ α → Session σ → String → Prop
  | fault {op : Op σ} {next : Reply σ op → Code σ α} {s : Session σ} {reason : String}
      (faults : op.Faults s reason) : Traps re (Program.perform op next) s reason
  | later {op : Op σ} {next : Reply σ op → Code σ α} {s t : Session σ} {r : Reply σ op}
      {reason : String} (answered : answer re op s = .ok r t) (traps : Traps re (next r) t reason) :
      Traps re (Program.perform op next) s reason

end Code

/-! ## Layers -/

namespace Callback

/-- The error of a result. -/
def error? {ε β : Type} : Except ε β → Option ε
  | .error e => some e
  | .ok _ => none

/-- The error that an operation replied. -/
def failure? : (op : Op) → Reply op → Option BridgeError
  | .allocate _, r | .allocateText _, r => error? r
  | .readText _ _, r => error? r
  | .write _ _, r | .invoke _ _, r => error? r
  | _, _ => none

/-- The operations that a callback performs, each with the session before it. -/
def performed (re : Reentry σ) (function : String) (body : Callback Unit) (s : Session σ) :
    List (Op × Session σ) :=
  Program.visits (fun op t => [(op, t)]) (fun op t => some (answer re function op t)) body.run s

/-- A callback returns an error. -/
def Returns (re : Reentry σ) (function : String) (body : Callback Unit) (s : Session σ)
    (e : BridgeError) : Prop :=
  ∃ t, exec re function body s = .error e t

end Callback

/-- What can be going on inside a call of guest code, each inside another. -/
inductive Layer (σ : Type) : Type 1
  | code {α : Type} (code : Code σ α)
  | hostCall (call : HostCall)
  /-- The guest's allocator, called through the host's allocator proxy. -/
  | allocation (slots : Nat)
  | callback (function : String) (body : Callback Unit)
  | operation (function : String) (op : Callback.Op)

namespace Layer

/-- A layer ends with an error. -/
def EndsWith (re : Reentry σ) : Layer σ → Session σ → BridgeError → Prop
  | code c, s, e => ∃ t, c.exec re s = .error (.host e) t
  | hostCall call, s, e => ∃ t, call.answer re s = .error (.host e) t
  | allocation slots, s, e => ∃ t, Allocation.allocate re.malloc slots s = .error e t
  | callback function body, s, e => ∃ t, re.callback function body s = .error e t
  | operation function op, s, e =>
    Callback.failure? op (Callback.answer re function op s).1 = some e

/-- Somewhere inside a layer an error is raised, and all between passes it on. -/
inductive Raises (malloc : Int32 → Code σ Int32) :
    Reentry σ → Layer σ → Session σ → BridgeError → Prop
  /-- Guest code does not see an error of its import. -/
  | calling {α : Type} {re : Reentry σ} {call : HostCall}
      {next : Code.Reply σ (.host call) → Code σ α} {s : Session σ} {e : BridgeError}
      (raised : Raises malloc re (.hostCall call) s e) :
      Raises malloc re (.code (Program.perform (.host call) next)) s e
  | later {α : Type} {re : Reentry σ} {op : Code.Op σ} {next : Code.Reply σ op → Code σ α}
      {s t : Session σ} {r : Code.Reply σ op} {e : BridgeError}
      (answered : Code.answer re op s = .ok r t) (raised : Raises malloc re (.code (next r)) t e) :
      Raises malloc re (.code (Program.perform op next)) s e
  -- Imports
  | refused {re : Reentry σ} {call : ExternalCall} {s : Session σ} {e : BridgeError}
      (refused : call.Refused s e) (fatal : e.isFatal = true) :
      Raises malloc re (.hostCall (.external call)) s e
  | entered {re : Reentry σ} {call : ExternalCall} {f : ExternalFunction} {args : List Value}
      {s : Session σ} {e : BridgeError} (valid : call.Valid s f args)
      (raised : Raises malloc re (.callback f.name (f.callback args))
        { s with inExternalCall := true } e) (fatal : e.isFatal = true) :
      Raises malloc re (.hostCall (.external call)) s e
  | floatToString {re : Reentry σ} {v : Double} {digits : Int32} {s : Session σ} {e : BridgeError}
      (raised : Raises malloc re (.allocation (Slots.count (v.fixed digits))) s e) :
      Raises malloc re (.hostCall (.floatToString v digits)) s e
  | loadTextFile {re : Reentry σ} {name length : Int32} {file text : String} {s t : Session σ}
      {e : BridgeError} (named : HostCall.requestedName s name length = .ok file)
      (found : s.loadText file = (some text, t))
      (raised : Raises malloc re (.allocation (Slots.count text)) t e) :
      Raises malloc re (.hostCall (.loadTextFile name length)) s e
  -- Allocations
  | tooMany {re : Reentry σ} {slots : Nat} {s : Session σ} (tooMany : Allocation.maxSlots < slots) :
      Raises malloc re (.allocation slots) s (.allocationFailed slots 0)
  | ungranted {re : Reentry σ} {slots : Nat} {raw : Int32} {s t : Session σ}
      (asked : slots ≤ Allocation.maxSlots) (answer : re.malloc (Int32.ofNat slots) s = .ok raw t)
      (none : ¬ Allocation.Grants t.arena.size slots raw) :
      Raises malloc re (.allocation slots) s (.allocationFailed slots raw)
  | noRoom {re : Reentry σ} {slots : Nat} {s : Session σ} (asked : slots ≤ Allocation.maxSlots)
      (full : re.malloc = Reentry.exhausted.malloc) :
      Raises malloc re (.allocation slots) s (.guest "call stack exhausted")
  | trapped {depth slots : Nat} {s : Session σ} {reason : String}
      (asked : slots ≤ Allocation.maxSlots)
      (traps : (malloc (Int32.ofNat slots)).Traps (.level malloc depth) s reason) :
      Raises malloc (.level malloc (depth + 1)) (.allocation slots) s (.guest reason)
  | allocator {depth slots : Nat} {s : Session σ} {e : BridgeError}
      (asked : slots ≤ Allocation.maxSlots)
      (raised : Raises malloc (.level malloc depth) (.code (malloc (Int32.ofNat slots))) s e) :
      Raises malloc (.level malloc (depth + 1)) (.allocation slots) s e
  -- Operations of callbacks
  | allocate {re : Reentry σ} {function : String} {slots : Nat} {s : Session σ} {e : BridgeError}
      (raised : Raises malloc re (.allocation slots) s e) :
      Raises malloc re (.operation function (.allocate slots)) s e
  | allocateText {re : Reentry σ} {function text : String} {s : Session σ} {e : BridgeError}
      (raised : Raises malloc re (.allocation (Slots.count text)) s e) :
      Raises malloc re (.operation function (.allocateText text)) s e
  | readText {re : Reentry σ} {function : String} {p : Pointer} {length : Nat} {s : Session σ}
      {e : BridgeError} (unreadable : s.arena.readText p length = .error e) :
      Raises malloc re (.operation function (.readText p length)) s e
  | write {re : Reentry σ} {function : String} {p : Pointer} {bytes : List UInt8} {s : Session σ}
      {e : BridgeError} (unwritable : s.arena.write p bytes = .error e) :
      Raises malloc re (.operation function (.write p bytes)) s e
  | unknown {re : Reentry σ} {function : String} {id : Int32} {args : List Value} {s : Session σ}
      (missing : s.table.get? id = none) :
      Raises malloc re (.operation function (.invoke id args)) s (.unknownFunction id)
  | invoke {re : Reentry σ} {function : String} {id : Int32} {args : List Value}
      {f : ExternalFunction} {s : Session σ} {e : BridgeError}
      (registered : s.table.get? id = some f)
      (raised : Raises malloc re (.callback function (f.callback args)) s e) :
      Raises malloc re (.operation function (.invoke id args)) s e
  -- Callbacks
  /-- A callback raises an error that it did not get from an operation. -/
  | own {depth : Nat} {function : String} {body : Callback Unit} {s : Session σ} {e : BridgeError}
      (returned : Callback.Returns (.below malloc depth) function body s e)
      (own : ∀ row ∈ Callback.performed (.below malloc depth) function body s,
        ¬ (operation function row.1).EndsWith (.below malloc depth) row.2 e) :
      Raises malloc (.level malloc depth) (.callback function body) s e
  /-- A callback returns the error that it got. -/
  | passed {depth : Nat} {function : String} {body : Callback Unit} {op : Callback.Op}
      {s t : Session σ} {e : BridgeError}
      (performed : (op, t) ∈ Callback.performed (.below malloc depth) function body s)
      (raised : Raises malloc (.below malloc depth) (.operation function op) t e)
      (returned : Callback.Returns (.below malloc depth) function body s e) :
      Raises malloc (.level malloc depth) (.callback function body) s e
  | nested {function : String} {body : Callback Unit} {s : Session σ} :
      Raises malloc .exhausted (.callback function body) s (.guest "call stack exhausted")

end Layer

/-! ## How guest code ends -/

section Reentering

variable {re : Reentry σ} {s t : Session σ} {reason : String} {e : BridgeError}

/-- What comes out of an import is an error of the host. -/
theorem HostCall.exists_of_error {call : HostCall} {trap : Trap}
    (h : call.answer re s = .error trap t) : ∃ e, trap = .host e := by
  cases call with
  | external call =>
    change HostCall.answerExternal re call s = _ at h
    unfold HostCall.answerExternal at h
    split at h
    · cases h
    · split at h
      · cases h
        exact ⟨_, rfl⟩
      · cases h
  | floatToString v digits =>
    change HostCall.answerFloatText re v digits s = _ at h
    unfold HostCall.answerFloatText at h
    split at h
    · cases h
    · cases h
      exact ⟨_, rfl⟩
  | loadTextFile name length =>
    change HostCall.answerTextFile re name length s = _ at h
    unfold HostCall.answerTextFile at h
    split at h
    · cases h
    · split at h
      · cases h
      · split at h
        · cases h
        · cases h
          exact ⟨_, rfl⟩
  | putChar _ | printDouble _ | date | time | unary _ _ | binary _ _ _ | test _ _ | random =>
    cases h

namespace Code

/-- An operation traps as a fault of the guest where it is one: what comes out of an import is an
error of the host. -/
theorem answer_eq_guest_iff {op : Op σ} :
    (∃ t, answer re op s = .error (.guest reason) t) ↔ op.Faults s reason := by
  constructor
  · rintro ⟨t, h⟩
    cases op with
    | trap =>
      cases h
      exact .trap
    | load address length =>
      simp only [answer] at h
      split at h
      · cases h
      · next hout =>
        cases h
        exact .load (Bool.eq_false_iff.mpr hout)
    | store address bytes =>
      simp only [answer] at h
      split at h
      · cases h
      · next hout =>
        cases h
        exact .store (Bool.eq_false_iff.mpr hout)
    | host call =>
      -- An import ends the guest with an error of the host only.
      obtain ⟨e, he⟩ := HostCall.exists_of_error h
      cases he
    | grow pages =>
      simp only [answer] at h
      split at h <;> cases h
    | getState | setState _ | memoryPages => cases h
  · intro hfaults
    cases hfaults with
    | trap => exact ⟨s, rfl⟩
    | load houtside => exact ⟨s, if_neg (Bool.eq_false_iff.mp houtside)⟩
    | store houtside => exact ⟨s, if_neg (Bool.eq_false_iff.mp houtside)⟩

/-- Code fails in its first operation or behind it. -/
theorem exec_perform_eq_error_iff {op : Op σ} {next : Reply σ op → Code σ α} {trap : Trap} :
    Code.exec re (Program.perform op next) s = .error trap t ↔
      answer re op s = .error trap t ∨
        ∃ r u, answer re op s = .ok r u ∧ (next r).exec re u = .error trap t :=
  Outcome.bind_eq_error_iff

/-- Guest code ends in a trap of its own where it runs into a fault. Induction on the code, and on
the run up to the fault. -/
theorem exec_eq_guest_iff {code : Code σ α} :
    (∃ t, code.exec re s = .error (.guest reason) t) ↔ code.Traps re s reason := by
  constructor
  · rintro ⟨t, h⟩
    induction code generalizing s with
    | done a => cases h
    | perform op next ih =>
      rcases exec_perform_eq_error_iff.mp h with hop | ⟨r, u, hok, hrest⟩
      · exact .fault (answer_eq_guest_iff.mp ⟨t, hop⟩)
      · exact .later hok (ih r hrest)
  · intro htraps
    induction htraps with
    | fault faults =>
      obtain ⟨t, h⟩ := answer_eq_guest_iff.mpr faults
      exact ⟨t, exec_perform_eq_error_iff.mpr (.inl h)⟩
    | later answered _ ih =>
      obtain ⟨t, h⟩ := ih
      exact ⟨t, exec_perform_eq_error_iff.mpr (.inr ⟨_, _, answered, h⟩)⟩

/-- An error of the host ends guest code in the import that raised it. -/
theorem answer_eq_host_iff {op : Op σ} :
    answer re op s = .error (.host e) t ↔
      ∃ call : HostCall, op = .host call ∧ call.answer re s = .error (.host e) t := by
  constructor
  · intro h
    cases op with
    | host call => exact ⟨call, rfl, h⟩
    | load address length =>
      simp only [answer] at h
      split at h <;> cases h
    | store address bytes =>
      simp only [answer] at h
      split at h <;> cases h
    | grow pages =>
      simp only [answer] at h
      split at h <;> cases h
    | trap | getState | setState _ | memoryPages => cases h
  · rintro ⟨call, rfl, h⟩
    exact h

end Code

/-! ## How imports and operations end -/

namespace HostCall

/-- A valid call ends the guest with a fatal error of its callback, and with no other. -/
theorem external_of_valid {call : ExternalCall} {f : ExternalFunction} {args : List Value}
    (hvalid : call.Valid s f args) :
    (∃ t, (external call).answer re s = .error (.host e) t) ↔
      e.isFatal = true ∧ ∃ t,
        re.callback f.name (f.callback args) { s with inExternalCall := true } = .error e t := by
  have hgets := ExternalCall.answer_of_valid re hvalid
  generalize re.callback f.name (f.callback args) { s with inExternalCall := true } = outcome
    at hgets ⊢
  generalize (external call).answer re s = answer at hgets ⊢
  cases hgets with
  | success t => simp only [reduceCtorEq, exists_false, and_false]
  | fatal hfatal t =>
    constructor
    · rintro ⟨u, h⟩
      cases h
      exact ⟨hfatal, t, rfl⟩
    · rintro ⟨-, u, h⟩
      cases h
      exact ⟨_, rfl⟩
  | unsupported name reason t =>
    constructor
    · rintro ⟨u, h⟩
      cases h
    · rintro ⟨hfatal, u, h⟩
      cases h
      cases hfatal
  | failed hrecoverable hshape t =>
    constructor
    · rintro ⟨u, h⟩
      cases h
    · rintro ⟨hfatal, u, h⟩
      cases h
      -- A recoverable error was answered, so the guest did not end.
      rw [hrecoverable] at hfatal
      cases hfatal

/-- A refused call ends the guest with the refusal, if that is fatal. -/
theorem external_of_refused {call : ExternalCall} {e' : BridgeError}
    (hrefused : call.Refused s e') :
    (∃ t, (external call).answer re s = .error (.host e) t) ↔ e.isFatal = true ∧ e = e' := by
  rw [ExternalCall.answer_of_refused re hrefused]
  by_cases hfatal : e'.isFatal = true
  · rw [if_pos hfatal]
    constructor
    · rintro ⟨t, h⟩
      cases h
      exact ⟨hfatal, rfl⟩
    · rintro ⟨-, rfl⟩
      exact ⟨s, rfl⟩
  · rw [if_neg hfatal]
    constructor
    · rintro ⟨t, h⟩
      cases h
    · rintro ⟨hfatal', rfl⟩
      exact absurd hfatal' hfatal

end HostCall

namespace Layer

/-- Writing a text fails where its allocation does, as the granted block has room for it. -/
theorem endsWith_writeText_iff {text : String} :
    (∃ t, Allocation.writeText re.malloc text s = .error e t) ↔
      (allocation (Slots.count text)).EndsWith re s e :=
  exists_congr fun _ =>
    Allocation.writeText_eq_error_iff.trans Allocation.allocate_eq_error_iff.symm

/-- Handing over a numeral fails where its allocation does. -/
theorem endsWith_floatToString_iff {v : Double} {digits : Int32} :
    (hostCall (.floatToString v digits)).EndsWith re s e ↔
      (allocation (Slots.count (v.fixed digits))).EndsWith re s e := by
  rw [← endsWith_writeText_iff]
  show (∃ t, HostCall.answerFloatText re v digits s = .error (.host e) t) ↔ _
  unfold HostCall.answerFloatText
  cases Allocation.writeText re.malloc (v.fixed digits) s with
  | ok p t => simp only [reduceCtorEq, exists_false]
  | error e' t => rw [Outcome.exists_error_iff, Outcome.exists_error_iff, Trap.host.injEq]

/-- Loading a text fails only in its allocation. An unreadable name and an unknown file are answered
by zero. -/
theorem endsWith_loadTextFile_iff {name length : Int32} :
    (hostCall (.loadTextFile name length)).EndsWith re s e ↔
      ∃ file text t, HostCall.requestedName s name length = .ok file ∧
        s.loadText file = (some text, t) ∧
        (allocation (Slots.count text)).EndsWith re t e := by
  show (∃ t, HostCall.answerTextFile re name length s = .error (.host e) t) ↔ _
  unfold HostCall.answerTextFile
  cases hname : HostCall.requestedName s name length with
  | error detail => simp only [reduceCtorEq, false_and, exists_false]
  | ok file =>
    simp only [Except.ok.injEq]
    cases hfound : s.loadText file with
    | mk found t =>
      cases found with
      | none =>
        constructor
        · rintro ⟨u, h⟩
          cases h
        · rintro ⟨file', text, u, rfl, hfound', -⟩
          rw [hfound] at hfound'
          cases hfound'
      | some text =>
        constructor
        · rintro ⟨u, h⟩
          refine ⟨file, text, t, rfl, hfound, endsWith_writeText_iff.mp ?_⟩
          dsimp only at h
          split at h
          · cases h
          · next hplace =>
            cases h
            exact ⟨_, hplace⟩
        · rintro ⟨file', text', t', rfl, hfound', hplace⟩
          -- The loader was asked once, so it is the same text.
          rw [hfound] at hfound'
          cases hfound'
          obtain ⟨u, hplace⟩ := endsWith_writeText_iff.mpr hplace
          exact ⟨u, by simp only [hplace]⟩

end Layer

namespace Callback

theorem error?_eq_some_iff {ε β : Type} {r : Except ε β} {e : ε} :
    error? r = some e ↔ r = .error e := by
  cases r with
  | ok b => simp only [error?, reduceCtorEq]
  | error e' => simp only [error?, Option.some.injEq, Except.error.injEq]

/-- An operation replies the error with which its action ends. -/
theorem error?_attempt_iff {β : Type} {a : Action BridgeError σ β} :
    error? (a.attempt s).1 = some e ↔ ∃ t, a s = .error e t := by
  rw [error?_eq_some_iff]
  unfold Action.attempt
  cases a s with
  | ok r t => simp only [reduceCtorEq, exists_false]
  | error e' t => simp only [Outcome.exists_error_iff, Except.error.injEq]

end Callback

namespace Layer

section Operations

variable {function : String}

/-- An allocation of a callback replies the error that is raised inside it. -/
theorem endsWith_allocate_iff {slots : Nat} :
    (operation function (.allocate slots)).EndsWith re s e ↔ (allocation slots).EndsWith re s e :=
  Callback.error?_attempt_iff

theorem endsWith_allocateText_iff {text : String} :
    (operation function (.allocateText text)).EndsWith re s e ↔
      (allocation (Slots.count text)).EndsWith re s e :=
  Callback.error?_attempt_iff.trans endsWith_writeText_iff

theorem endsWith_readText_iff {p : Pointer} {length : Nat} :
    (operation function (.readText p length)).EndsWith re s e ↔
      s.arena.readText p length = .error e :=
  Callback.error?_eq_some_iff

/-- A place that cannot be written is the error of writing to it. -/
theorem endsWith_write_iff {p : Pointer} {bytes : List UInt8} :
    (operation function (.write p bytes)).EndsWith re s e ↔ s.arena.write p bytes = .error e := by
  refine Callback.error?_attempt_iff.trans ?_
  unfold Action.writeMemory
  cases s.arena.write p bytes with
  | ok arena => simp only [reduceCtorEq, exists_false]
  | error e' => simp only [Outcome.exists_error_iff, Except.error.injEq]

/-- Running another function fails if there is none, or if its callback does. -/
theorem endsWith_invoke_iff {id : Int32} {args : List Value} :
    (operation function (.invoke id args)).EndsWith re s e ↔
      s.table.get? id = none ∧ e = .unknownFunction id ∨
        ∃ f, s.table.get? id = some f ∧
          (callback function (f.callback args)).EndsWith re s e := by
  refine Callback.error?_attempt_iff.trans ?_
  unfold Callback.invoked
  cases s.table.get? id with
  | none =>
    simp only [Outcome.exists_error_iff, true_and, reduceCtorEq, false_and, exists_false, or_false]
    exact eq_comm
  | some f =>
    simp only [reduceCtorEq, false_and, Option.some.injEq, false_or, exists_eq_left']
    exact Iff.rfl

end Operations

/-! ## What is raised comes out -/

variable {malloc : Int32 → Code σ Int32} {layer : Layer σ}

/-- A callback of a level ends with what it returns. -/
theorem endsWith_callback_level_iff {depth : Nat} {function : String} {body : Callback Unit} :
    (callback function body).EndsWith (.level malloc depth) s e ↔
      Callback.Returns (.below malloc depth) function body s e := by
  refine exists_congr fun t => ?_
  rw [Reentry.callback_level]

/-- A trap of the allocator ends the allocation with the error that it carries, or with its text. -/
theorem endsWith_allocation_of_trap {slots : Nat} {trap : Trap}
    (hasked : slots ≤ Allocation.maxSlots)
    (h : ∃ t, re.malloc (Int32.ofNat slots) s = .error trap t) :
    (allocation slots).EndsWith re s trap.toBridgeError := by
  obtain ⟨t, h⟩ := h
  exact ⟨t, Allocation.allocate_eq_error_iff.mpr (.trapped hasked h)⟩

/-- An error that is raised inside a layer comes out of it. Induction on the layers between. -/
theorem Raises.endsWith (h : Raises malloc re layer s e) : layer.EndsWith re s e := by
  -- Each rule of the relation is one conversion of the program: errors become traps and replies on
  -- the way out, and traps become errors again.
  induction h with
  | calling _ ih =>
    obtain ⟨t, h⟩ := ih
    exact ⟨t, Code.exec_perform_eq_error_iff.mpr (.inl h)⟩
  | later answered _ ih =>
    obtain ⟨t, h⟩ := ih
    exact ⟨t, Code.exec_perform_eq_error_iff.mpr (.inr ⟨_, _, answered, h⟩)⟩
  | refused refused fatal => exact (HostCall.external_of_refused refused).mpr ⟨fatal, rfl⟩
  | entered valid _ fatal ih => exact (HostCall.external_of_valid valid).mpr ⟨fatal, ih⟩
  | floatToString _ ih => exact endsWith_floatToString_iff.mpr ih
  | loadTextFile named found _ ih =>
    exact endsWith_loadTextFile_iff.mpr ⟨_, _, _, named, found, ih⟩
  | tooMany tooMany => exact ⟨_, Allocation.allocate_eq_error_iff.mpr (.tooMany tooMany)⟩
  | ungranted asked answer none =>
    exact ⟨_, Allocation.allocate_eq_error_iff.mpr (.ungranted asked answer none)⟩
  | @noRoom re slots s asked full =>
    have answer : re.malloc (Int32.ofNat slots) s = .error .exhausted s := by
      rw [full]
      rfl
    exact endsWith_allocation_of_trap asked ⟨s, answer⟩
  | @trapped depth slots s reason asked traps =>
    have answer : ∃ t, (Reentry.level malloc (depth + 1)).malloc (Int32.ofNat slots) s =
        .error (.guest reason) t := Code.exec_eq_guest_iff.mpr traps
    exact endsWith_allocation_of_trap asked answer
  | @allocator depth slots s e asked _ ih =>
    have answer : ∃ t, (Reentry.level malloc (depth + 1)).malloc (Int32.ofNat slots) s =
        .error (.host e) t := ih
    exact endsWith_allocation_of_trap asked answer
  | allocate _ ih => exact endsWith_allocate_iff.mpr ih
  | allocateText _ ih => exact endsWith_allocateText_iff.mpr ih
  | readText unreadable => exact endsWith_readText_iff.mpr unreadable
  | write unwritable => exact endsWith_write_iff.mpr unwritable
  | unknown missing => exact endsWith_invoke_iff.mpr (.inl ⟨missing, rfl⟩)
  | invoke registered _ ih => exact endsWith_invoke_iff.mpr (.inr ⟨_, registered, ih⟩)
  | own returned _ => exact endsWith_callback_level_iff.mpr returned
  | passed _ _ returned _ => exact endsWith_callback_level_iff.mpr returned
  | nested => exact ⟨_, rfl⟩

/-! ## What comes out was raised -/

/-- The errors of what is reached through `re` were raised inside. -/
structure Explains (malloc : Int32 → Code σ Int32) (re : Reentry σ) : Prop where
  allocation : ∀ {slots s e}, (allocation slots).EndsWith re s e →
    Raises malloc re (.allocation slots) s e
  callback : ∀ {function body s e}, (callback function body).EndsWith re s e →
    Raises malloc re (.callback function body) s e

namespace Explains

variable (hre : Explains malloc re)
include hre

/-- An import ends with its own refusal, or with what it got from a callback or an allocation. -/
theorem hostCall {call : HostCall} (h : (Layer.hostCall call).EndsWith re s e) :
    Raises malloc re (.hostCall call) s e := by
  cases call with
  | external call =>
    rcases ExternalCall.valid_or_refused s call with ⟨f, args, hvalid⟩ | ⟨e', hrefused⟩
    · obtain ⟨hfatal, hreturned⟩ := (HostCall.external_of_valid hvalid).mp h
      exact .entered hvalid (hre.callback hreturned) hfatal
    · obtain ⟨hfatal, rfl⟩ := (HostCall.external_of_refused hrefused).mp h
      exact .refused hrefused hfatal
  | floatToString v digits =>
    exact .floatToString (hre.allocation (endsWith_floatToString_iff.mp h))
  | loadTextFile name length =>
    obtain ⟨file, text, t, hnamed, hfound, hends⟩ := endsWith_loadTextFile_iff.mp h
    exact .loadTextFile hnamed hfound (hre.allocation hends)
  | putChar _ | printDouble _ | date | time | unary _ _ | binary _ _ _ | test _ _ | random =>
    obtain ⟨t, h⟩ := h
    cases h

/-- Guest code ends with what an import of it ended with. -/
theorem code {code : Code σ α} (h : (Layer.code code).EndsWith re s e) :
    Raises malloc re (.code code) s e := by
  -- Induction on the code: the error comes out of an import, and before it all is answered.
  obtain ⟨t, h⟩ := h
  induction code generalizing s with
  | done a => cases h
  | perform op next ih =>
    rcases Code.exec_perform_eq_error_iff.mp h with hop | ⟨r, u, hok, hrest⟩
    · obtain ⟨call, rfl, hcall⟩ := Code.answer_eq_host_iff.mp hop
      exact .calling (hre.hostCall ⟨t, hcall⟩)
    · exact .later hok (ih r hrest)

/-- An operation of a callback replies its own error, or what it got from an allocation or a
callback. -/
theorem operation {function : String} {op : Callback.Op}
    (h : (Layer.operation function op).EndsWith re s e) :
    Raises malloc re (.operation function op) s e := by
  cases op with
  | allocate slots => exact .allocate (hre.allocation (endsWith_allocate_iff.mp h))
  | allocateText text => exact .allocateText (hre.allocation (endsWith_allocateText_iff.mp h))
  | readText p length => exact .readText (endsWith_readText_iff.mp h)
  | write p bytes => exact .write (endsWith_write_iff.mp h)
  | invoke id args =>
    rcases endsWith_invoke_iff.mp h with ⟨hmissing, rfl⟩ | ⟨f, hregistered, hends⟩
    · exact .unknown hmissing
    · exact .invoke hregistered (hre.callback hends)
  | print _ | function | functionCount | runState | vsync | loadText _ | requestStop _ | screen _
  | note _ => cases h

end Explains

/-- A callback returns an error of its own, or one that it got. -/
theorem callback_of_below {depth : Nat} (hbelow : Explains malloc (.below malloc depth))
    {function : String} {body : Callback Unit}
    (h : (callback function body).EndsWith (.level malloc depth) s e) :
    Raises malloc (.level malloc depth) (.callback function body) s e := by
  have hreturned := endsWith_callback_level_iff.mp h
  -- The error that is returned is one of those that the operations replied, or it is new.
  by_cases hgot : ∃ row ∈ Callback.performed (.below malloc depth) function body s,
      (operation function row.1).EndsWith (.below malloc depth) row.2 e
  · obtain ⟨⟨op, t⟩, hperformed, hends⟩ := hgot
    exact .passed hperformed (hbelow.operation hends) hreturned
  · exact .own hreturned fun row hrow hends => hgot ⟨row, hrow, hends⟩

/-- Where there is no room for a call, an allocation fails as it does in the end of a nesting. -/
theorem allocation_of_full (hfull : re.malloc = Reentry.exhausted.malloc) {slots : Nat}
    (h : (allocation slots).EndsWith re s e) : Raises malloc re (.allocation slots) s e := by
  obtain ⟨t, h⟩ := h
  cases Allocation.allocate_eq_error_iff.mp h with
  | tooMany htooMany => exact .tooMany htooMany
  | trapped hasked hanswer =>
    rw [hfull] at hanswer
    cases hanswer
    exact .noRoom hasked hfull
  | ungranted hasked hanswer hnone => exact .ungranted hasked hanswer hnone

/-- An allocation that ends with an error was too large, or got the error from the allocator, or got
no block. -/
theorem allocation_of_level {depth : Nat} (hlevel : Explains malloc (.level malloc depth))
    {slots : Nat} (h : (allocation slots).EndsWith (.level malloc (depth + 1)) s e) :
    Raises malloc (.level malloc (depth + 1)) (.allocation slots) s e := by
  obtain ⟨t, h⟩ := h
  cases Allocation.allocate_eq_error_iff.mp h with
  | tooMany htooMany => exact .tooMany htooMany
  | @trapped trap u hasked hanswer =>
    -- a trap of the allocator is a fault of its own or an error of the host, each with a rule
    cases trap with
    | guest reason => exact .trapped hasked (Code.exec_eq_guest_iff.mp ⟨t, hanswer⟩)
    | host e => exact .allocator hasked (hlevel.code ⟨t, hanswer⟩)
  | ungranted hasked hanswer hnone => exact .ungranted hasked hanswer hnone

/-- In the end of a nesting nothing is run, and that is the error. -/
theorem exhausted_explains : Explains malloc .exhausted where
  allocation h := allocation_of_full rfl h
  callback h := by
    obtain ⟨t, h⟩ := h
    cases h
    exact .nested

/-- At every depth, what comes out was raised inside. -/
theorem level_explains (depth : Nat) : Explains malloc (.level malloc depth) := by
  -- Induction on the depth: what a level reaches is guest code and callbacks on the level below.
  induction depth with
  | zero =>
    have hfull : (Reentry.level malloc 0).malloc = Reentry.exhausted.malloc := rfl
    exact ⟨allocation_of_full hfull, callback_of_below exhausted_explains⟩
  | succ depth ih => exact ⟨allocation_of_level ih, callback_of_below ih⟩

/-- **One layer.** At every depth the error with which a layer ends is the one that was raised
inside. -/
theorem endsWith_iff (depth : Nat) :
    layer.EndsWith (.level malloc depth) s e ↔ Raises malloc (.level malloc depth) layer s e := by
  have hlevel : Explains malloc (.level malloc depth) := level_explains depth
  refine ⟨fun h => ?_, Raises.endsWith⟩
  cases layer with
  | code code => exact hlevel.code h
  | hostCall call => exact hlevel.hostCall h
  | allocation slots => exact hlevel.allocation h
  | callback function body => exact hlevel.callback h
  | operation function op => exact hlevel.operation h

/-- A layer of a callback, where an error is still a value. -/
def ofCallback : Layer σ → Bool
  | callback _ _ | operation _ _ => true
  | code _ | hostCall _ | allocation _ => false

/-- Outside of callbacks there are only fatal errors. -/
theorem Raises.isFatal (h : Raises malloc re layer s e) (houtside : layer.ofCallback = false) :
    e.isFatal = true := by
  -- an import passes on fatal errors only, so nothing else can come from inside a callback
  induction h with
  | calling _ ih | later _ _ ih | floatToString _ ih | loadTextFile _ _ _ ih | allocator _ _ ih =>
    exact ih rfl
  | refused _ fatal | entered _ _ fatal _ => exact fatal
  | tooMany _ | ungranted _ _ _ | noRoom _ _ | trapped _ _ => rfl
  | allocate _ _ | allocateText _ _ | readText _ | write _ | unknown _ | invoke _ _ _ | own _ _
  | passed _ _ _ _ | nested => cases houtside

end Layer

end Reentering

/-! ## Calls of guest code by the host -/

/-- What the host gets from guest code that does not end. -/
inductive Guest.CallerGets (g : Guest σ) (code : Code σ α) (s : Session σ) : RuntimeError → Prop
  | bridge {e : BridgeError}
      (raised : Layer.Raises g.entry.malloc g.reentry (.code code) s e) :
      g.CallerGets code s (.bridge e)
  | trap {reason : String} (traps : code.Traps g.reentry s reason) :
      g.CallerGets code s (.trap reason)

/-- The operations of the host that call guest code. -/
inductive GuestCall
  | executeOneStep
  | setSource (slot : Int32) (file source : String)
  | call (name : String) (operands : List Operand)
  | announceHeap
  /-- The last part of booting: the heap is announced and the initializer runs. -/
  | start

/-- What an operation delivers when it succeeds. -/
def GuestCall.Result : GuestCall → Type
  | executeOneStep | setSource _ _ _ => Bool
  | call _ _ => List Operand
  | announceHeap | start => Unit

namespace Guest

/-- Performs an operation of the host. -/
def perform (g : Guest σ) : (call : GuestCall) → Action RuntimeError σ call.Result
  | .executeOneStep => g.executeOneStep
  | .setSource slot file source => g.setSource slot file source
  | .call name operands => g.call name operands
  | .announceHeap => g.announceHeap
  | .start => g.start

/-- What the host itself reaches of the guest. Its calls are not inside any other. -/
def outside (g : Guest σ) : Reentry σ := .level g.entry.malloc (callDepth + 1)

/-- With which errors the operations fail. -/
inductive Fails (g : Guest σ) : GuestCall → Session σ → RuntimeError → Prop
  | executeOneStep {s : Session σ} {err : RuntimeError}
      (gets : g.CallerGets g.entry.executeOneStep s err) : Fails g .executeOneStep s err
  | file {slot : Int32} {file source : String} {s : Session σ} {e : BridgeError}
      (raised : Layer.Raises g.entry.malloc g.outside (.allocation (Slots.count file)) s e) :
      Fails g (.setSource slot file source) s (.bridge e)
  | source {slot : Int32} {file source : String} {p : Pointer} {s t : Session σ} {e : BridgeError}
      (filePlaced : g.allocateText file s = .ok p t)
      (raised : Layer.Raises g.entry.malloc g.outside (.allocation (Slots.count source)) t e) :
      Fails g (.setSource slot file source) s (.bridge e)
  | setSource {slot : Int32} {file source : String} {p q : Pointer} {s t u : Session σ}
      {err : RuntimeError} (filePlaced : g.allocateText file s = .ok p t)
      (sourcePlaced : g.allocateText source t = .ok q u)
      (gets : g.CallerGets (g.entry.setSource slot p.toInt32 q.toInt32) u err) :
      Fails g (.setSource slot file source) s err
  | call {name : String} {operands : List Operand} {type : FuncType}
      {code : List Operand → Code σ (List Operand)} {s : Session σ} {err : RuntimeError}
      (exported : Export.find? g.exports name = some (.function type code))
      (typed : operands.map Operand.type = type.params)
      (gets : g.CallerGets (code operands) s err) : Fails g (.call name operands) s err
  | operands {name : String} {operands : List Operand} {type : FuncType}
      {code : List Operand → Code σ (List Operand)} {s : Session σ}
      (exported : Export.find? g.exports name = some (.function type code))
      (mistyped : operands.map Operand.type ≠ type.params) :
      Fails g (.call name operands) s (.trap "operands do not match the type of the function")
  | notFound {name : String} {operands : List Operand} {s : Session σ}
      (missing : ∀ type code, Export.find? g.exports name ≠ some (.function type code)) :
      Fails g (.call name operands) s (.functionNotFound name)
  | heapSetup {name : String} {base : Int32} {s : Session σ} {err : RuntimeError}
      (named : g.heapSetup? = some name) (based : g.heapBase? = some base)
      (unusable : EntryPoints.typed g.exports .setupHeap name = .error err) :
      Fails g .announceHeap s err
  | announceHeap {name : String} {base : Int32} {code : List Operand → Code σ (List Operand)}
      {s : Session σ} {err : RuntimeError} (named : g.heapSetup? = some name)
      (based : g.heapBase? = some base)
      (usable : EntryPoints.typed g.exports .setupHeap name = .ok code)
      (gets : g.CallerGets (code [.i32 base,
        .i32 (UInt32.ofNat (heapBytes s.arena.size base)).toInt32]).noResult s err) :
      Fails g .announceHeap s err
  | heap {s : Session σ} {err : RuntimeError} (fails : Fails g .announceHeap (g.greeted s) err) :
      Fails g .start s err
  | initializer {s t : Session σ} {err : RuntimeError}
      (announced : g.announceHeap (g.greeted s) = .ok () t)
      (gets : g.CallerGets g.entry.initializer t err) : Fails g .start s err

variable {g : Guest σ} {s t : Session σ} {err : RuntimeError}

/-- Calling guest code fails with an error of the bridge that was raised inside, or with a trap of
the code itself. -/
theorem run_eq_error_iff {code : Code σ α} :
    (∃ t, (g.run code).mapError .ofTrap s = .error err t) ↔ g.CallerGets code s err := by
  simp only [Outcome.renamed_eq_error_iff]
  constructor
  · rintro ⟨t, trap, hrun, rfl⟩
    -- what ended the code is unwrapped: a fault of its own, or an error of the host
    cases trap with
    | guest reason => exact .trap (Code.exec_eq_guest_iff.mp ⟨t, hrun⟩)
    | host e => exact .bridge ((Layer.endsWith_iff callDepth).mp ⟨t, hrun⟩)
  · intro hgets
    cases hgets with
    | bridge raised =>
      obtain ⟨t, hrun⟩ := raised.endsWith
      exact ⟨t, _, hrun, rfl⟩
    | trap traps =>
      obtain ⟨t, hrun⟩ := Code.exec_eq_guest_iff.mpr traps
      exact ⟨t, _, hrun, rfl⟩

/-- An allocation of the host is a layer on its own, with room for one call more. -/
theorem allocate_eq_error_iff {slots : Nat} {e : BridgeError} :
    (∃ t, g.allocate slots s = .error e t) ↔
      Layer.Raises g.entry.malloc g.outside (.allocation slots) s e := by
  have hends : (∃ t, g.allocate slots s = .error e t) ↔
      (Layer.allocation slots).EndsWith g.outside s e := Iff.rfl
  exact hends.trans (Layer.endsWith_iff (callDepth + 1))

/-- Writing a text fails with the errors that its allocation raises. -/
theorem allocateText_eq_error_iff {text : String} {e : BridgeError} :
    (∃ t, g.allocateText text s = .error e t) ↔
      Layer.Raises g.entry.malloc g.outside (.allocation (Slots.count text)) s e := by
  have hends : (∃ t, Allocation.writeText g.outside.malloc text s = .error e t) ↔
      (Layer.allocation (Slots.count text)).EndsWith g.outside s e := Layer.endsWith_writeText_iff
  exact hends.trans (Layer.endsWith_iff (callDepth + 1))

/-- The caller of an operation gets these errors as errors of the bridge. -/
theorem placeText_eq_error_iff {text : String} :
    (∃ t, (g.allocateText text).mapError RuntimeError.bridge s = .error err t) ↔
      ∃ e, err = .bridge e ∧
        Layer.Raises g.entry.malloc g.outside (.allocation (Slots.count text)) s e := by
  simp only [Outcome.renamed_eq_error_iff]
  constructor
  · rintro ⟨t, e, hrefused, rfl⟩
    exact ⟨e, rfl, allocateText_eq_error_iff.mp ⟨t, hrefused⟩⟩
  · rintro ⟨e, rfl, hraised⟩
    obtain ⟨t, hrefused⟩ := allocateText_eq_error_iff.mpr hraised
    exact ⟨t, e, hrefused, rfl⟩

/-- A step fails where its code does. -/
theorem executeOneStep_eq_error_iff :
    (∃ t, g.executeOneStep s = .error err t) ↔ g.CallerGets g.entry.executeOneStep s err := by
  rw [← run_eq_error_iff]
  refine exists_congr fun t => Outcome.bind_eq_error_iff.trans ⟨fun h => ?_, .inl⟩
  rcases h with h | ⟨more, u, -, h⟩
  · exact h
  · cases h

/-- Setting a source allocates twice and then calls the guest; each of the three may fail, the later
ones in the session that the earlier ones left. -/
theorem setSource_eq_error_iff {slot : Int32} {file source : String} :
    (∃ t, g.setSource slot file source s = .error err t) ↔
      g.Fails (.setSource slot file source) s err := by
  constructor
  · rintro ⟨t, h⟩
    rcases Outcome.bind_eq_error_iff.mp h with h | ⟨p, u, hfile, h⟩
    · obtain ⟨e, rfl, hraised⟩ := placeText_eq_error_iff.mp ⟨t, h⟩
      exact .file hraised
    have hfile := Outcome.renamed_eq_ok_iff.mp hfile
    rcases Outcome.bind_eq_error_iff.mp h with h | ⟨q, v, hsource, h⟩
    · obtain ⟨e, rfl, hraised⟩ := placeText_eq_error_iff.mp ⟨t, h⟩
      exact .source hfile hraised
    have hsource := Outcome.renamed_eq_ok_iff.mp hsource
    rcases Outcome.bind_eq_error_iff.mp h with h | ⟨accepted, w, -, h⟩
    · exact .setSource hfile hsource (run_eq_error_iff.mp ⟨t, h⟩)
    · -- what comes after the guest's answer cannot fail
      by_cases hrejected : accepted = 0
      · rw [if_pos hrejected] at h
        cases h
      · rw [if_neg hrejected] at h
        cases h
  · intro hfails
    have hplaced {text : String} {p : Pointer} {s t : Session σ}
        (h : g.allocateText text s = .ok p t) :
        (g.allocateText text).mapError RuntimeError.bridge s = .ok p t :=
      Outcome.renamed_eq_ok_iff.mpr h
    cases hfails with
    | file raised =>
      obtain ⟨t, h⟩ := placeText_eq_error_iff.mpr ⟨_, rfl, raised⟩
      exact ⟨t, Outcome.bind_eq_error_iff.mpr (.inl h)⟩
    | source filePlaced raised =>
      obtain ⟨t, h⟩ := placeText_eq_error_iff.mpr ⟨_, rfl, raised⟩
      exact ⟨t, Outcome.bind_eq_error_iff.mpr (.inr ⟨_, _, hplaced filePlaced,
        Outcome.bind_eq_error_iff.mpr (.inl h)⟩)⟩
    | setSource filePlaced sourcePlaced gets =>
      obtain ⟨t, h⟩ := run_eq_error_iff.mpr gets
      exact ⟨t, Outcome.bind_eq_error_iff.mpr (.inr ⟨_, _, hplaced filePlaced,
        Outcome.bind_eq_error_iff.mpr (.inr ⟨_, _, hplaced sourcePlaced,
          Outcome.bind_eq_error_iff.mpr (.inl h)⟩)⟩)⟩

/-- A call by name runs the function if the operands have its types. -/
theorem call_of_function {name : String} {type : FuncType}
    {code : List Operand → Code σ (List Operand)}
    (h : Export.find? g.exports name = some (.function type code)) (operands : List Operand) :
    g.call name operands =
      if operands.map Operand.type = type.params then (g.run (code operands)).mapError .ofTrap
      else throw (.trap "operands do not match the type of the function") := by
  rw [call, h]

theorem call_of_missing {name : String}
    (h : ∀ type code, Export.find? g.exports name ≠ some (.function type code))
    (operands : List Operand) : g.call name operands = throw (.functionNotFound name) := by
  unfold call
  cases hfind : Export.find? g.exports name with
  | none => rfl
  | some exported =>
    cases exported with
    | function type code => exact absurd hfind (h type code)
    | global _ | table | memory => rfl

/-- A call by name fails for its name, its operands or its code. -/
theorem call_eq_error_iff {name : String} {operands : List Operand} :
    (∃ t, g.call name operands s = .error err t) ↔ g.Fails (.call name operands) s err := by
  constructor
  · rintro ⟨t, h⟩
    -- In the order of the checks: the name, then the operands.
    by_cases hexported : ∃ type code, Export.find? g.exports name = some (.function type code)
    · obtain ⟨type, code, hexported⟩ := hexported
      rw [call_of_function hexported] at h
      by_cases htyped : operands.map Operand.type = type.params
      · rw [if_pos htyped] at h
        exact .call hexported htyped (run_eq_error_iff.mp ⟨t, h⟩)
      · rw [if_neg htyped] at h
        cases h
        exact .operands hexported htyped
    · have hmissing : ∀ type code, Export.find? g.exports name ≠ some (.function type code) :=
        fun type code hfind => hexported ⟨type, code, hfind⟩
      rw [call_of_missing hmissing] at h
      cases h
      exact .notFound hmissing
  · intro hfails
    cases hfails with
    | call exported typed gets =>
      rw [call_of_function exported, if_pos typed]
      exact run_eq_error_iff.mpr gets
    | operands exported mistyped =>
      rw [call_of_function exported, if_neg mistyped]
      exact ⟨s, rfl⟩
    | notFound missing =>
      rw [call_of_missing missing]
      exact ⟨s, rfl⟩

/-- Announcing the heap fails for the type of the setup or for its code, once there are a setup and
an address. -/
theorem announceHeap_eq_error_iff :
    (∃ t, g.announceHeap s = .error err t) ↔ g.Fails .announceHeap s err := by
  constructor
  · rintro ⟨t, h⟩
    cases hname : g.heapSetup? with
    | none =>
      rw [announceHeap, hname] at h
      cases h
    | some name =>
      cases hbase : g.heapBase? with
      | none =>
        rw [announceHeap, hname, hbase] at h
        cases h
      | some base =>
        rw [announceHeap_of_named hname hbase] at h
        -- Only with a setup and an address is anything called.
        cases htyped : EntryPoints.typed g.exports .setupHeap name with
        | error err' =>
          rw [htyped] at h
          cases h
          exact .heapSetup hname hbase htyped
        | ok code =>
          rw [htyped] at h
          exact .announceHeap hname hbase htyped (run_eq_error_iff.mp ⟨t, h⟩)
  · intro hfails
    cases hfails with
    | heapSetup named based unusable =>
      rw [announceHeap_of_named named based, unusable]
      exact ⟨s, rfl⟩
    | announceHeap named based usable gets =>
      rw [announceHeap_of_named named based, usable]
      exact run_eq_error_iff.mpr gets

/-- Starting fails in the announcement, or behind it in the initializer. -/
theorem start_eq_error_iff : (∃ t, g.start s = .error err t) ↔ g.Fails .start s err := by
  rw [start_eq]
  constructor
  · rintro ⟨t, h⟩
    rcases Outcome.bind_eq_error_iff.mp h with h | ⟨_, u, hannounced, h⟩
    · exact .heap (announceHeap_eq_error_iff.mp ⟨t, h⟩)
    · exact .initializer hannounced (run_eq_error_iff.mp ⟨t, h⟩)
  · intro hfails
    cases hfails with
    | heap fails =>
      obtain ⟨t, h⟩ := announceHeap_eq_error_iff.mpr fails
      exact ⟨t, Outcome.bind_eq_error_iff.mpr (.inl h)⟩
    | initializer announced gets =>
      obtain ⟨t, h⟩ := run_eq_error_iff.mpr gets
      exact ⟨t, Outcome.bind_eq_error_iff.mpr (.inr ⟨(), _, announced, h⟩)⟩

/-- All operations of the host together. -/
theorem perform_eq_error_iff (call : GuestCall) :
    (∃ t, g.perform call s = .error err t) ↔ g.Fails call s err := by
  cases call with
  | executeOneStep =>
    refine executeOneStep_eq_error_iff.trans ⟨.executeOneStep, fun h => ?_⟩
    cases h with
    | executeOneStep gets => exact gets
  | setSource slot file source => exact setSource_eq_error_iff
  | call name operands => exact call_eq_error_iff
  | announceHeap => exact announceHeap_eq_error_iff
  | start => exact start_eq_error_iff

/-- What guest code hands to the host as an error of the bridge is fatal. -/
theorem CallerGets.isFatal {code : Code σ α} {e : BridgeError}
    (h : g.CallerGets code s (.bridge e)) : e.isFatal = true := by
  cases h with
  | bridge raised => exact raised.isFatal rfl

/-- Every error of the bridge with which an operation fails is fatal. -/
theorem Fails.isFatal {call : GuestCall} {e : BridgeError} (h : g.Fails call s err)
    (herr : err = .bridge e) : e.isFatal = true := by
  induction h with
  | executeOneStep gets | setSource _ _ gets | call _ _ gets | announceHeap _ _ _ gets
  | initializer _ gets =>
    subst herr
    exact gets.isFatal
  | file raised | source _ raised =>
    cases herr
    exact raised.isFatal rfl
  | heapSetup _ _ unusable =>
    obtain ⟨reason, rfl⟩ := EntryPoints.typed_error unusable
    cases herr
  | operands _ _ | notFound _ => cases herr
  | heap _ ih => exact ih herr

end Guest

/-- **Errors of the host cross every nesting.** For every guest, every operation of the host that
calls its code, and every session:

* the operation fails with exactly the errors of `Guest.Fails`. There, an error of the bridge is one
  that a host function raised somewhere inside, with all layers between passing it on as it is
  (`Layer.Raises`), and a trap is one of guest code that the host itself called (`Code.Traps`). A
  trap of the allocator that was called through the host's allocator proxy is raised as the guest's
  error;
* inside of it, at every depth, every layer ends with exactly the errors that were raised in it, so
  no layer converts one;
* an error of the bridge with which it fails is fatal. What is recoverable stays inside. -/
theorem host_errors_cross_every_nesting (g : Guest σ) (call : GuestCall) (s : Session σ) :
    (∀ err, (∃ t, g.perform call s = .error err t) ↔ g.Fails call s err) ∧
    (∀ depth (layer : Layer σ) (u : Session σ) (e : BridgeError),
      layer.EndsWith (.level g.entry.malloc depth) u e ↔
        Layer.Raises g.entry.malloc (.level g.entry.malloc depth) layer u e) ∧
    (∀ e t, g.perform call s = .error (.bridge e) t → e.isFatal = true) := by
  refine ⟨fun err => Guest.perform_eq_error_iff call,
    fun depth layer u e => Layer.endsWith_iff depth, fun e t h => ?_⟩
  have hfails : g.Fails call s (.bridge e) := (Guest.perform_eq_error_iff call).mp ⟨t, h⟩
  exact hfails.isFatal rfl

/-- Allocates one slot, and returns the error if there is one. -/
def grabbing : ExternalFunction :=
  .procedure0 "GRAB" do
    let _ ← Callback.allocate 1

/-- A session of the guest that calls from its allocator, in which the function is registered. -/
def grabbingSession : Session Unit := { callingSession with table := ⟨#[none, some grabbing]⟩ }

/-- A step calls the function, the function allocates, and the allocator calls it again. The second
call is refused. The error comes out of the allocator, the allocation, the callback, the first call
and the step. -/
theorem host_errors_cross_every_nesting_reentrant :
    (∃ t, callingGuest.perform .executeOneStep grabbingSession =
      .error (.bridge (.reentrant 1)) t) ∧
    (BridgeError.reentrant 1).isFatal = true := by
  let call : ExternalCall := ⟨1, 0, 0, 0, 0⟩
  let entered : Session Unit := { grabbingSession with inExternalCall := true }
  let malloc := callingGuest.entry.malloc
  have known : ExternalCall.Known grabbingSession call grabbing := ⟨rfl, rfl, by decide, by decide⟩
  have valid : call.Valid grabbingSession grabbing [] := ⟨⟨known, rfl, rfl, by decide⟩, rfl⟩
  have inner : Layer.Raises malloc (.level malloc 510) (.code (malloc 1)) entered (.reentrant 1) :=
    .calling (.refused (.reentrant rfl) rfl)
  have operation : Layer.Raises malloc (.level malloc 511) (.operation "GRAB" (.allocate 1)) entered
      (.reentrant 1) := .allocate (.allocator (by decide) inner)
  have callback : Layer.Raises malloc (.level malloc 512) (.callback "GRAB" (grabbing.callback []))
      entered (.reentrant 1) := .passed (.head _) operation ⟨_, rfl⟩
  have raised : Layer.Raises malloc callingGuest.reentry (.code callFirst) grabbingSession
      (.reentrant 1) := .calling (.entered valid callback rfl)
  obtain ⟨hfails, -, hfatal⟩ :=
    host_errors_cross_every_nesting callingGuest .executeOneStep grabbingSession
  have hstep := (hfails _).mpr (.executeOneStep (.bridge raised))
  refine ⟨hstep, ?_⟩
  obtain ⟨t, hstep⟩ := hstep
  exact hfatal _ t hstep

end GuestBridge
