import GuestBridge.Proofs.Session.Continuity
/-!
# The moments of a run

A run of guest code passes through moments: each operation of guest code, each operation of a
callback, and each entry into a callback by an external call, together with the session just before
it and the number of callbacks that are active then. `Guest.moments` lists them in order, through
every nesting of the two sides: an import that allocates runs the guest's allocator, whose
operations are moments of the run, and so on.

The lists follow the interpreter clause by clause and leave every change of the session to it: what
comes after an operation starts from the session in which the interpreter leaves it. A callback that
is run by another callback belongs to the activation of that one, so only external calls count.

That a run passes these moments and no others is `Guest.run_recorded` (in `Recording`): an
interpreter that writes down what it answers has written this list when it is done.

## Main statement

* **`Guest.moments_induction`** — a property of the moments of a run follows from a context that
  goes with the session, that continues along `Session.Continues`, and that every external call
  establishes for the callback that it enters. Induction on the depth, and on the programs of each
  level.
-/

namespace GuestBridge

variable {σ α : Type}

/-- What happens at a moment. -/
inductive Happening (σ : Type)
  | guest (op : Code.Op σ)
  | callback (op : Callback.Op)
  /-- An external call enters the callback of a function. -/
  | entry (f : ExternalFunction) (args : List Value)

/-- A point of a run. -/
structure Moment (σ : Type) where
  /-- How many callbacks are active, a callback that is being entered included. -/
  active : Nat
  session : Session σ
  happening : Happening σ

namespace Moment

/-- The function and the arguments with which a callback is entered. -/
def entry? (m : Moment σ) : Option (ExternalFunction × List Value) :=
  match m.happening with
  | .entry f args => some (f, args)
  | _ => none

end Moment

/-- The moments inside an allocation and inside a callback, with the callbacks active before. -/
structure Watch (σ : Type) where
  malloc : Nat → Int32 → Session σ → List (Moment σ)
  callback : Nat → String → Callback Unit → Session σ → List (Moment σ)

namespace Program

variable {Op S M : Type} {Reply : Op → Type}

/-- What is met on the way through a program: `within` an operation, then `after` it, as long as it
has a reply. -/
def visits (within : (op : Op) → S → List M) (after : (op : Op) → S → Option (Reply op × S)) :
    Program Reply α → S → List M
  | done _, _ => []
  | perform op next, s =>
    within op s ++
      match after op s with
      | some (r, t) => (next r).visits within after t
      | none => []

end Program

namespace Watch

/-- An allocation that is too large does not reach the guest. -/
def allocation (w : Watch σ) (active slots : Nat) (s : Session σ) : List (Moment σ) :=
  if Allocation.maxSlots < slots then [] else w.malloc active (Int32.ofNat slots) s

/-- A call that is not refused enters its callback, which is then active. -/
def externalCall (w : Watch σ) (active : Nat) (call : ExternalCall) (s : Session σ) :
    List (Moment σ) :=
  match call.resolve s with
  | .error _ => []
  | .ok (f, args) =>
    let entered := { s with inExternalCall := true }
    ⟨active + 1, entered, .entry f args⟩ ::
      w.callback (active + 1) f.name (f.callback args) entered

/-- The imports that reach the guest again are external calls and those that hand over a text. -/
def hostCall (w : Watch σ) (active : Nat) : HostCall → Session σ → List (Moment σ)
  | .external call, s => w.externalCall active call s
  | .floatToString v digits, s => w.allocation active (Slots.count (v.fixed digits)) s
  | .loadTextFile name length, s =>
    match HostCall.requestedName s name length with
    | .error _ => []
    | .ok file =>
      match s.loadText file with
      | (none, _) => []
      | (some text, t) => w.allocation active (Slots.count text) t
  | _, _ => []

/-- The moment of an operation of guest code, and those inside it if it is an import. -/
def guestOp (w : Watch σ) (active : Nat) (op : Code.Op σ) (s : Session σ) : List (Moment σ) :=
  ⟨active, s, .guest op⟩ ::
    match op with
    | .host call => w.hostCall active call s
    | _ => []

/-- The moment of an operation of a callback, and those inside it if it allocates or runs a
callback. -/
def callbackOp (w : Watch σ) (active : Nat) (function : String) (op : Callback.Op)
    (s : Session σ) : List (Moment σ) :=
  ⟨active, s, .callback op⟩ ::
    match op with
    | .allocate slots => w.allocation active slots s
    | .allocateText text => w.allocation active (Slots.count text) s
    | .invoke id args =>
      match s.table.get? id with
      | none => []
      | some f => w.callback active function (f.callback args) s
    | _ => []

/-- The moments of guest code that is run by `re`, where `w` watches what `re` runs. -/
def code (w : Watch σ) (re : Reentry σ) (active : Nat) (code : Code σ α) (s : Session σ) :
    List (Moment σ) :=
  code.visits (w.guestOp active)
    (fun op s =>
      match Code.answer re op s with
      | .ok r t => some (r, t)
      | .error _ _ => none)
    s

/-- The moments of a callback that is run by `re`, where `w` watches what `re` runs. -/
def body (w : Watch σ) (re : Reentry σ) (active : Nat) (function : String) (body : Callback Unit)
    (s : Session σ) : List (Moment σ) :=
  Program.visits (w.callbackOp active function)
    (fun op s => some (Callback.answer re function op s)) body.run s

/-- Nothing is run where no further call fits. -/
def exhausted : Watch σ := ⟨fun _ _ _ => [], fun _ _ _ _ => []⟩

/-- Watches what `Reentry.level` runs. -/
def level (malloc : Int32 → Code σ Int32) : (depth : Nat) → Watch σ
  | 0 => ⟨fun _ _ _ => [], exhausted.body .exhausted⟩
  | depth + 1 =>
    ⟨fun active slots => (level malloc depth).code (.level malloc depth) active (malloc slots),
     (level malloc depth).body (.level malloc depth)⟩

end Watch

/-- The moments of guest code that is called by the host, while no callback is active. -/
def Guest.moments (g : Guest σ) (code : Code σ α) (s : Session σ) : List (Moment σ) :=
  (Watch.level g.entry.malloc callDepth).code g.reentry 0 code s

/-! ## Properties of all moments -/

/-- A way to prove a property `Q` of all moments: a context `P` for the number of active callbacks
and the session that every operation keeps, from which the property follows at the moment of an
operation, and that an external call which is not refused hands on to its callback. -/
structure Moment.Context (P : Nat → Session σ → Prop) (Q : Moment σ → Prop) : Prop where
  keeps : ∀ {n : Nat} {s t : Session σ}, P n s → s.Continues t → P n t
  guest : ∀ {n : Nat} {s : Session σ} (op : Code.Op σ), P n s → Q ⟨n, s, .guest op⟩
  callback : ∀ {n : Nat} {s : Session σ} (op : Callback.Op), P n s → Q ⟨n, s, .callback op⟩
  entry : ∀ {n : Nat} {s : Session σ} {call : ExternalCall} {f : ExternalFunction}
    {args : List Value}, P n s → call.resolve s = .ok (f, args) →
      P (n + 1) { s with inExternalCall := true } ∧
        Q ⟨n + 1, { s with inExternalCall := true }, .entry f args⟩

/-- What every operation hands on to the next holds all the way through a program. -/
theorem Program.forall_visits {Op S M : Type} {Reply : Op → Type} {P : S → Prop} {Q : M → Prop}
    {within : (op : Op) → S → List M} {after : (op : Op) → S → Option (Reply op × S)}
    (hwithin : ∀ op s, P s → ∀ m ∈ within op s, Q m)
    (hafter : ∀ op s r t, P s → after op s = some (r, t) → P t)
    (p : Program Reply α) (s : S) (hs : P s) : ∀ m ∈ p.visits within after s, Q m := by
  -- Induction on the program: `P` goes with the state from each operation to the next one.
  induction p generalizing s with
  | done a => exact List.forall_mem_nil _
  | perform op next ih =>
    intro m hm
    rw [visits] at hm
    rcases List.mem_append.mp hm with hm | hm
    · exact hwithin op s hs m hm
    · cases h : after op s with
      | none =>
        -- the operation failed, so nothing follows it
        rw [h] at hm
        exact absurd hm List.not_mem_nil
      | some reply =>
        obtain ⟨r, t⟩ := reply
        rw [h] at hm
        exact ih r t (hafter op s r t hs h) m hm

/-- What is watched has a property wherever it starts in a context. -/
structure Watch.Ensures (w : Watch σ) (P : Nat → Session σ → Prop) (Q : Moment σ → Prop) :
    Prop where
  malloc : ∀ n slots s, P n s → ∀ m ∈ w.malloc n slots s, Q m
  callback : ∀ n function body s, P n s → ∀ m ∈ w.callback n function body s, Q m

namespace Watch

variable {w : Watch σ} {re : Reentry σ} {P : Nat → Session σ → Prop} {Q : Moment σ → Prop}
variable {n : Nat} {s : Session σ}

/-- Inside an allocation are the moments of the allocator, or none. -/
theorem Ensures.allocation (hw : w.Ensures P Q) (slots : Nat) (hs : P n s) :
    ∀ m ∈ w.allocation n slots s, Q m := by
  unfold Watch.allocation
  split
  · exact List.forall_mem_nil _
  · exact hw.malloc n _ s hs

/-- Inside an external call are its entry and the moments of its callback, in the context that the
call establishes. -/
theorem Ensures.externalCall (hw : w.Ensures P Q) (hc : Moment.Context P Q) (call : ExternalCall)
    (hs : P n s) : ∀ m ∈ w.externalCall n call s, Q m := by
  intro m hm
  unfold Watch.externalCall at hm
  cases hresolve : call.resolve s with
  | error e =>
    rw [hresolve] at hm
    exact absurd hm List.not_mem_nil
  | ok request =>
    obtain ⟨f, args⟩ := request
    rw [hresolve] at hm
    obtain ⟨hcontext, hentry⟩ := hc.entry hs hresolve
    rcases List.mem_cons.mp hm with rfl | hm
    · exact hentry
    · exact hw.callback _ _ _ _ hcontext m hm

/-- Inside an import are those of an external call or an allocation. Loading a text goes before the
allocation, and continues the session. -/
theorem Ensures.hostCall (hw : w.Ensures P Q) (hc : Moment.Context P Q) (call : HostCall)
    (hs : P n s) : ∀ m ∈ w.hostCall n call s, Q m := by
  cases call with
  | external call => exact hw.externalCall hc call hs
  | floatToString v digits => exact hw.allocation _ hs
  | loadTextFile name length =>
    intro m hm
    simp only [Watch.hostCall] at hm
    cases hname : HostCall.requestedName s name length with
    | error detail =>
      rw [hname] at hm
      exact absurd hm List.not_mem_nil
    | ok file =>
      have hload := Session.Continues.loadText s file
      rw [hname] at hm
      cases hfound : s.loadText file with
      | mk found t =>
        simp only [hfound] at hm hload
        cases found with
        | none => exact absurd hm List.not_mem_nil
        | some text => exact hw.allocation _ (hc.keeps hs hload) m hm
  | putChar _ | printDouble _ | date | time | unary _ _ | binary _ _ _ | test _ _ | random =>
    exact List.forall_mem_nil _

/-- A property holds at all moments of guest code that starts in a context. -/
theorem Ensures.code (hw : w.Ensures P Q) (hc : Moment.Context P Q) (hre : re.Continuous)
    (code : Code σ α) (hs : P n s) : ∀ m ∈ w.code re n code s, Q m := by
  refine Program.forall_visits (P := P n) (fun op t ht m hm => ?_)
    (fun op t r u ht h => ?_) code s hs
  · rcases List.mem_cons.mp hm with rfl | hm
    · exact hc.guest op ht
    · cases op with
      | host call => exact hw.hostCall hc call ht m hm
      | getState | setState _ | load _ _ | store _ _ | memoryPages | grow _ | trap =>
        exact absurd hm List.not_mem_nil
  · -- the interpreter is continuous, so the context goes on with the session
    have hop := Code.answer_continuous hre op t
    cases hanswer : Code.answer re op t with
    | ok r' u' =>
      rw [hanswer] at h hop
      cases h
      exact hc.keeps ht hop
    | error e u' =>
      rw [hanswer] at h
      cases h

/-- What an operation of a callback ensures holds at all moments of the callback. -/
theorem Ensures.body (hw : w.Ensures P Q) (hc : Moment.Context P Q) (hre : re.Continuous)
    (function : String) (body : Callback Unit) (hs : P n s) :
    ∀ m ∈ w.body re n function body s, Q m := by
  refine Program.forall_visits (P := P n) (fun op t ht m hm => ?_) (fun op t r u ht h => ?_) _ s hs
  · rcases List.mem_cons.mp hm with rfl | hm
    · exact hc.callback op ht
    · cases op with
      | allocate slots => exact hw.allocation _ ht m hm
      | allocateText text => exact hw.allocation _ ht m hm
      | invoke id args =>
        simp only at hm
        cases hget : t.table.get? id with
        | none =>
          rw [hget] at hm
          exact absurd hm List.not_mem_nil
        | some f =>
          rw [hget] at hm
          exact hw.callback _ _ _ _ ht m hm
      | print _ | readText _ _ | write _ _ | function | functionCount | runState | vsync
      | loadText _ | requestStop _ | screen _ | note _ => exact absurd hm List.not_mem_nil
  · -- every operation of a callback has a reply, and continues the session
    have hop := Callback.answer_continues hre function op t
    rw [Option.some.inj h] at hop
    exact hc.keeps ht hop

theorem exhausted_ensures : (exhausted : Watch σ).Ensures P Q where
  malloc _ _ _ _ := List.forall_mem_nil _
  callback _ _ _ _ _ := List.forall_mem_nil _

/-- What is watched has the property, however deep the nesting is. -/
theorem level_ensures (hc : Moment.Context P Q) (malloc : Int32 → Code σ Int32) (depth : Nat) :
    (level malloc depth).Ensures P Q := by
  -- Induction on the depth: the moments of a level are those of programs, and what these reach is
  -- watched by the level below.
  induction depth with
  | zero =>
    exact ⟨fun _ _ _ _ => List.forall_mem_nil _,
      fun n function body s hs =>
        exhausted_ensures.body hc Reentry.exhausted_continuous function body hs⟩
  | succ depth ih =>
    have hre := Reentry.level_continuous malloc depth
    exact ⟨fun n slots s hs => ih.code hc hre (malloc slots) hs,
      fun n function body s hs => ih.body hc hre function body hs⟩

end Watch

/-- **Moments induction.** What a context ensures holds at every moment of a run that starts in it,
while no callback is active. -/
theorem Guest.moments_induction {P : Nat → Session σ → Prop} {Q : Moment σ → Prop}
    (hc : Moment.Context P Q) (g : Guest σ) (code : Code σ α) (s : Session σ) (hs : P 0 s) :
    ∀ m ∈ g.moments code s, Q m :=
  (Watch.level_ensures hc g.entry.malloc callDepth).code hc
    (Reentry.level_continuous g.entry.malloc callDepth) code hs

end GuestBridge
