import GuestBridge.Proofs.Nesting.Moments
import GuestBridge.Proofs.Nesting.Resolution
/-!
# The guard of external calls

Host and guest call each other recursively: an external call runs a callback, the callback
allocates, the guest's allocator runs, and its code may make an external call again. The guard
`inExternalCall` is what keeps the second call from running a callback.

The invariant is `Guarded`: at most one callback is active, and the guard is set exactly then. It
goes through every nesting as a context of `Guest.moments_induction`. Its two halves need each
other: a call is resolved only while the guard is released, so the callback that it enters is the
first one; and it enters with the guard set, so no second one follows.

## Main statement

* **`external_calls_never_nest`** — the invariant at every moment of a run, what a call inside a
  callback comes to, and the released guard after every call that is not inside one.
-/

namespace GuestBridge

variable {σ α : Type}

/-- At most one callback is active, and the guard is set exactly then. -/
def Guarded (active : Nat) (s : Session σ) : Prop :=
  active ≤ 1 ∧ (s.inExternalCall = true ↔ active = 1)

/-- The invariant is a context: what keeps the session going keeps it, and an external call that
enters a callback establishes it there. -/
theorem guarded_context :
    Moment.Context (σ := σ) Guarded (fun m => Guarded m.active m.session) where
  keeps hs hst := ⟨hs.1, by rw [hst.inExternalCall]; exact hs.2⟩
  guest _ hs := hs
  callback _ hs := hs
  entry {n s call f args} hs hresolve := by
    -- The call was not refused, so the guard is released, no callback is active, and this is the
    -- first one.
    have hidle : ¬ s.inExternalCall = true :=
      Bool.eq_false_iff.mp (ExternalCall.resolve_ok_idle hresolve)
    have hzero : n = 0 := by
      have hone : n ≠ 1 := fun h => hidle (hs.2.mpr h)
      have hle := hs.1
      omega
    subst hzero
    exact ⟨⟨Nat.le_refl 1, by simp⟩, ⟨Nat.le_refl 1, by simp⟩⟩

/-- No callback is entered while the guard is set. -/
theorem no_entry_context :
    Moment.Context (σ := σ) (fun _ s => s.inExternalCall = true) (fun m => m.entry? = none) where
  keeps hs hst := hst.inExternalCall.trans hs
  guest _ _ := rfl
  callback _ _ := rfl
  -- a call that enters was resolved, so the guard was released; here it is set
  entry hs hresolve := by
    rw [ExternalCall.resolve_ok_idle hresolve] at hs
    cases hs

/-! ## Calls while the guard is set -/

/-- A call inside another one is refused before anything else is looked at: the session stays as it
is, the set guard included. -/
theorem HostCall.answer_external_of_busy (re : Reentry σ) (call : ExternalCall) {s : Session σ}
    (busy : s.inExternalCall = true) :
    (HostCall.external call).answer re s = .error (.host (.reentrant call.id)) s := by
  show HostCall.answerExternal re call s = _
  unfold HostCall.answerExternal ExternalCall.run
  rw [ExternalCall.resolve_of_busy busy]
  rfl

/-- A call inside another one enters nothing. -/
theorem Watch.externalCall_of_busy (w : Watch σ) (active : Nat) (call : ExternalCall)
    {s : Session σ} (busy : s.inExternalCall = true) : w.externalCall active call s = [] := by
  unfold Watch.externalCall
  rw [ExternalCall.resolve_of_busy busy]

/-- **External calls never nest.** Along every run of guest code that starts while no external call
is in progress, at most one callback is active at each moment, and the guard is set exactly then.
An external call that guest code makes while a callback is active fails as reentrant, whatever its
id; it enters no callback and leaves the session as it is. After one that is made while no callback
is active the guard is released, however the call ends, and the next call is not refused as
reentrant. So the guard is released at the end of the run, too. -/
theorem external_calls_never_nest (g : Guest σ) (code : Code σ α) (s : Session σ)
    (idle : s.inExternalCall = false) :
    (∀ m ∈ g.moments code s,
      m.active ≤ 1 ∧ (m.session.inExternalCall = true ↔ m.active = 1) ∧
      ∀ call, m.happening = .guest (.host (.external call)) → ∀ depth,
        let outcome :=
          (HostCall.external call).answer (Reentry.level g.entry.malloc depth) m.session
        (m.active = 1 →
          outcome = .error (.host (.reentrant call.id)) m.session ∧
          (Watch.level g.entry.malloc depth).externalCall m.active call m.session = []) ∧
        (m.active = 0 →
          (Outcome.state outcome).inExternalCall = false ∧
          ∀ next : ExternalCall,
            next.resolve (Outcome.state outcome) ≠ .error (.reentrant next.id))) ∧
    (Outcome.state (g.run code s)).inExternalCall = false := by
  -- The invariant holds when the host calls, as no callback is active then.
  have hstart : Guarded 0 s := ⟨Nat.zero_le 1, by simp [idle]⟩
  refine ⟨fun m hm => ?_, ?_⟩
  · obtain ⟨hle, hguard⟩ := g.moments_induction guarded_context code s hstart m hm
    refine ⟨hle, hguard, fun call _ depth => ⟨fun hactive => ?_, fun hactive => ?_⟩⟩
    · have hbusy := hguard.mpr hactive
      exact ⟨HostCall.answer_external_of_busy _ call hbusy,
        Watch.externalCall_of_busy _ _ call hbusy⟩
    · -- no callback is active, so the call starts with the guard released and restores it
      have hidle : m.session.inExternalCall = false := by
        rw [Bool.eq_false_iff, ne_eq, hguard, hactive]
        decide
      have hreleased := (HostCall.answer_continuous
        (Reentry.level_continuous g.entry.malloc depth) (.external call) m.session).inExternalCall
      rw [hidle] at hreleased
      exact ⟨hreleased, fun next => ExternalCall.resolve_ne_reentrant hreleased next next.id⟩
  · rw [(g.run_continuous code s).inExternalCall]
    exact idle

/-! ## A guest that calls from its allocator -/

/-- Allocates one slot and passes over the error, if there is one. -/
def allocating : ExternalFunction :=
  .procedure0 "ALLOC" do
    let _ ← Callback.ask (.allocate 1)

/-- Calls the function with id 1, with null frames. -/
def callFirst : Code Unit Int32 := Code.host (.external ⟨1, 0, 0, 0, 0⟩)

/-- A guest whose allocator makes an external call before it grants a block. -/
def callingGuest : Guest Unit where
  entry :=
    { malloc := fun _ => do
        let _ ← callFirst
        pure 1024
      initializer := pure ()
      setSource := fun _ _ _ => pure 1
      executeOneStep := callFirst
      registerFunction := fun _ => pure 0 }
  exports := []
  settings := .default

/-- A session of it, in which the function is registered. -/
def callingSession : Session Unit :=
  { Session.initial ⟨none, 0, 0, fun _ => ⟨0⟩⟩ 1 () with table := ⟨#[none, some allocating]⟩ }

/-- The call, the entry, the allocation and the allocator's own call: the last three are moments of
the one active callback. -/
theorem external_calls_never_nest_allocator :
    callingSession.inExternalCall = false ∧
    (callingGuest.moments callFirst callingSession).map Moment.active = [0, 1, 1, 1] ∧
    (∀ m ∈ callingGuest.moments callFirst callingSession, m.active ≤ 1) ∧
    (Outcome.state (callingGuest.run callFirst callingSession)).inExternalCall = false :=
  ⟨rfl, by rfl,
    fun m hm => ((external_calls_never_nest callingGuest callFirst callingSession rfl).1 m hm).1,
    (external_calls_never_nest callingGuest callFirst callingSession rfl).2⟩

end GuestBridge
