import GuestBridge.Proofs.Session.Continuity
import GuestBridge.Proofs.Session.Obliviousness
/-!
# Single steps, and what presenting adds to them

`Guest.steps` is the plain loop that a scheduler cuts into batches: single steps, one after the
other, for as long as the program wants more. A scheduler does the same steps but presents the
output in between, so the sessions of its run and of the plain loop differ by presentations only:
`Session.Paced`. Since nothing reads the trace, a step keeps that relation.

## Main statements

* **`Action.Oblivious.paced_ok`**, **`Action.Oblivious.paced_error`** — an oblivious action does the
  same in a paced session, and ends in one that is paced as much;
* **`Guest.steps_add`** — the loop can be cut anywhere;
* **`Guest.steps_or_ends`** — the loop goes on, or one of its steps is the first that does not.
-/

namespace GuestBridge

variable {ε σ α : Type}

/-! ## Presentations -/

/-- The code point that an event puts out. -/
def Event.code? : Event → Option UInt32
  | .output code => some code
  | _ => none

namespace Session

/-- What was shown, presentations aside. -/
def shown (s : Session σ) : List Event := s.trace.toList.filter (· ≠ .vsync)

/-- How often the output was presented. -/
def vsyncs (s : Session σ) : Nat := s.trace.toList.count .vsync

/-- The code points of the output. -/
def output (s : Session σ) : List UInt32 := s.shown.filterMap Event.code?

/-- A change of the run state puts out nothing. -/
theorem output_setRunState (s : Session σ) (state : RunState) :
    (s.setRunState state).output = s.output := by
  unfold setRunState
  split
  · rfl
  · simp [output, shown, emit, Event.code?]

theorem vsyncs_setRunState (s : Session σ) (state : RunState) :
    (s.setRunState state).vsyncs = s.vsyncs := by
  unfold setRunState
  split
  · rfl
  · simp [vsyncs, emit]

/-- Printing puts out the code points of the text. -/
theorem output_print (s : Session σ) (text : String) :
    (s.print text).output = s.output ++ text.toList.map (·.val) := by
  have hshown : (text.toList.map fun c => Event.output c.val).filter (· ≠ .vsync) =
      text.toList.map fun c => Event.output c.val := by
    rw [List.filter_eq_self]
    simp
  rw [print_eq, output, shown, Array.toList_append, List.filter_append, hshown,
    List.filterMap_append, List.filterMap_map]
  have hcodes : Event.code? ∘ (fun c : Char => Event.output c.val) = fun c => some c.val := rfl
  rw [hcodes, ← List.filterMap_eq_map]
  rfl

theorem vsyncs_print (s : Session σ) (text : String) : (s.print text).vsyncs = s.vsyncs := by
  rw [print_eq]
  simp [vsyncs, List.count_eq_zero]

theorem runState_print (s : Session σ) (text : String) :
    (s.print text).runState = s.runState := by
  rw [print_eq]

/-- The session `v` is `t` but for `extra` more presentations in its trace. -/
structure Paced (extra : Nat) (t v : Session σ) : Prop where
  bare : v.bare = t.bare
  shown : v.shown = t.shown
  vsyncs : v.vsyncs = t.vsyncs + extra

namespace Paced

variable {k : Nat} {t v : Session σ}

theorem refl (s : Session σ) : Paced 0 s s := ⟨rfl, rfl, rfl⟩

theorem runState (h : Paced k t v) : v.runState = t.runState := by
  show v.bare.runState = t.bare.runState
  rw [h.bare]

/-- Presentations do not matter to stop requests. -/
theorem stopRequested (h : Paced k t v) (handle : StopHandle) :
    v.stopRequested handle = t.stopRequested handle := by
  show v.bare.stopRequested handle = t.bare.stopRequested handle
  rw [h.bare]

/-- Presentations do not matter to the output. -/
theorem output (h : Paced k t v) : v.output = t.output := by
  rw [Session.output, Session.output, h.shown]

/-- One more presentation. -/
theorem emit_vsync (h : Paced k t v) : Paced (k + 1) t (v.emit .vsync) where
  bare := h.bare
  shown := by
    rw [← h.shown]
    simp [Session.shown, emit]
  vsyncs := by
    rw [← Nat.add_assoc, ← h.vsyncs]
    simp [Session.vsyncs, emit]

/-- Two sessions that differ by presentations only still do after the same events. -/
theorem append {t' v' : Session σ} (h : Paced k t v) (events : Array Event)
    (hbare : v'.bare = t'.bare) (ht : t'.trace = t.trace ++ events)
    (hv : v'.trace = v.trace ++ events) : Paced k t' v' where
  bare := hbare
  shown := by
    have hshown := h.shown
    unfold Session.shown at hshown ⊢
    rw [ht, hv, Array.toList_append, Array.toList_append, List.filter_append, List.filter_append,
      hshown]
  vsyncs := by
    have hvsyncs := h.vsyncs
    unfold Session.vsyncs at hvsyncs ⊢
    rw [ht, hv, Array.toList_append, Array.toList_append, List.count_append, List.count_append,
      hvsyncs]
    omega

/-- The same event in both sessions leaves them paced as they were. -/
theorem emit (h : Paced k t v) (e : Event) : Paced k (t.emit e) (v.emit e) :=
  h.append #[e] h.bare (by simp [Session.emit]) (by simp [Session.emit])

/-- A change of the run state leaves sessions paced: both report it or neither does. -/
theorem setRunState (h : Paced k t v) (state : RunState) :
    Paced k (t.setRunState state) (v.setRunState state) := by
  unfold Session.setRunState
  rw [h.runState]
  split
  · exact h
  · refine (h.emit (.stateChanged state)).append #[] ?_ (by simp) (by simp)
    exact congrArg (fun s : Session σ => { s with runState := state }) h.bare

theorem print (h : Paced k t v) (text : String) : Paced k (t.print text) (v.print text) := by
  rw [print_eq, print_eq]
  exact h.append _ h.bare rfl rfl

end Paced

end Session

namespace Action.Oblivious

variable {a : Action ε σ α} {k : Nat} {t t' v : Session σ}

/-- An oblivious action that succeeds does so in a paced session, with the same value. -/
theorem paced_ok (ha : Action.Oblivious a) (h : Session.Paced k t v) {r : α}
    (hok : a t = .ok r t') : ∃ v', a v = .ok r v' ∧ Session.Paced k t' v' := by
  -- what the action does with an empty trace decides both runs
  have hv := ha.eq_after_bare v
  rw [ha.eq_after_bare t] at hok
  rw [h.bare] at hv
  cases hbare : a t.bare with
  | ok q u =>
    rw [hbare] at hok hv
    cases hok
    exact ⟨_, hv, h.append u.trace rfl rfl rfl⟩
  | error e u =>
    rw [hbare] at hok
    cases hok

/-- An oblivious action that fails does so in a paced session, with the same error. -/
theorem paced_error (ha : Action.Oblivious a) (h : Session.Paced k t v) {e : ε}
    (herror : a t = .error e t') : ∃ v', a v = .error e v' ∧ Session.Paced k t' v' := by
  have hv := ha.eq_after_bare v
  rw [ha.eq_after_bare t] at herror
  rw [h.bare] at hv
  cases hbare : a t.bare with
  | ok q u =>
    rw [hbare] at herror
    cases herror
  | error e' u =>
    rw [hbare] at herror hv
    cases herror
    exact ⟨_, hv, h.append u.trace rfl rfl rfl⟩

end Action.Oblivious

/-! ## The plain loop -/

namespace Guest

variable {g : Guest σ}

/-- Runs up to `n` single steps, for as long as the program wants more. -/
def steps (g : Guest σ) : (n : Nat) → Action RuntimeError σ Bool
  | 0 => pure true
  | n + 1 => do
    if ← g.executeOneStep then g.steps n else return false

/-- The sessions in which up to `n` single steps begin, for as long as the program wants more. -/
def begun (g : Guest σ) : (n : Nat) → Session σ → List (Session σ)
  | 0, _ => []
  | n + 1, s =>
    s ::
      match g.executeOneStep s with
      | .ok true t => g.begun n t
      | _ => []

/-- The step number `N`, counted from one, is the first that does not want more, and it ends in
`last`. -/
def EndsAt (g : Guest σ) (s : Session σ) (N : Nat)
    (last : EStateM.Result RuntimeError (Session σ) Bool) : Prop :=
  ∃ n u, N = n + 1 ∧ g.steps n s = .ok true u ∧ g.executeOneStep u = last ∧
    ∀ t, last ≠ .ok true t

/-- If the first step wants more, the others follow. -/
theorem steps_succ_of_more {n : Nat} {s t : Session σ} (h : g.executeOneStep s = .ok true t) :
    g.steps (n + 1) s = g.steps n t := by
  rw [steps, Outcome.bind_apply, h]
  rfl

/-- The first step begins in the session of the loop, the next ones in that which it leaves. -/
theorem begun_succ_of_more {n : Nat} {s t : Session σ} (h : g.executeOneStep s = .ok true t) :
    g.begun (n + 1) s = s :: g.begun n t := by
  rw [begun, h]

/-- The loop still wants more if the first step does and the others do. -/
theorem steps_succ_eq_more_iff {n : Nat} {s u : Session σ} :
    g.steps (n + 1) s = .ok true u ↔
      ∃ t, g.executeOneStep s = .ok true t ∧ g.steps n t = .ok true u := by
  refine ⟨fun h => ?_, fun h => ?_⟩
  · rw [steps, Outcome.bind_eq_ok_iff] at h
    obtain ⟨more, t, hstep, hrest⟩ := h
    cases more with
    | true => exact ⟨t, hstep, hrest⟩
    | false => cases hrest
  · obtain ⟨t, hstep, hrest⟩ := h
    rw [steps_succ_of_more hstep, hrest]

/-- The loop can be cut anywhere. -/
theorem steps_add {m n : Nat} {s u : Session σ} :
    g.steps (m + n) s = .ok true u ↔
      ∃ t, g.steps m s = .ok true t ∧ g.steps n t = .ok true u := by
  -- Induction on the steps before the cut, the first one split off.
  induction m generalizing s with
  | zero =>
    rw [Nat.zero_add]
    refine ⟨fun h => ⟨s, rfl, h⟩, fun h => ?_⟩
    obtain ⟨t, hs, ht⟩ := h
    cases hs
    exact ht
  | succ m ih =>
    rw [Nat.add_right_comm, steps_succ_eq_more_iff]
    refine ⟨fun h => ?_, fun h => ?_⟩
    · obtain ⟨r, hstep, hrest⟩ := h
      obtain ⟨t, hm, hn⟩ := ih.mp hrest
      exact ⟨t, steps_succ_eq_more_iff.mpr ⟨r, hstep, hm⟩, hn⟩
    · obtain ⟨t, hm, hn⟩ := h
      obtain ⟨r, hstep, hrest⟩ := steps_succ_eq_more_iff.mp hm
      exact ⟨r, hstep, ih.mpr ⟨t, hrest, hn⟩⟩

/-- The steps behind a cut begin in the sessions that they would begin in by themselves. -/
theorem begun_add {m : Nat} (n : Nat) {s t : Session σ} (h : g.steps m s = .ok true t) :
    g.begun (m + n) s = g.begun m s ++ g.begun n t := by
  induction m generalizing s with
  | zero =>
    cases h
    rw [Nat.zero_add]
    rfl
  | succ m ih =>
    obtain ⟨r, hstep, hrest⟩ := steps_succ_eq_more_iff.mp h
    rw [Nat.add_right_comm, begun_succ_of_more hstep, begun_succ_of_more hstep, ih hrest,
      List.cons_append]

/-- A loop that still wants more has begun all its steps. -/
theorem length_begun {n : Nat} {s t : Session σ} (h : g.steps n s = .ok true t) :
    (g.begun n s).length = n := by
  induction n generalizing s with
  | zero => rfl
  | succ n ih =>
    obtain ⟨r, hstep, hrest⟩ := steps_succ_eq_more_iff.mp h
    rw [begun_succ_of_more hstep, List.length_cons, ih hrest]

/-- All steps want more, or one of them is the first that does not. -/
theorem steps_or_ends (g : Guest σ) (n : Nat) (s : Session σ) :
    (∃ t, g.steps n s = .ok true t) ∨ ∃ N last, N ≤ n ∧ g.EndsAt s N last := by
  -- Induction on the steps, the last one split off: what ended before it has ended.
  induction n with
  | zero => exact .inl ⟨s, rfl⟩
  | succ n ih =>
    rcases ih with ⟨u, hu⟩ | ⟨N, last, hN, hends⟩
    · by_cases hmore : ∃ t, g.executeOneStep u = .ok true t
      · obtain ⟨t, ht⟩ := hmore
        exact .inl ⟨t, steps_add.mpr ⟨u, hu, steps_succ_eq_more_iff.mpr ⟨t, ht, rfl⟩⟩⟩
      · refine .inr ⟨n + 1, _, Nat.le_refl _, n, u, rfl, hu, rfl, fun t ht => hmore ⟨t, ht⟩⟩
    · exact .inr ⟨N, last, Nat.le_succ_of_le hN, hends⟩

/-- Where a program ends behind a cut, the loop before the cut wants more. -/
theorem EndsAt.split {m n : Nat} {s : Session σ}
    {last : EStateM.Result RuntimeError (Session σ) Bool} (h : g.EndsAt s (m + (n + 1)) last) :
    ∃ t, g.steps m s = .ok true t ∧ g.EndsAt t (n + 1) last := by
  obtain ⟨n', u, hN, hsteps, hlast⟩ := h
  cases hN
  obtain ⟨t, hm, hn⟩ := steps_add.mp hsteps
  exact ⟨t, hm, n, u, rfl, hn, hlast⟩

/-- The step that ends the program comes after all that want more. -/
theorem EndsAt.lt_of_steps {N n : Nat} {s t : Session σ}
    {last : EStateM.Result RuntimeError (Session σ) Bool} (h : g.EndsAt s N last)
    (hsteps : g.steps n s = .ok true t) : n < N := by
  obtain ⟨m, u, rfl, hm, hlast, hend⟩ := h
  refine Nat.lt_of_not_le fun hle => ?_
  -- otherwise the last step would be among those that want more
  obtain ⟨k, rfl⟩ := Nat.exists_eq_add_of_le hle
  rw [Nat.add_assoc, Nat.add_comm 1 k] at hsteps
  obtain ⟨u', hm', hrest⟩ := steps_add.mp hsteps
  obtain ⟨r, hmore, -⟩ := steps_succ_eq_more_iff.mp hrest
  rw [hm] at hm'
  cases hm'
  exact hend r (hlast.symm.trans hmore)

/-- After the last step no other begins. -/
theorem begun_of_endsAt {N : Nat} (n : Nat) {s : Session σ}
    {last : EStateM.Result RuntimeError (Session σ) Bool} (h : g.EndsAt s N last) :
    g.begun (N + n) s = g.begun N s := by
  obtain ⟨m, u, rfl, hsteps, hlast, hend⟩ := h
  have hone (n : Nat) : g.begun (n + 1) u = [u] := by
    rw [begun, hlast]
    match last, hend with
    | .ok true t, hend => exact absurd rfl (hend t)
    | .ok false _, _ => rfl
    | .error _ _, _ => rfl
  rw [Nat.add_assoc, Nat.add_comm 1 n, begun_add _ hsteps, begun_add _ hsteps, hone, hone 0]

/-- As many steps begin as the program has. -/
theorem length_begun_of_endsAt {N : Nat} {s : Session σ}
    {last : EStateM.Result RuntimeError (Session σ) Bool} (h : g.EndsAt s N last) :
    (g.begun N s).length = N := by
  obtain ⟨m, u, rfl, hsteps, -⟩ := h
  have hone : (g.begun 1 u).length = 1 := by
    rw [begun]
    split <;> rfl
  rw [begun_add 1 hsteps, List.length_append, length_begun hsteps, hone]

/-! ## Steps of paced sessions -/

/-- The loop does not look at the trace, as no step does. -/
theorem steps_oblivious (g : Guest σ) (n : Nat) : Action.Oblivious (g.steps n) := by
  induction n with
  | zero => exact .pure true
  | succ n ih =>
    refine .bind g.executeOneStep_oblivious fun more => ?_
    cases more with
    | true => exact ih
    | false => exact .pure false

/-- A step is guest code, and then a look at its answer. -/
theorem executeOneStep_within {R : Session σ → Session σ → Prop} (hR : Session.Stable R)
    (g : Guest σ) : Action.Within R g.executeOneStep :=
  .bind hR ((g.run_within hR _).mapError _) fun _ => .pure hR _

theorem executeOneStep_continuous (g : Guest σ) : Action.Continuous g.executeOneStep :=
  g.executeOneStep_within .continues

/-- The loop of steps leaves alone what belongs to the host. -/
theorem steps_continuous (g : Guest σ) (n : Nat) : Action.Continuous (g.steps n) := by
  induction n with
  | zero => exact .pure true
  | succ n ih =>
    refine .bind g.executeOneStep_continuous fun more => ?_
    cases more with
    | true => exact ih
    | false => exact .pure false

/-- Paced or not, the steps begin in the same sessions. -/
theorem begun_paced (g : Guest σ) (n : Nat) {k : Nat} {t v : Session σ}
    (h : Session.Paced k t v) :
    (g.begun n v).map Session.bare = (g.begun n t).map Session.bare := by
  induction n generalizing t v with
  | zero => rfl
  | succ n ih =>
    simp only [begun, List.map_cons, h.bare]
    cases ht : g.executeOneStep t with
    | ok more t' =>
      obtain ⟨v', hv, h'⟩ := g.executeOneStep_oblivious.paced_ok h ht
      rw [hv]
      cases more with
      | true => rw [ih h']
      | false => rfl
    | error e t' =>
      obtain ⟨v', hv, -⟩ := g.executeOneStep_oblivious.paced_error h ht
      rw [hv]

end Guest

end GuestBridge
