import GuestBridge.Session.Basic
/-!
# Outcomes of stateful computations

A computation that can fail ends with a value or an error, and with a state in either case
(`state`). Main statement: a sequence succeeds exactly when its parts do, one after the other
(`bind_eq_ok_iff`).
-/

namespace GuestBridge.Outcome

variable {ε σ α β : Type}

/-- The state that an outcome leaves, whether it is a value or an error. -/
def state : EStateM.Result ε σ α → σ
  | .ok _ s => s
  | .error _ s => s

/-- Changes the state that an outcome leaves. -/
def mapState {τ : Type} (f : σ → τ) : EStateM.Result ε σ α → EStateM.Result ε τ α
  | .ok a s => .ok a (f s)
  | .error e s => .error e (f s)

/-! ## Sequences -/

/-- A sequence goes on with the value of its first part, or ends with the error. -/
theorem bind_apply (x : EStateM ε σ α) (f : α → EStateM ε σ β) (s : σ) :
    (x >>= f) s =
      match x s with
      | .ok a s' => f a s'
      | .error e s' => .error e s' := rfl

/-- A sequence succeeds exactly if both parts do. -/
theorem bind_eq_ok_iff {x : EStateM ε σ α} {f : α → EStateM ε σ β} {s t : σ} {b : β} :
    (x >>= f) s = .ok b t ↔ ∃ a u, x s = .ok a u ∧ f a u = .ok b t := by
  rw [bind_apply]
  cases h : x s with
  | ok a u =>
    refine ⟨fun hf => ⟨a, u, rfl, hf⟩, fun hparts => ?_⟩
    obtain ⟨a', u', ha, hf⟩ := hparts
    cases ha
    exact hf
  | error e u =>
    -- neither side holds: the first part failed, so there is no value to go on with
    refine ⟨fun hf => ?_, fun hparts => ?_⟩
    · cases hf
    · obtain ⟨a', u', ha, -⟩ := hparts
      cases ha

/-- A sequence fails in its first part, or in the second one after that. -/
theorem bind_eq_error_iff {x : EStateM ε σ α} {f : α → EStateM ε σ β} {s t : σ} {e : ε} :
    (x >>= f) s = .error e t ↔
      x s = .error e t ∨ ∃ a u, x s = .ok a u ∧ f a u = .error e t := by
  rw [bind_apply]
  -- Without an error the first part hands its value and its state on.
  cases x s with
  | ok a u =>
    refine ⟨fun h => .inr ⟨a, u, rfl, h⟩, fun h => ?_⟩
    rcases h with h | ⟨a', u', ha, h⟩
    · cases h
    · cases ha
      exact h
  | error e' u => simp only [reduceCtorEq, false_and, exists_false, or_false,
      EStateM.Result.error.injEq]

theorem pure_eq_ok_iff {a b : α} {s t : σ} :
    (pure a : EStateM ε σ α) s = .ok b t ↔ b = a ∧ t = s := by
  refine ⟨fun h => ?_, fun h => ?_⟩
  · cases h
    exact ⟨rfl, rfl⟩
  · obtain ⟨rfl, rfl⟩ := h
    rfl

/-- The error of an outcome, whatever the state. -/
theorem exists_error_iff {e e' : ε} {s : σ} :
    (∃ t, (.error e' s : EStateM.Result ε σ α) = .error e t) ↔ e' = e := by
  simp only [EStateM.Result.error.injEq, exists_and_left, exists_eq', and_true]

theorem throw_ne_ok {e : ε} {a : α} {s t : σ} :
    (throw e : EStateM ε σ α) s ≠ .ok a t := by
  intro h
  cases h

/-- A function on the value does not matter to success. -/
theorem map_eq_ok_iff {f : α → β} {x : EStateM ε σ α} {s t : σ} {b : β} :
    (f <$> x) s = .ok b t ↔ ∃ a, x s = .ok a t ∧ f a = b := by
  refine bind_eq_ok_iff.trans ⟨fun h => ?_, fun h => ?_⟩
  · obtain ⟨a, u, ha, hb⟩ := h
    obtain ⟨rfl, rfl⟩ := pure_eq_ok_iff.mp hb
    exact ⟨a, ha, rfl⟩
  · obtain ⟨a, ha, rfl⟩ := h
    exact ⟨a, t, ha, rfl⟩

theorem map_eq_error_iff {f : α → β} {x : EStateM ε σ α} {s t : σ} {e : ε} :
    (f <$> x) s = .error e t ↔ x s = .error e t := by
  refine bind_eq_error_iff.trans ⟨fun h => ?_, .inl⟩
  rcases h with h | ⟨a, u, -, h⟩
  · exact h
  · cases h

theorem state_map (f : α → β) (x : EStateM ε σ α) (s : σ) : state ((f <$> x) s) = state (x s) := by
  show state ((x >>= fun a => pure (f a)) s) = _
  rw [bind_apply]
  cases x s with
  | ok a t => rfl
  | error e t => rfl

/-! ## Renamed errors -/

section Renamed

variable {ε' : Type} {a : Action ε σ α} {g : ε → ε'} {s t : Session σ}

/-- A renamed error comes from one. -/
theorem renamed_eq_error_iff {e : ε'} :
    a.mapError g s = .error e t ↔ ∃ e', a s = .error e' t ∧ e = g e' := by
  unfold Action.mapError
  cases a s with
  | ok r u => simp only [reduceCtorEq, false_and, exists_false]
  | error e' u =>
    simp only [EStateM.Result.error.injEq]
    refine ⟨fun h => ⟨e', ⟨rfl, h.2⟩, h.1.symm⟩, fun h => ?_⟩
    obtain ⟨_, ⟨rfl, hstate⟩, rfl⟩ := h
    exact ⟨rfl, hstate⟩

/-- Success is not renamed. -/
theorem renamed_eq_ok_iff {r : α} : a.mapError g s = .ok r t ↔ a s = .ok r t := by
  unfold Action.mapError
  cases a s with
  | ok q u => simp only [EStateM.Result.ok.injEq]
  | error e u => simp only [reduceCtorEq]

/-- Naming an error differently leaves the session alone. -/
theorem state_renamed (a : Action ε σ α) (g : ε → ε') (s : Session σ) :
    state (a.mapError g s) = state (a s) := by
  unfold Action.mapError
  cases a s with
  | ok r t => rfl
  | error e t => rfl

end Renamed

/-- An error that is delivered as a value leaves the session as it was thrown in. -/
theorem state_attempt (a : Action ε σ α) (s : Session σ) : (a.attempt s).2 = state (a s) := by
  unfold Action.attempt
  cases a s with
  | ok r t => rfl
  | error e t => rfl

/-! ## Computations without a state -/

/-- A sequence without a state succeeds if both of its parts do. -/
theorem except_bind_eq_ok_iff {x : Except ε α} {f : α → Except ε β} {b : β} :
    (x >>= f) = .ok b ↔ ∃ a, x = .ok a ∧ f a = .ok b := by
  cases x with
  | ok a =>
    refine ⟨fun h => ⟨a, rfl, h⟩, fun hparts => ?_⟩
    obtain ⟨a', ha, h⟩ := hparts
    cases ha
    exact h
  | error e =>
    refine ⟨fun h => ?_, fun hparts => ?_⟩
    · cases h
    · obtain ⟨a', ha, -⟩ := hparts
      cases ha

/-- A sequence without a state fails with the error of its first part, or of its second. -/
theorem except_bind_eq_error_iff {x : Except ε α} {f : α → Except ε β} {e : ε} :
    (x >>= f) = .error e ↔ x = .error e ∨ ∃ a, x = .ok a ∧ f a = .error e := by
  cases x with
  | ok a =>
    simp only [reduceCtorEq, Except.ok.injEq, false_or, exists_eq_left']
    exact Iff.rfl
  | error e' =>
    show (Except.error e' : Except ε β) = .error e ↔ _
    simp only [reduceCtorEq, false_and, exists_false, or_false, Except.error.injEq]

theorem mapError_eq_error_iff {ε' : Type} {g : ε → ε'} {x : Except ε α} {e : ε'} :
    x.mapError g = .error e ↔ ∃ e', x = .error e' ∧ g e' = e := by
  cases x with
  | ok b =>
    show (Except.ok b : Except ε' α) = .error e ↔ _
    simp only [reduceCtorEq, false_and, exists_false]
  | error e' =>
    show (Except.error (g e') : Except ε' α) = .error e ↔ _
    simp only [Except.error.injEq, exists_eq_left']

theorem mapError_eq_ok_iff {ε' : Type} {g : ε → ε'} {x : Except ε α} {a : α} :
    x.mapError g = .ok a ↔ x = .ok a := by
  cases x with
  | ok b =>
    show (Except.ok b : Except ε' α) = .ok a ↔ _
    rw [Except.ok.injEq, Except.ok.injEq]
  | error e =>
    show (Except.error (g e) : Except ε' α) = .ok a ↔ _
    simp only [reduceCtorEq]

end GuestBridge.Outcome
