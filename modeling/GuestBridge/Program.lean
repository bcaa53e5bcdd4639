/-!
# Programs over operations

A program is a tree: it is done, or it performs an operation and goes on with the reply. The tree
fixes what is asked and in which order, not how the operations are answered; `run` gives that
meaning in any monad. Guest code and callbacks are programs, so a statement about every guest or
every callback is one about every tree. Main statement: running a sequence is running its parts
(`run_bind`).
-/

namespace GuestBridge

/-- A computation that performs operations `Op` and ends with an `α`. -/
inductive Program {Op : Type} (Reply : Op → Type) (α : Type) : Type
  | done (result : α)
  | perform (op : Op) (next : Reply op → Program Reply α)

namespace Program

variable {Op : Type} {Reply : Op → Type} {α β : Type}

/-- Goes on with a second program where the first is done. -/
def bind : Program Reply α → (α → Program Reply β) → Program Reply β
  | done a, f => f a
  | perform op next, f => perform op fun r => (next r).bind f

instance : Monad (Program Reply) where
  pure := done
  bind := bind

def ask (op : Op) : Program Reply (Reply op) := perform op done

/-- Answers the operations in a monad. -/
@[specialize]
def run {m : Type → Type} [Monad m] (answer : (op : Op) → m (Reply op)) :
    Program Reply α → m α
  | done a => pure a
  | perform op next => do
    let r ← answer op
    (next r).run answer

theorem bind_done (p : Program Reply α) : p.bind done = p := by
  induction p with
  | done a => rfl
  | perform op next ih => simp [bind, ih]

theorem bind_bind {γ : Type} (p : Program Reply α) (f : α → Program Reply β)
    (g : β → Program Reply γ) : (p.bind f).bind g = p.bind fun a => (f a).bind g := by
  induction p with
  | done a => rfl
  | perform op next ih => simp [bind, ih]

instance : LawfulMonad (Program Reply) := LawfulMonad.mk' _ bind_done (fun _ _ => rfl) bind_bind

/-- A sequence runs as the first program, then the second. -/
theorem run_bind {m : Type → Type} [Monad m] [LawfulMonad m] (answer : (op : Op) → m (Reply op))
    (p : Program Reply α) (f : α → Program Reply β) :
    (p.bind f).run answer = p.run answer >>= fun a => (f a).run answer := by
  induction p with
  | done a => simp [bind, run]
  | perform op next ih => simp [bind, run, ih]

end Program

end GuestBridge
