import GuestBridge.Guest.Error
import GuestBridge.Guest.Machine
import GuestBridge.Guest.Role
/-!
# Booted guests

A booted guest is its entry points and exports; all that changes is in the session. The operations
of the host on its guest are actions on the session.
-/

namespace GuestBridge

/-- The entry points of a guest, as typed code. -/
structure EntryPoints (σ : Type) where
  malloc : Int32 → Code σ Int32
  initializer : Code σ Unit
  setSource : Int32 → Int32 → Int32 → Code σ Int32
  executeOneStep : Code σ Int32
  registerFunction : Int32 → Code σ Int32

structure Guest (σ : Type) where
  entry : EntryPoints σ
  exports : List (String × Export σ)
  settings : Settings

namespace Code

variable {σ : Type}

/-- The single 32-bit result of code that has one. -/
def i32Result (code : Code σ (List Operand)) : Code σ Int32 := do
  match ← code with
  | [.i32 v] => pure v
  | _ => trap

/-- Ends without a result. -/
def noResult (code : Code σ (List Operand)) : Code σ Unit := do
  let _ ← code

end Code

namespace Guest

variable {σ α : Type}

/-- How many calls between host and guest may be inside each other. The bound stands for the stack of
the guest's engine, which ends such a chain with a trap. A callback that is run by another callback
counts, too, although that one needs no stack of the engine and has no bound of its own. -/
def callDepth : Nat := 512

/-- The guest's allocator and the callbacks, as host imports reach them. -/
def reentry (g : Guest σ) : Reentry σ := Reentry.level g.entry.malloc callDepth

/-- Runs code of the guest, called by the host. -/
def run (g : Guest σ) (code : Code σ α) : Action Trap σ α := code.exec g.reentry

/-! ## Memory -/

def allocate (g : Guest σ) (slots : Nat) : Action BridgeError σ Pointer :=
  Allocation.allocate (fun n => g.run (g.entry.malloc n)) slots

/-- Copies a text into fresh guest memory. -/
def allocateText (g : Guest σ) (text : String) : Action BridgeError σ Pointer :=
  Allocation.writeText (fun n => g.run (g.entry.malloc n)) text

/-! ## Programs -/

/-- Hands a program to the guest. A guest that rejects it is stopped, and its diagnostics are
presented. -/
def setSource (g : Guest σ) (slot : Int32) (file source : String) :
    Action RuntimeError σ Bool := do
  let filePointer ← (g.allocateText file).mapError .bridge
  let sourcePointer ← (g.allocateText source).mapError .bridge
  let code := g.entry.setSource slot filePointer.toInt32 sourcePointer.toInt32
  let accepted ← (g.run code).mapError .ofTrap
  if accepted = 0 then
    modify fun s => (s.setRunState .stopped).emit .vsync
    return false
  else return true

/-- Runs one step of the program; false once it has halted. -/
def executeOneStep (g : Guest σ) : Action RuntimeError σ Bool := do
  let more ← (g.run g.entry.executeOneStep).mapError .ofTrap
  return more != 0

/-- Calls an exported function by name. Operands of another number or type trap. -/
def call (g : Guest σ) (name : String) (operands : List Operand) :
    Action RuntimeError σ (List Operand) :=
  match Export.find? g.exports name with
  | some (.function type code) =>
    if operands.map Operand.type = type.params then (g.run (code operands)).mapError .ofTrap
    else throw (.trap "operands do not match the type of the function")
  | _ => throw (.functionNotFound name)

end Guest

end GuestBridge
