import GuestBridge.Guest.Basic
import GuestBridge.Wire.Descriptor
/-!
# Registration

A function is offered to the guest by a descriptor in guest memory. The guest answers with an id,
and the function is recorded under it. Nothing is recorded unless every step succeeds.
-/

namespace GuestBridge.Guest

variable {σ : Type}

/-- Writes a function's name and descriptor into guest memory. -/
def describe (g : Guest σ) (f : ExternalFunction) : Action BridgeError σ Pointer := do
  let name ← g.allocateText f.name
  let descriptor ← g.allocate (Descriptor.slots f.signature)
  Action.writeMemory descriptor (Descriptor.encode name f.signature)
  return descriptor

def record (id : FunctionId) (f : ExternalFunction) : Action BridgeError σ Unit := fun s =>
  match s.table.insert id f with
  | .ok table => .ok () { s with table }
  | .error e => .error e s

/-- Offers a function to the guest and records it under the id that the guest assigns. -/
def register (g : Guest σ) (f : ExternalFunction) : Action BridgeError σ FunctionId := do
  let descriptor ← g.describe f
  let raw ← (g.run (g.entry.registerFunction descriptor.toInt32)).mapError Trap.toBridgeError
  match FunctionId.ofRaw? raw with
  | none => throw (.registrationRejected f.name raw)
  | some id =>
    record id f
    return id

/-- Registers functions in order, up to the first that fails; those before it stay registered. -/
def registerAll (g : Guest σ) : List ExternalFunction → Action BridgeError σ (List FunctionId)
  | [] => pure []
  | f :: rest => do
    let id ← g.register f
    return id :: (← g.registerAll rest)

/-- Registers functions in order and passes over those that the guest refuses. Only a fatal error
ends it. -/
def registerAvailable (g : Guest σ) :
    List ExternalFunction → Action BridgeError σ (List FunctionId)
  | [] => pure []
  | f :: rest => fun s =>
    match g.register f s with
    | .ok id s' => ((id :: ·) <$> g.registerAvailable rest) s'
    | .error e s' => if e.isFatal then .error e s' else g.registerAvailable rest s'

end GuestBridge.Guest
