import GuestBridge.Bridge.Error
import GuestBridge.Wire.Frame
/-!
# Reading arguments

The arguments of an external call are read from its frame against the tags that the function was
registered with: as many values as tags, and each tag word the registered one.
-/

namespace GuestBridge.Arguments

/-- Names the function in a fault of its frame. -/
def ofFrame {α : Type} (function : String) (r : Except Fault α) : Except BridgeError α :=
  r.mapError (.frame function)

/-- Names the function in a fault of its frame, at any position. -/
def reading {α : Type} (function : String) (r : Frame.Reader α) : EStateM BridgeError Nat α :=
  fun position =>
    match r position with
    | .ok a next => .ok a next
    | .error e next => .error (.frame function e) next

/-- Reads one value for each tag; `position` counts the values already read. -/
def readAll (f : Frame) (function : String) :
    (position : Nat) → List Tag → EStateM BridgeError Nat (List Value)
  | _, [] => pure []
  | position, tag :: rest => do
    let found ← reading function f.readTag
    if found = tag then
      let value ← reading function (f.readPayload tag)
      return value :: (← readAll f function (position + 1) rest)
    else throw (.tagMismatch function position tag found)

/-- Decodes the frame at a pointer against the registered tags. -/
def decode (function : String) (expected : List Tag) (m : Memory) (p : Pointer) (words : Nat) :
    Except BridgeError (List Value) := do
  let f ← ofFrame function (Frame.at? m p words)
  let found ← ofFrame function f.count
  if found = expected.length then
    match readAll f function 0 expected Frame.firstPosition with
    | .ok values _ => .ok values
    | .error e _ => .error e
  else .error (.arityMismatch function expected.length found)

end GuestBridge.Arguments
