import GuestBridge.Bridge.Arguments
import GuestBridge.Guest.Code
import GuestBridge.Session.Basic
/-!
# External calls

A guest calls a host function by its id and two frames. The call is resolved first, without any
effect: no other call may be in progress, the id must be registered, the return frame must ask for
nothing, the signature must have no returns and no arrays, and the argument frame must match the
registered tags. Only then the callback runs, under a guard that is released however it ends.
-/

namespace GuestBridge.ExternalCall

variable {σ : Type}

/-- A count of frame words as the guest passes it. -/
def wordCount (function : String) (raw : Int32) : Except BridgeError Nat :=
  if raw < 0 then .error (.frame function (.invalidCount raw.toInt64)) else .ok raw.toInt.toNat

/-- How many values the return frame of a call asks for. -/
def returnCount (s : Session σ) (call : ExternalCall) (words : Nat) : Except Fault Nat := do
  (← Frame.at? s.arena.memory (.ofInt32 call.rets) words).count

/-- The decoded arguments of a call of a registered function, or the first check that it fails. -/
def argumentsOf (s : Session σ) (call : ExternalCall) (f : ExternalFunction) :
    Except BridgeError (List Value) := do
  let argWords ← wordCount f.name call.argWords
  let retWords ← wordCount f.name call.retWords
  let results ← Arguments.ofFrame f.name (call.returnCount s retWords)
  if results > 0 || !f.signature.rets.isEmpty then
    throw (.unsupportedShape f.name
      ("return values are not supported (" ++ toString results ++ " requested)"))
  if f.signature.usesArray then
    throw (.unsupportedShape f.name "array arguments are not supported")
  Arguments.decode f.name f.signature.args s.arena.memory (.ofInt32 call.args) argWords

/-- The function and the decoded arguments of a call, or the first check that it fails. -/
def resolve (s : Session σ) (call : ExternalCall) :
    Except BridgeError (ExternalFunction × List Value) := do
  if s.inExternalCall then throw (.reentrant call.id)
  let some f := s.table.get? call.id | throw (.unknownFunction call.id)
  return (f, ← call.argumentsOf s f)

/-- Runs an action with the guard set, and releases the guard however it ends. -/
def guarded (a : Action BridgeError σ Unit) : Action BridgeError σ Unit := fun s =>
  match a { s with inExternalCall := true } with
  | .ok () s' => .ok () { s' with inExternalCall := false }
  | .error e s' => .error e { s' with inExternalCall := false }

/-- Resolves a call and runs its callback by `runCallback`. -/
def run (runCallback : String → Callback Unit → Action BridgeError σ Unit)
    (call : ExternalCall) : Action BridgeError σ Unit := fun s =>
  match call.resolve s with
  | .error e => .error e s
  | .ok (f, args) => guarded (runCallback f.name (f.callback args)) s

end GuestBridge.ExternalCall
