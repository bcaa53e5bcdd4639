import GuestBridge.Wire.Fault
/-!
# Errors of the bridge

What can go wrong when a call, a registration or an allocation crosses between host and guest. A
fatal error aborts the guest; the others are reported, and the single call or registration fails.
-/

namespace GuestBridge

/-- Why something that crosses between host and guest failed. -/
inductive BridgeError
  | registrationRejected (name : String) (code : Int32)
  | duplicateId (id : Nat)
  | idOutOfRange (id : Int32)
  | unknownFunction (id : Int32)
  | tagMismatch (function : String) (position : Nat) (expected found : Tag)
  | arityMismatch (function : String) (expected found : Nat)
  | frame (function : String) (fault : Fault)
  | unsupportedShape (function reason : String)
  | allocationFailed (slots : Nat) (raw : Int32)
  | callback (function message : String)
  | reentrant (id : Int32)
  | codec (fault : Fault)
  | noArena
  | guest (message : String)
  deriving DecidableEq, Repr

namespace BridgeError

def message : BridgeError → String
  | registrationRejected name code =>
    "Guest rejected registration of '" ++ name ++ "' (code " ++ toString code.toInt ++ ")"
  | duplicateId id => "Guest assigned function id " ++ toString id ++ " twice"
  | idOutOfRange id =>
    "Guest assigned function id " ++ toString id.toInt ++ ", outside the supported range"
  | unknownFunction id => "Unknown external function id " ++ toString id.toInt
  | tagMismatch function position expected found =>
    "Argument " ++ toString position ++ " of '" ++ function ++ "': registered as " ++
      expected.name ++ ", frame has " ++ found.name
  | arityMismatch function expected found =>
    "'" ++ function ++ "' takes " ++ toString expected ++ " argument(s), frame has " ++
      toString found
  | frame function fault => "Malformed call frame for '" ++ function ++ "': " ++ fault.message
  | unsupportedShape function reason => "Unsupported call to '" ++ function ++ "': " ++ reason
  | allocationFailed slots raw =>
    "Guest allocation of " ++ toString slots ++ " slots failed (returned " ++
      toString raw.toInt ++ ")"
  | callback function message => "External function '" ++ function ++ "' failed: " ++ message
  | reentrant id => "Nested external call to function id " ++ toString id.toInt
  | codec fault => fault.message
  | noArena => "Arena not attached to session"
  | guest message => "Guest call failed: " ++ message

/-- Fatal errors abort the guest. -/
def isFatal : BridgeError → Bool
  | registrationRejected .. | duplicateId _ | idOutOfRange _ | unsupportedShape .. | callback .. =>
    false
  | _ => true

/-- What the guest gets for a call that fails without aborting it: -1 for a call of an unsupported
shape, -2 otherwise. -/
def status : BridgeError → Int32
  | unsupportedShape .. => -1
  | _ => -2

/-- The allocator is missing as long as no guest has booted. -/
def noAllocator : BridgeError := guest "guest allocator not resolved"

end BridgeError

/-- What the guest gets for a call that succeeded. -/
def statusOk : Int32 := 0

end GuestBridge
