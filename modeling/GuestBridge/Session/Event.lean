import GuestBridge.Bridge.Error
import GuestBridge.Screen.Change
import GuestBridge.Wire.Pointer
import GuestBridge.Wire.Value
/-!
# Observable events

Everything that a session shows to the outside is an event in its trace, in order. What a consumer
makes of the trace (a stream of text, a screen, a log) is a function of it.
-/

namespace GuestBridge

/-- Whether the program of a session is being run. -/
inductive RunState
  | stopped | running
  deriving DecidableEq, Repr

/-- Names a flag by which a scheduler is asked to stop. -/
structure StopHandle where
  index : Nat
  deriving DecidableEq, Repr

/-- The stage at which a host import failed without aborting the guest. -/
inductive FailureKind
  | decode | dispatch | allocation | callback
  deriving DecidableEq, Repr

/-- A failure inside a host import, as reported to the outside. -/
structure HostFailure where
  interface : String
  function : String
  kind : FailureKind
  detail : String
  deriving DecidableEq, Repr

namespace HostFailure

/-- What failed, without the place. -/
def cause (f : HostFailure) : String :=
  let stage :=
    match f.kind with
    | .decode => "decode failed: "
    | .dispatch => "dispatch refused: "
    | .allocation => "allocation failed: "
    | .callback => "callback failed: "
  stage ++ f.detail

def message (f : HostFailure) : String :=
  "host function error in " ++ f.interface ++ "::" ++ f.function ++ ": " ++ f.cause

end HostFailure

/-- What a callback may note down in the trace. -/
inductive Note
  | called (function : String) (args : List Value)
  | allocated (p : Pointer)
  | read (text : String)
  | function (name : String)
  | overview (functions : Nat) (state : RunState)
  | received (text : Option String)
  | caught (e : BridgeError)
  deriving DecidableEq, Repr

/-- One thing that a session showed. -/
inductive Event
  /-- One code point of output. -/
  | output (code : UInt32)
  /-- The output so far may be presented. -/
  | vsync
  | stateChanged (state : RunState)
  /-- The text loader was asked for a name. -/
  | textRequested (name : String)
  | failure (f : HostFailure)
  | screen (change : Screen.Change)
  | note (n : Note)
  deriving DecidableEq, Repr

end GuestBridge
