import GuestBridge.Bridge.Error
/-!
# Traps

How a guest call ends without a result: by the guest's own fault, or by an error that a host import
raised. An error of the host keeps its identity on its way through guest code.
-/

namespace GuestBridge

/-- Why a guest call ended without a result. -/
inductive Trap
  /-- The guest's own fault. -/
  | guest (reason : String)
  /-- The error that a host import raised. -/
  | host (e : BridgeError)
  deriving DecidableEq, Repr

namespace Trap

/-- The error of the host operation that made the guest call. -/
def toBridgeError : Trap → BridgeError
  | guest reason => .guest reason
  | host e => e

/-- Guest code reached a point that it forbids. -/
def unreachable : Trap := guest "unreachable code executed"

/-- A load or store left the memory. -/
def outOfBounds : Trap := guest "memory access out of bounds"

/-- Host and guest called each other too deeply. -/
def exhausted : Trap := guest "call stack exhausted"

end Trap

end GuestBridge
