import GuestBridge.Guest.Module
/-!
# Stub modules

A stub is a module that does nothing: it imports and exports what it lists, and its functions return
zeros. Two stubs with the same lists are the same, so a stub has an image in bytes.
-/

namespace GuestBridge

/-- What a stub exports under a name. -/
inductive StubExport
  | function (type : FuncType)
  /-- A constant zero. -/
  | global (type : ValueType)
  | table
  | memory
  deriving DecidableEq, Repr

/-- A module by its imports and exports. -/
structure Stub where
  imports : List Import
  exports : List (String × StubExport)
  deriving DecidableEq, Repr

namespace Stub

/-- A function of a stub returns a zero of each of its result types. -/
def exported : StubExport → Export Unit
  | .function type => .function type fun _ => return type.results.map Operand.zero
  | .global type => .global (.zero type)
  | .table => .table
  | .memory => .memory

/-- The stub as a module. It has no state. -/
def module (s : Stub) : Module where
  State := Unit
  start := ()
  imports := s.imports
  exports := s.exports.map fun (name, e) => (name, exported e)

end Stub

end GuestBridge
