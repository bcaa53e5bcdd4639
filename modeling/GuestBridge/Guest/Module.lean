import GuestBridge.Guest.Code
/-!
# Guest modules

A module is a guest before it is started: what it imports, what it exports, and its private state at
the start. Exported functions are guest code from operands to operands.

What a module does while it is instantiated, before the host boots it, is left out: a start function
is not run, and active segments are not copied into the memory. An instance begins with the private
state of its module and an arena of zeros.
-/

namespace GuestBridge

inductive ValueType
  | i32 | i64 | f32 | f64 | v128 | funcref | externref
  deriving DecidableEq, Repr

/-- All references share one name. -/
def ValueType.name : ValueType → String
  | i32 => "i32"
  | i64 => "i64"
  | f32 => "f32"
  | f64 => "f64"
  | v128 => "v128"
  | funcref | externref => "ref"

structure FuncType where
  params : List ValueType
  results : List ValueType
  deriving DecidableEq, Repr

/-- Parameter types and result types, each in parentheses. -/
def FuncType.text (t : FuncType) : String :=
  let names (types : List ValueType) : String := ", ".intercalate (types.map ValueType.name)
  "(" ++ names t.params ++ ") -> (" ++ names t.results ++ ")"

/-- An operand or a result. References are always null. -/
inductive Operand
  | i32 (v : Int32)
  | i64 (v : Int64)
  | f32 (bits : UInt32)
  | f64 (v : Double)
  | v128 (low high : UInt64)
  | funcref
  | externref
  deriving DecidableEq, Repr

namespace Operand

def type : Operand → ValueType
  | i32 _ => .i32
  | i64 _ => .i64
  | f32 _ => .f32
  | f64 _ => .f64
  | v128 _ _ => .v128
  | funcref => .funcref
  | externref => .externref

def zero : ValueType → Operand
  | .i32 => i32 0
  | .i64 => i64 0
  | .f32 => f32 0
  | .f64 => f64 ⟨0⟩
  | .v128 => v128 0 0
  | .funcref => funcref
  | .externref => externref

end Operand

/-- The sizes of memory, in pages, that an import admits. -/
structure Limits where
  min : Nat
  max : Option Nat
  deriving DecidableEq, Repr

/-- What a module needs of an import. -/
inductive ImportType
  | function (type : FuncType)
  | memory (limits : Limits)
  | global (type : ValueType)
  | table
  deriving DecidableEq, Repr

structure Import where
  interface : String
  name : String
  type : ImportType
  deriving DecidableEq, Repr

/-- What a module exports under a name. -/
inductive Export (σ : Type)
  | function (type : FuncType) (code : List Operand → Code σ (List Operand))
  | global (value : Operand)
  | table
  | memory

/-- A guest before it is started. -/
structure Module where
  State : Type
  start : State
  imports : List Import
  exports : List (String × Export State)

def Export.find? {σ : Type} (exports : List (String × Export σ)) (name : String) :
    Option (Export σ) :=
  (exports.find? (·.1 == name)).map (·.2)

/-- The module without imports and exports. -/
def Module.empty : Module := ⟨Unit, (), [], []⟩

end GuestBridge
