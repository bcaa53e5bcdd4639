import GuestBridge.Guest.Module
import GuestBridge.Settings
/-!
# Entry points

The functions that the host calls in its guest, each with its type and with the name that the
settings give it.
-/

namespace GuestBridge

/-- A function that the host calls in its guest. -/
inductive Role
  | malloc | initializer | setSource | executeOneStep | registerFunction | setupHeap
  deriving DecidableEq, Repr

namespace Role

def name : Role → String
  | malloc => "malloc"
  | initializer => "initialize"
  | setSource => "set_source"
  | executeOneStep => "execute_one_step"
  | registerFunction => "register_function"
  | setupHeap => "setup_heap"

def type : Role → FuncType
  | malloc => ⟨[.i32], [.i32]⟩
  | initializer => ⟨[], []⟩
  | setSource => ⟨[.i32, .i32, .i32], [.i32]⟩
  | executeOneStep => ⟨[], [.i32]⟩
  | registerFunction => ⟨[.i32], [.i32]⟩
  | setupHeap => ⟨[.i32, .i32], []⟩

/-- The roles that every guest must fill, in the order in which they are looked up. -/
def required : List Role := [malloc, initializer, setSource, executeOneStep, registerFunction]

def isRequired (r : Role) : Bool := r != setupHeap

/-- The name under which the settings expect a role to be exported. -/
def exportName? (names : ExportNames) : Role → Option String
  | malloc => some names.malloc
  | initializer => some names.initializer
  | setSource => some names.setSource
  | executeOneStep => some names.executeOneStep
  | registerFunction => some names.registerFunction
  | setupHeap => names.setupHeap

end Role

end GuestBridge
