import GuestBridge.Guest.Image
import GuestBridge.Guest.Interpreter
import GuestBridge.Guest.Validity
import GuestBridge.Json.Basic
/-!
# Described guests

A guest can be given by a JSON description. One with a list of exports is a stub: it imports and
exports what the description lists, and its functions do nothing and return zeros. Any other
description holds options of the small interpreter. Numbers may be given as their texts. A
description gives a module only if the module is valid.
-/

namespace GuestBridge

/-- What describes a guest. -/
inductive Description
  | stub (s : Stub)
  | interpreter (o : Interpreter.Options)

namespace Description

def valueType? (j : Json) : Option ValueType := do
  match ← j.text? with
  | "i32" => some .i32
  | "i64" => some .i64
  | "f32" => some .f32
  | "f64" => some .f64
  | "v128" => some .v128
  | "funcref" => some .funcref
  | "externref" => some .externref
  | _ => none

/-- A list of types; none when it is left out. -/
def valueTypes? (j : Json) (key : String) : Option (List ValueType) :=
  match j.member? key with
  | none => some []
  | some types => do (← types.items?).mapM valueType?

def funcType? (j : Json) : Option FuncType :=
  return ⟨← valueTypes? j "params", ← valueTypes? j "results"⟩

def pages? (j : Json) : Option Nat := do
  let n ← j.number?
  if 0 ≤ n ∧ n < UInt64.size then some n.toNat else none

/-- A limit that may be left out. -/
def optionalPages? (j : Option Json) : Option (Option Nat) :=
  match j with
  | none | some .null => some none
  | some max => (pages? max).map some

def importType? (j : Json) : Option ImportType := do
  match ← (← j.member? "kind").text? with
  | "func" => return .function (← funcType? j)
  | "memory" =>
    let min ← pages? (← j.member? "min")
    let max ← optionalPages? (j.member? "max")
    return .memory ⟨min, max⟩
  | "global" => return .global (← valueType? (← j.member? "type"))
  | "table" => return .table
  | _ => none

def import? (j : Json) : Option Import := do
  let interface ← (← j.member? "module").text?
  let name ← (← j.member? "name").text?
  return ⟨interface, name, ← importType? j⟩

def export? (j : Json) : Option (String × StubExport) := do
  let name ← (← j.member? "name").text?
  match ← (← j.member? "kind").text? with
  | "func" => return (name, .function (← funcType? j))
  | "memory" => return (name, .memory)
  | "global" => return (name, .global (← valueType? (← j.member? "type")))
  | "table" => return (name, .table)
  | _ => none

/-- The items under a key; none when it is left out. -/
def list? {α : Type} (read : Json → Option α) (j : Json) (key : String) : Option (List α) :=
  match j.member? key with
  | none => some []
  | some items => do (← items.items?).mapM read

/-- A description that lists exports. -/
def stub? (j : Json) : Option Stub :=
  return ⟨← list? import? j "imports", ← list? export? j "exports"⟩

/-! ## Options of the interpreter -/

def limits? (j : Json) : Option Limits :=
  match j.member? "memory" with
  | none => some ⟨1, none⟩
  | some limits => do
    match ← limits.items? with
    | [min] => return ⟨← pages? min, none⟩
    | [min, max] => return ⟨← pages? min, ← optionalPages? (some max)⟩
    | _ => none

def rename? (j : Json) : Option (List (String × String)) :=
  match j.member? "rename" with
  | none => some []
  | some names => do
    (← names.members?).mapM fun (role, name) => return (← role, ← name.text?)

def setup? (j : Json) : Option Interpreter.Setup :=
  match j.member? "setup" with
  | none => some .ok
  | some setup => do
    match ← setup.text? with
    | "ok" => some .ok
    | "trap" => some .trap
    | "absent" => some .absent
    | "badsig" => some .badSignature
    | "global" => some .global
    | _ => none

/-- A mutable global starts at 4096. -/
def heapBase? (j : Json) : Option Interpreter.HeapBase :=
  match j.member? "heap_base" with
  | none => some (.i32 2048)
  | some .null => some .absent
  | some base =>
    match base.text? with
    | some "i64" => some .i64
    | some "mutable" => some (.i32 4096)
    | some "func" => some .function
    | _ => base.number?.map fun n => .i32 (.ofInt n)

def start? (j : Json) : Option Interpreter.Start :=
  match j.member? "init" with
  | none => some .ok
  | some start => do
    match ← start.text? with
    | "ok" => some .ok
    | "trap" => some .trap
    | "print" => some .print
    | "call" => some .call
    | _ => none

def options? (j : Json) : Option Interpreter.Options :=
  return ⟨← limits? j, ← rename? j, ← setup? j, ← heapBase? j, ← start? j⟩

/-! ## Guests -/

/-- The guest that a document describes. -/
def ofJson? (j : Json) : Option Description :=
  match j.member? "exports" with
  | some _ => (stub? j).map stub
  | none => (options? j).map interpreter

/-- The described guest. -/
def guest : Description → Module
  | stub s => s.module
  | interpreter o => Interpreter.module o

/-- The module that a description gives, if it is valid. -/
def module? (d : Description) : Option Module :=
  if d.guest.isValid then some d.guest else none

/-- The image as text. The interpreter is too large for its image to be one. -/
def text? : Description → Option String
  | stub s => Image.text? s
  | interpreter _ => none

end Description

end GuestBridge
