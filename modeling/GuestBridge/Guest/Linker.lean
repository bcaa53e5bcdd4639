import GuestBridge.Guest.Module
/-!
# Linking

The host offers definitions by interface and name. A pair is defined once: a second definition is
refused and the first stays, as do all definitions made before. A module links when each of its
imports is defined with the type that it needs.
-/

namespace GuestBridge

/-- What the host offers under one interface and name. -/
inductive Provision
  | function (type : FuncType)
  /-- A memory of `pages` pages that may grow to `maxPages`. -/
  | memory (pages maxPages : Nat)
  deriving DecidableEq, Repr

structure Definition where
  interface : String
  name : String
  item : Provision
  deriving DecidableEq, Repr

inductive LinkerError
  | functionRegistration (reason : String)
  | memory (reason : String)
  deriving DecidableEq, Repr

def LinkerError.message : LinkerError → String
  | functionRegistration reason => "Function registration failed: " ++ reason
  | memory reason => "Memory error: " ++ reason

/-- The definitions of a host, in the order in which they were made. -/
structure Linker where
  definitions : List Definition
  deriving DecidableEq, Repr

namespace Linker

def empty : Linker := ⟨[]⟩

def find? (l : Linker) (interface name : String) : Option Provision :=
  (l.definitions.find? fun d => d.interface == interface && d.name == name).map (·.item)

def duplicate (d : Definition) : LinkerError :=
  let reason := d.interface ++ "." ++ d.name ++ " is already defined"
  match d.item with
  | .function _ => .functionRegistration reason
  | .memory _ _ => .memory reason

def define (d : Definition) : EStateM LinkerError Linker Unit := fun l =>
  match l.find? d.interface d.name with
  | some _ => .error (duplicate d) l
  | none => .ok () ⟨l.definitions ++ [d]⟩

/-- Adds a function to an interface, whose name must not be empty. -/
def defineFunction (interface name : String) (type : FuncType) :
    EStateM LinkerError Linker Unit :=
  if interface.isEmpty then throw (.functionRegistration "interface name must not be empty")
  else define ⟨interface, name, .function type⟩

/-- Adds definitions in order, up to the first that is refused. -/
def defineAll : List Definition → EStateM LinkerError Linker Unit
  | [] => pure ()
  | d :: rest => do
    define d
    defineAll rest

/-- The functions of the standard interfaces, in linking order. -/
def standardFunctions : List Definition :=
  let unary : FuncType := ⟨[.f64], [.f64]⟩
  let binary : FuncType := ⟨[.f64, .f64], [.f64]⟩
  let function (interface name : String) (params results : List ValueType) : Definition :=
    ⟨interface, name, .function ⟨params, results⟩⟩
  [ function "js" "putchar" [.i32] [],
    function "js" "printDouble" [.f64] [],
    function "js" "floatToString" [.f64, .i32] [.i32],
    function "core" "extFunctionCall" [.i32, .i32, .i32, .i32, .i32] [.i32],
    function "core" "date" [] [.i32],
    function "core" "time" [] [.i32],
    function "core" "loadTextFile" [.i32, .i32] [.i32] ] ++
  (Unary.all.map fun f => ⟨"Math", f.name, .function unary⟩) ++
  [ function "Math" "random" [] [.f64] ] ++
  (Binary.all.map fun f => ⟨"Math", f.name, .function binary⟩) ++
  (Test.all.map fun t => function "Math" t.name [.f64] [.i32])

/-- Everything that the host offers by itself: an arena of `pages` pages and the functions. -/
def standard (pages : Nat) : List Definition :=
  ⟨"env", "memory", .memory pages (pages + 1)⟩ :: standardFunctions

/-! ## Resolving imports -/

/-- An offered item has the type that an import needs. -/
def satisfies : Provision → ImportType → Bool
  | .function offered, .function needed => offered == needed
  | .memory pages maxPages, .memory limits =>
    limits.min ≤ pages && limits.max.all (maxPages ≤ ·)
  | _, _ => false

/-- The import is defined under its interface and name, with whatever type. -/
def offers (l : Linker) (i : Import) : Bool := (l.find? i.interface i.name).isSome

/-- The import is defined with the type that it needs. -/
def resolves (l : Linker) (i : Import) : Bool :=
  match l.find? i.interface i.name with
  | some item => satisfies item i.type
  | none => false

end Linker

end GuestBridge
