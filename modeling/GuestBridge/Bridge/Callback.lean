import GuestBridge.Program
import GuestBridge.Session.Event
/-!
# Callbacks

A callback is a program over the few operations that the host allows while the guest is suspended
in an external call. An operation that can fail replies with its error, which the callback may
handle or pass on. None of them runs the guest, except through its allocator.

A callback has no state of its own: which operations it performs depends on its arguments and on the
replies alone, so it asks for the same in every call that gets the same replies. A closure that keeps
something from one call to the next, as the host allows, is not a callback here; what it keeps has
to be in the session.
-/

namespace GuestBridge

namespace Callback

/-- What a callback may ask for. -/
inductive Op
  | print (text : String)
  | allocate (slots : Nat)
  /-- Copies a text into freshly allocated guest memory. -/
  | allocateText (text : String)
  | readText (p : Pointer) (length : Nat)
  | write (p : Pointer) (bytes : List UInt8)
  /-- The name of the function that the guest called. -/
  | function
  | functionCount
  | runState
  | vsync
  | loadText (name : String)
  | requestStop (handle : StopHandle)
  | screen (change : Screen.Change)
  | note (n : Note)
  /-- Runs the callback registered under an id, for the same call. -/
  | invoke (id : Int32) (args : List Value)

def Reply : Op → Type
  | .print _ | .vsync | .requestStop _ | .screen _ | .note _ => Unit
  | .allocate _ | .allocateText _ => Except BridgeError Pointer
  | .readText _ _ => Except BridgeError String
  | .write _ _ | .invoke _ _ => Except BridgeError Unit
  | .function => String
  | .functionCount => Nat
  | .runState => RunState
  | .loadText _ => Option String

end Callback

/-- Host code that runs while the guest is suspended in an external call. -/
abbrev Callback (α : Type) := ExceptT BridgeError (Program Callback.Reply) α

namespace Callback

def perform (op : Op) : Program Reply (Reply op) := Program.ask op

/-- Performs an operation that cannot fail. -/
def ask (op : Op) : Callback (Reply op) := ExceptT.lift (perform op)

def print (text : String) : Callback Unit := ask (.print text)

def allocate (slots : Nat) : Callback Pointer := ExceptT.mk (perform (.allocate slots))

def allocateText (text : String) : Callback Pointer :=
  ExceptT.mk (perform (.allocateText text))

def readText (p : Pointer) (length : Nat) : Callback String :=
  ExceptT.mk (perform (.readText p length))

def write (p : Pointer) (bytes : List UInt8) : Callback Unit :=
  ExceptT.mk (perform (.write p bytes))

def function : Callback String := ask .function

def functionCount : Callback Nat := ask .functionCount

def runState : Callback RunState := ask .runState

def vsync : Callback Unit := ask .vsync

def loadText (name : String) : Callback (Option String) := ask (.loadText name)

def requestStop (handle : StopHandle) : Callback Unit := ask (.requestStop handle)

def screen (change : Screen.Change) : Callback Unit := ask (.screen change)

def note (n : Note) : Callback Unit := ask (.note n)

def invoke (id : Int32) (args : List Value) : Callback Unit :=
  ExceptT.mk (perform (.invoke id args))

/-- Fails the current call in a way that the guest survives. -/
def fail {α : Type} (message : String) : Callback α := do
  let name ← function
  throw (.callback name message)

end Callback

end GuestBridge
