import GuestBridge.Number.Elementary
import GuestBridge.Program
/-!
# Guest code

Code of a guest is a program over what its machine and its host offer: private state, loads and
stores in the shared memory, and calls of host imports. It can trap at any point; what it changed
before stays changed.
-/

namespace GuestBridge

/-- The numbers that a guest passes to call an external function: its id, and where the argument and
return frames are and how many words they have. -/
structure ExternalCall where
  id : Int32
  args : Int32
  argWords : Int32
  rets : Int32
  retWords : Int32
  deriving DecidableEq, Repr

inductive HostCall
  | putChar (code : Int32)
  | printDouble (v : Double)
  | floatToString (v : Double) (digits : Int32)
  | external (call : ExternalCall)
  | date
  | time
  | loadTextFile (name length : Int32)
  | unary (f : Unary) (x : Double)
  | binary (f : Binary) (x y : Double)
  | test (t : Test) (x : Double)
  | random

def HostCall.Reply : HostCall → Type
  | putChar _ | printDouble _ => Unit
  | floatToString _ _ | external _ | date | time | loadTextFile _ _ | test _ _ => Int32
  | unary _ _ | binary _ _ _ | random => Double

namespace Code

/-- What guest code may do. -/
inductive Op (σ : Type)
  | getState
  | setState (state : σ)
  | load (address length : Nat)
  | store (address : Nat) (bytes : List UInt8)
  | memoryPages
  | grow (pages : Nat)
  | host (call : HostCall)
  | trap

/-- What each operation replies. Nothing follows a trap. -/
def Reply (σ : Type) : Op σ → Type
  | .getState => σ
  | .setState _ | .store _ _ => Unit
  | .load _ _ => List UInt8
  | .memoryPages => Nat
  | .grow _ => Option Nat
  | .host call => call.Reply
  | .trap => Empty

end Code

/-- Guest code with private state `σ`. -/
abbrev Code (σ α : Type) := Program (Code.Reply σ) α

namespace Code

variable {σ α : Type}

def perform (op : Op σ) : Program (Reply σ) (Reply σ op) := Program.ask op

def getState : Code σ σ := perform .getState

def setState (state : σ) : Code σ Unit := perform (.setState state)

def modifyState (f : σ → σ) : Code σ Unit := do setState (f (← getState))

def load (address length : Nat) : Code σ (List UInt8) := perform (.load address length)

def memoryPages : Code σ Nat := perform .memoryPages

/-- The old number of pages, or nothing when the memory could not grow. -/
def grow (pages : Nat) : Code σ (Option Nat) := perform (.grow pages)

def host (call : HostCall) : Code σ call.Reply := perform (.host call)

def trap : Code σ α := Program.perform Op.trap Empty.elim

end Code

end GuestBridge
