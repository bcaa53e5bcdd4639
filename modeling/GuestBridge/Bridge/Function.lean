import GuestBridge.Bridge.Callback
/-!
# External functions

A function that the host offers to its guest: a name, a signature and a callback. Typed functions
declare their parameters by host types; their callback gets the converted arguments.
-/

namespace GuestBridge

/-- A function that the host offers to its guest. -/
structure ExternalFunction where
  name : String
  signature : Signature
  callback : List Value → Callback Unit

namespace ExternalFunction

/-- A function of the given arguments that returns nothing. -/
def new (name : String) (args : List Tag) (callback : List Value → Callback Unit) :
    ExternalFunction :=
  ⟨name, ⟨args, []⟩, callback⟩

/-- Declares returns. The guest is told of them, but calls that expect results are refused. -/
def withReturns (f : ExternalFunction) (rets : List Tag) : ExternalFunction :=
  { f with signature := { f.signature with rets } }

/-- Converts an argument, or fails the call. -/
def convert (α : Type) [Argument α] (v : Value) : Callback α :=
  match v.to α with
  | .ok content => pure content
  | .error fault => Callback.fail fault.message

def procedure0 (name : String) (body : Callback Unit) : ExternalFunction :=
  new name [] fun _ => body

def procedure1 (α : Type) [Argument α] (name : String) (body : α → Callback Unit) :
    ExternalFunction :=
  new name [Argument.tag α] fun
    | [a] => do body (← convert α a)
    | args => Callback.fail ("expected 1 argument, got " ++ toString args.length)

def procedure2 (α β : Type) [Argument α] [Argument β] (name : String)
    (body : α → β → Callback Unit) : ExternalFunction :=
  new name [Argument.tag α, Argument.tag β] fun
    | [a, b] => do
      let a ← convert α a
      let b ← convert β b
      body a b
    | args => Callback.fail ("expected 2 arguments, got " ++ toString args.length)

end ExternalFunction

end GuestBridge
