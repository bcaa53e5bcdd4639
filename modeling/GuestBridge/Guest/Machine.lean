import GuestBridge.Bridge.Allocation
import GuestBridge.Bridge.Call
import GuestBridge.Number.Fixed
/-!
# Running guest code and callbacks

Host and guest call each other: guest code calls an import, the import runs a callback, the callback
allocates, the guest's allocator runs, and so on. `Reentry` is what one side needs of the other, and
`Reentry.level` ties the knot: a level runs code and callbacks by the level below, and at the lowest
level the allocator traps.
-/

namespace GuestBridge

variable {σ : Type}

/-- How a host import gets back into the guest's allocator and into callbacks. -/
structure Reentry (σ : Type) where
  malloc : Int32 → Action Trap σ Int32
  /-- Runs a callback on behalf of the function with the given name. -/
  callback : String → Callback Unit → Action BridgeError σ Unit

namespace Callback

/-- Runs the callback registered under an id. -/
def invoked (re : Reentry σ) (function : String) (id : Int32) (args : List Value) :
    Action BridgeError σ Unit := fun s =>
  match s.table.get? id with
  | none => .error (.unknownFunction id) s
  | some f => re.callback function (f.callback args) s

/-- Answers what a callback asks for. -/
def answer (re : Reentry σ) (function : String) :
    (op : Op) → StateM (Session σ) (Reply op)
  | .print text => modify (·.print text)
  | .allocate slots => (Allocation.allocate re.malloc slots).attempt
  | .allocateText text => (Allocation.writeText re.malloc text).attempt
  | .readText p length => fun s => (s.arena.readText p length, s)
  | .write p bytes => (Action.writeMemory p bytes).attempt
  | .function => pure function
  | .functionCount => fun s => (s.table.size, s)
  | .runState => fun s => (s.runState, s)
  | .vsync => modify (·.emit .vsync)
  | .loadText name => fun s => s.loadText name
  | .requestStop handle => modify (·.requestStop handle)
  | .screen change => modify (·.emit (.screen change))
  | .note n => modify (·.emit (.note n))
  | .invoke id args => (invoked re function id args).attempt

/-- Runs a callback on behalf of the function with the given name. -/
def exec (re : Reentry σ) (function : String) (body : Callback Unit) :
    Action BridgeError σ Unit := fun s =>
  match Program.run (answer re function) body.run s with
  | (.ok (), s') => .ok () s'
  | (.error e, s') => .error e s'

end Callback

namespace HostCall

/-- Fractional digits of a number that the guest prints. -/
def printedPlaces : Int32 := 6

def report (interface function : String) (kind : FailureKind) (detail : String) (s : Session σ) :
    Session σ :=
  s.emit (.failure ⟨interface, function, kind, detail⟩)

/-- An external call: a fatal error traps the guest, any other is reported and becomes the status
that the guest gets. -/
def answerExternal (re : Reentry σ) (call : ExternalCall) : Action Trap σ Int32 := fun s =>
  match call.run re.callback s with
  | .ok () s' => .ok statusOk s'
  | .error e s' =>
    if e.isFatal then .error (.host e) s'
    else
      let kind :=
        match e with
        | .callback .. => FailureKind.callback
        | _ => FailureKind.dispatch
      .ok e.status (report "core" "extFunctionCall" kind e.message s')

/-- The fixed-point text of a number in guest memory. A failed allocation is reported and traps. -/
def answerFloatText (re : Reentry σ) (v : Double) (digits : Int32) :
    Action Trap σ Int32 := fun s =>
  match Allocation.writeText re.malloc (v.fixed digits) s with
  | .ok p s' => .ok p.toInt32 s'
  | .error e s' => .error (.host e) (report "js" "floatToString" .allocation e.message s')

/-- The name of a requested text file, or why it cannot be read. -/
def requestedName (s : Session σ) (name length : Int32) : Except String String :=
  if length < 0 then .error ("negative name length " ++ toString length.toInt)
  else (s.arena.readText (.ofInt32 name) length.toInt.toNat).mapError BridgeError.message

/-- The text of a file in guest memory, or zero when there is none. A name that cannot be read is
reported. -/
def answerTextFile (re : Reentry σ) (name length : Int32) : Action Trap σ Int32 := fun s =>
  match requestedName s name length with
  | .error detail => .ok 0 (report "core" "loadTextFile" .decode detail s)
  | .ok file =>
    match s.loadText file with
    | (none, s') => .ok 0 s'
    | (some text, s') =>
      match Allocation.writeText re.malloc text s' with
      | .ok p s'' => .ok p.toInt32 s''
      | .error e s'' => .error (.host e) s''

def answer (re : Reentry σ) : (call : HostCall) → Action Trap σ call.Reply
  | .putChar code => modify (·.emit (.output code.toUInt32))
  | .printDouble v => modify (·.print (v.fixed printedPlaces))
  | .floatToString v digits => answerFloatText re v digits
  | .external call => answerExternal re call
  | .date => return (← get).environment.date
  | .time => return (← get).environment.time
  | .loadTextFile name length => answerTextFile re name length
  | .unary f x => (pure (f.apply x) : Action Trap σ Double)
  | .binary f x y => (pure (f.apply x y) : Action Trap σ Double)
  | .test t x => (pure (t.apply x) : Action Trap σ Int32)
  | .random => modifyGet (·.draw)

end HostCall

namespace Code

def answer (re : Reentry σ) : (op : Op σ) → Action Trap σ (Reply σ op)
  | .getState => fun s => .ok s.guest s
  | .setState state => fun s => .ok () { s with guest := state }
  | .load address length => fun s =>
    if s.arena.memory.holds address length then .ok (s.arena.memory.read address length) s
    else .error .outOfBounds s
  | .store address bytes => fun s =>
    if s.arena.memory.holds address bytes.length then
      .ok () { s with arena.memory := s.arena.memory.write address bytes }
    else .error .outOfBounds s
  | .memoryPages => fun s => .ok s.arena.pages s
  | .grow pages => fun s =>
    match s.arena.grow? pages with
    | some arena => .ok (some s.arena.pages) { s with arena }
    | none => .ok none s
  | .host call => call.answer re
  | .trap => throw .unreachable

def exec {α : Type} (re : Reentry σ) (code : Code σ α) : Action Trap σ α :=
  Program.run (answer re) code

end Code

namespace Reentry

/-- No further call fits: the allocator traps, as it does where the stack of the guest's engine ends,
and so does a callback that is run by another. The second has no bound outside this interpreter,
which needs one for its recursion. -/
def exhausted : Reentry σ :=
  ⟨fun _ => throw .exhausted, fun _ _ => throw Trap.exhausted.toBridgeError⟩

/-- Runs the allocator and the callbacks of a guest, with at most the given number of calls inside
each other. A callback that guest code calls always runs; what it calls in turn may no longer
fit. -/
def level (malloc : Int32 → Code σ Int32) : (depth : Nat) → Reentry σ
  | 0 =>
    ⟨fun _ => throw .exhausted,
     fun function body s => Callback.exec exhausted function body s⟩
  | depth + 1 =>
    ⟨fun slots s => (malloc slots).exec (level malloc depth) s,
     fun function body s => Callback.exec (level malloc depth) function body s⟩

end Reentry

end GuestBridge
