import GuestBridge.Proofs.Arena.Blocks
import GuestBridge.Proofs.Nesting.Moments
import GuestBridge.Proofs.Registry.Registration
/-!
# What a history does to the arena

`Scheduler.log` lists, in order, what the operations of a history do to the arena, those of guest
code and of callbacks at every depth included. A record is an effect with the session just after it:
a block was granted and filled (`Effect.granted`), bytes were written into a range of someone's
choice (`Effect.written`), or no byte changed. Between the guest's answer and the filling of a block
nothing else happens, so they are one record.

Stores of guest code are written ranges wherever they happen, in the guest's own allocator too. A
record of an operation that fails changes no byte.

The lists follow the interpreter clause by clause, as the moments of a run do (`Guest.moments`), and
leave every change of the session to it.
-/

namespace GuestBridge

variable {ε σ α : Type}

/-! ## Records -/

/-- What the host puts into a block. -/
inductive Content
  /-- Nothing: slots that were allocated for their own sake. -/
  | vacant (slots : Nat)
  /-- The name of a function, a program or its name, the digits of a number, a text file, or a text of
  a callback's or of the host's own. -/
  | text (text : String)
  /-- The descriptor of a function, with the address of the function's name. -/
  | descriptor (name : Pointer) (signature : Signature)
  deriving DecidableEq

namespace Content

/-- How many slots the host asks for. -/
def slots : Content → Nat
  | .vacant slots => slots
  | .text t => Slots.count t
  | .descriptor _ signature => Descriptor.slots signature

/-- What is written into the block. -/
def bytes : Content → List UInt8
  | .vacant _ => []
  | .text t => Slots.encode t
  | .descriptor name signature => Descriptor.encode name signature

/-- Asks the guest for a block, and fills it. -/
def place (malloc : Int32 → Action Trap σ Int32) : Content → Action BridgeError σ Pointer
  | .vacant slots => Allocation.allocate malloc slots
  | .text t => Allocation.writeText malloc t
  | .descriptor name signature => do
    let p ← Allocation.allocate malloc (Descriptor.slots signature)
    Action.writeMemory p (Descriptor.encode name signature)
    return p

end Content

/-- What an operation does to the arena. -/
inductive Effect
  | granted (p : Pointer) (content : Content)
  | written (range : Block)
  /-- No byte changes. The arena may have grown. -/
  | kept
  deriving DecidableEq

/-- An effect, and the session just after it. -/
structure Record (σ : Type) where
  effect : Effect
  session : Session σ

/-- The record of an operation that has such an effect if it succeeds. -/
def Record.of (effect : α → Effect) : EStateM.Result ε (Session σ) α → Record σ
  | .ok r t => ⟨effect r, t⟩
  | .error _ t => ⟨.kept, t⟩

/-- The records of what comes next, if an operation succeeds. -/
def Record.next (next : α → Session σ → List (Record σ)) :
    EStateM.Result ε (Session σ) α → List (Record σ)
  | .ok r t => next r t
  | .error _ _ => []

/-- The records of placing a content, where `log` lists those of the allocator. An allocation that
is too large does not reach the guest. -/
def Content.placing (malloc : Int32 → Action Trap σ Int32)
    (log : Int32 → Session σ → List (Record σ)) (content : Content) (s : Session σ) :
    List (Record σ) :=
  (if Allocation.maxSlots < content.slots then [] else log (Int32.ofNat content.slots) s) ++
    [.of (.granted · content) (content.place malloc s)]

/-! ## Guest code and callbacks -/

/-- The records of allocations and of callbacks. -/
structure Ledger (σ : Type) where
  malloc : Int32 → Session σ → List (Record σ)
  callback : String → Callback Unit → Session σ → List (Record σ)

/-- What an operation of guest code itself does if it succeeds. -/
def Code.Op.effect : Code.Op σ → Effect
  | .store address bytes => .written ⟨address, bytes.length⟩
  | _ => .kept

namespace Ledger

/-- The records of placing a content inside a host import or a callback. -/
def placing (l : Ledger σ) (re : Reentry σ) (content : Content) (s : Session σ) :
    List (Record σ) :=
  content.placing re.malloc l.malloc s

/-- The records of an external call are those of the callback that it runs. -/
def externalCall (l : Ledger σ) (call : ExternalCall) (s : Session σ) : List (Record σ) :=
  match call.resolve s with
  | .error _ => []
  | .ok (f, args) => l.callback f.name (f.callback args) { s with inExternalCall := true }

/-- What happens inside a host import. -/
def hostCall (l : Ledger σ) (re : Reentry σ) : HostCall → Session σ → List (Record σ)
  | .external call, s => l.externalCall call s
  | .floatToString v digits, s => l.placing re (.text (v.fixed digits)) s
  | .loadTextFile name length, s =>
    match HostCall.requestedName s name length with
    | .error _ => []
    | .ok file =>
      match s.loadText file with
      | (none, _) => []
      | (some text, t) => l.placing re (.text text) t
  | _, _ => []

/-- What happens inside an operation of guest code, and then the operation itself. -/
def guestOp (l : Ledger σ) (re : Reentry σ) (op : Code.Op σ) (s : Session σ) : List (Record σ) :=
  (match op with
    | .host call => l.hostCall re call s
    | _ => []) ++
    [.of (fun _ => op.effect) (Code.answer re op s)]

/-- What happens inside an operation of a callback, and then the operation itself. -/
def callbackOp (l : Ledger σ) (re : Reentry σ) (function : String) (op : Callback.Op)
    (s : Session σ) : List (Record σ) :=
  match op with
  | .allocate slots => l.placing re (.vacant slots) s
  | .allocateText text => l.placing re (.text text) s
  | .write p bytes =>
    [.of (fun _ => .written ⟨p.offset, bytes.length⟩) (Action.writeMemory p bytes s)]
  | .invoke id args =>
    (match s.table.get? id with
      | none => []
      | some f => l.callback function (f.callback args) s) ++
      [⟨.kept, (Callback.answer re function (.invoke id args) s).2⟩]
  | op => [⟨.kept, (Callback.answer re function op s).2⟩]

/-- The records of guest code that is run by `re`, where `l` lists those of what `re` runs. -/
def code (l : Ledger σ) (re : Reentry σ) (code : Code σ α) (s : Session σ) : List (Record σ) :=
  code.visits (l.guestOp re)
    (fun op s =>
      match Code.answer re op s with
      | .ok r t => some (r, t)
      | .error _ _ => none)
    s

/-- The records of a callback that is run by `re`, where `l` lists those of what `re` runs. -/
def body (l : Ledger σ) (re : Reentry σ) (function : String) (body : Callback Unit)
    (s : Session σ) : List (Record σ) :=
  Program.visits (l.callbackOp re function)
    (fun op s => some (Callback.answer re function op s)) body.run s

/-- Nothing is run where no further call fits. -/
def exhausted : Ledger σ := ⟨fun _ _ => [], fun _ _ _ => []⟩

/-- Lists the records of what `Reentry.level` runs. -/
def level (malloc : Int32 → Code σ Int32) : (depth : Nat) → Ledger σ
  | 0 => ⟨fun _ _ => [], exhausted.body .exhausted⟩
  | depth + 1 =>
    ⟨fun slots => (level malloc depth).code (.level malloc depth) (malloc slots),
     (level malloc depth).body (.level malloc depth)⟩

end Ledger

/-! ## Operations of the host -/

namespace Guest

/-- The records of guest code that is called by the host. -/
def log (g : Guest σ) (code : Code σ α) (s : Session σ) : List (Record σ) :=
  (Ledger.level g.entry.malloc callDepth).code g.reentry code s

/-- The host places a content by a call of the allocator. -/
def place (g : Guest σ) (content : Content) : Action BridgeError σ Pointer :=
  content.place fun slots => g.run (g.entry.malloc slots)

def placing (g : Guest σ) (content : Content) (s : Session σ) : List (Record σ) :=
  content.placing (fun slots => g.run (g.entry.malloc slots))
    (fun slots => g.log (g.entry.malloc slots)) s

/-- The name is placed, then the descriptor. -/
def describing (g : Guest σ) (f : ExternalFunction) (s : Session σ) : List (Record σ) :=
  g.placing (.text f.name) s ++
    Record.next (fun name => g.placing (.descriptor name f.signature)) (g.place (.text f.name) s)

/-- The function is described, then the guest is told where its descriptor stands. -/
def registering (g : Guest σ) (f : ExternalFunction) (s : Session σ) : List (Record σ) :=
  g.describing f s ++
    Record.next (fun p => g.log (g.entry.registerFunction p.toInt32)) (g.describe f s)

/-- The records of `registerWhile`. -/
def registeringWhile (g : Guest σ) (goesOn : BridgeError → Bool) :
    List ExternalFunction → Session σ → List (Record σ)
  | [], _ => []
  | f :: rest, s =>
    g.registering f s ++
      match g.register f s with
      | .ok _ t => g.registeringWhile goesOn rest t
      | .error e t => if goesOn e then g.registeringWhile goesOn rest t else []

/-- Both texts are placed, then the guest is told. -/
def settingSource (g : Guest σ) (slot : Int32) (file source : String) (s : Session σ) :
    List (Record σ) :=
  g.placing (.text file) s ++
    Record.next (fun p t =>
      g.placing (.text source) t ++
        Record.next (fun q => g.log (g.entry.setSource slot p.toInt32 q.toInt32))
          (g.place (.text source) t))
      (g.place (.text file) s)

/-- A call of an export runs guest code if its operands have the types that the export takes. -/
def calling (g : Guest σ) (name : String) (operands : List Operand) (s : Session σ) :
    List (Record σ) :=
  match Export.find? g.exports name with
  | some (.function type code) =>
    if operands.map Operand.type = type.params then g.log (code operands) s else []
  | _ => []

end Guest

namespace Scheduler

/-- The records of the single steps that begin in the given sessions. -/
def stepping (c : Scheduler σ) (begun : List (Session σ)) : List (Record σ) :=
  begun.flatMap (c.guest.log c.guest.entry.executeOneStep)

/-- The records of an operation of the host. -/
def operating (c : Scheduler σ) : HostOperation → Session σ → List (Record σ)
  | .register f, s => c.guest.registering f s
  | .registerAll fs, s => c.guest.registeringWhile (fun _ => false) fs s
  | .registerAvailable fs, s => c.guest.registeringWhile (fun e => !e.isFatal) fs s
  | .allocate slots, s => c.guest.placing (.vacant slots) s
  | .allocateText text, s => c.guest.placing (.text text) s
  | .writeMemory p bytes, s =>
    [.of (fun _ => .written ⟨p.offset, bytes.length⟩) (Action.writeMemory p bytes s)]
  | .setSource slot file source, s => c.guest.settingSource slot file source s
  | .executeOneStep, s => c.stepping [s]
  | .call name operands, s => c.guest.calling name operands s
  | .runBatch, s => c.stepping (c.batchCalls s)
  | .runUntil limit, s => c.stepping (c.calls limit (c.started s))
  | .setRunState _, _ | .requestStop _, _ | .start, _ | .halt, _ => []

/-- The records of a sequence of operations. -/
def log (c : Scheduler σ) : List HostOperation → Session σ → List (Record σ)
  | [], _ => []
  | op :: rest, s => c.operating op s ++ c.log rest (c.after op s)

end Scheduler

end GuestBridge
