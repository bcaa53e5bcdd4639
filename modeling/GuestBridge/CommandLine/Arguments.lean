import GuestBridge.Text.Blank
import GuestBridge.Text.Numeral
/-!
# Arguments of the command line

The first argument that is no option names the command; each command has its options and its number
of operands. An option is written `--name value` or `--name=value`, before or after the operands,
and at most once; a value that starts with a hyphen must follow an equals sign. The verbosity flag
is known everywhere, may be repeated, and says nothing about the result.
-/

namespace GuestBridge.CommandLine

structure RunRequest where
  guest : String
  program : String
  slot : Int32
  config : Option String
  heapPages : Option UInt32
  stepsPerBatch : Option UInt64
  frameIntervalMs : Option UInt64
  maxBatches : Option Nat
  screen : Option (Nat × Nat)
  deriving DecidableEq, Repr

/-- A command with its options and operands. -/
inductive Request
  | config (config : Option String)
  | inspect (guest : String) (config : Option String) (json : Bool)
  | run (request : RunRequest)
  deriving DecidableEq, Repr

/-! ## Options and operands -/

/-- What a command takes. -/
structure Shape where
  /-- Options with a value. -/
  valued : List String
  /-- Options without a value. -/
  flags : List String
  operands : Nat

/-- The options, as written, and the operands of a command. -/
structure Split where
  options : List (String × Option String)
  operands : List String

namespace Split

def option (key : String) (value : Option String) (s : Split) : Split :=
  { s with options := (key, value) :: s.options }

def operand (o : String) (s : Split) : Split := { s with operands := o :: s.operands }

def value? (s : Split) (key : String) : Option String :=
  (s.options.find? (·.1 == key)).bind (·.2)

def has (s : Split) (key : String) : Bool := s.options.any (·.1 == key)

/-- No option was given twice. -/
def isUnique (s : Split) : Bool :=
  let keys := s.options.map (·.1)
  keys.eraseDups.length == keys.length

end Split

/-- The argument is written like an option; a lone hyphen is an operand. -/
def looksLikeOption (a : String) : Bool :=
  match a.toList with
  | '-' :: _ :: _ => true
  | _ => false

/-- A cluster of short flags: the letter of the verbosity flag, any number of times. -/
def isVerbosity (a : String) : Bool :=
  a == "--verbose" ||
    match a.toList with
    | '-' :: letters => !letters.isEmpty && letters.all (· == 'v')
    | _ => false

/-- The name of a long option, and the value behind its equals sign. -/
def longOption? (a : String) : Option (String × Option String) :=
  match a.toList with
  | '-' :: '-' :: body =>
    let key := body.takeWhile (· != '=')
    match body.drop key.length with
    | [] => some (String.ofList key, none)
    | _ :: value => some (String.ofList key, some (String.ofList value))
  | _ => none

/-- Splits the arguments of a command. After `--` everything is an operand. -/
def split? (shape : Shape) : List String → Option Split
  | [] => some ⟨[], []⟩
  | "--" :: rest => some ⟨[], rest⟩
  | a :: rest =>
    if isVerbosity a then split? shape rest
    else if looksLikeOption a then
      match longOption? a with
      | none => none
      | some (key, given) =>
        if shape.flags.contains key then
          if given.isSome then none else (split? shape rest).map (·.option key none)
        else if shape.valued.contains key then
          match given with
          | some value => (split? shape rest).map (·.option key (some value))
          | none =>
            match rest with
            | [] => none
            | value :: rest =>
              if looksLikeOption value then none
              else (split? shape rest).map (·.option key (some value))
        else none
    else (split? shape rest).map (·.operand a)

/-- Splits the arguments of a command and checks how many operands there are. -/
def arguments? (shape : Shape) (args : List String) : Option Split := do
  let s ← split? shape args
  if s.isUnique && s.operands.length == shape.operands then some s else none

/-! ## Values -/

/-- Reads the value of an option that may be left out. -/
def optional? {α : Type} (read : String → Option α) (s : Split) (key : String) :
    Option (Option α) :=
  match s.value? key with
  | none => some none
  | some value => (read value).map some

/-- A path is any text but the empty one. -/
def path? (value : String) : Option String := if value.isEmpty then none else some value

def int32? (value : String) : Option Int32 := do
  let n ← Text.integer? value.toList
  if (Int32.ofInt n).toInt = n then some (Int32.ofInt n) else none

/-- An unsigned 32-bit number. It is read as a signed one first, so zero may have a minus sign. -/
def uint32? (value : String) : Option UInt32 := do
  let n ← Text.integer? value.toList
  if 0 ≤ n ∧ n < UInt32.size then some (UInt32.ofNat n.toNat) else none

def natural? (value : List Char) : Option Nat := do
  let n ← Text.natural? value
  if n < UInt64.size then some n else none

def uint64? (value : String) : Option UInt64 := (natural? value.toList).map UInt64.ofNat

/-- One dimension of a screen: a positive number, blanks around it allowed. -/
def dimension? (cs : List Char) : Option Nat := do
  let n ← natural? (Text.trim cs)
  if 0 < n then some n else none

/-- Width and height with the letter x, of either case, between them. -/
def screen? (value : String) : Option (Nat × Nat) :=
  let cs := value.toList
  let width := cs.takeWhile fun c => c != 'x' && c != 'X'
  match cs.drop width.length with
  | [] => none
  | _ :: height => do return (← dimension? width, ← dimension? height)

/-! ## Commands -/

def configRequest? (args : List String) : Option Request := do
  let s ← arguments? ⟨["config"], [], 0⟩ args
  return .config (← optional? path? s "config")

def inspectRequest? (args : List String) : Option Request := do
  let s ← arguments? ⟨["config"], ["json"], 1⟩ args
  match s.operands with
  | [guest] =>
    return .inspect (← path? guest) (← optional? path? s "config") (s.has "json")
  | _ => none

def runOptions : List String :=
  ["slot", "config", "heap-pages", "steps-per-batch", "frame-interval-ms", "max-batches", "screen"]

def runRequest? (args : List String) : Option Request := do
  let s ← arguments? ⟨runOptions, [], 2⟩ args
  match s.operands with
  | [guest, program] =>
    let guest ← path? guest
    let program ← path? program
    let slot ← optional? int32? s "slot"
    let config ← optional? path? s "config"
    let heapPages ← optional? uint32? s "heap-pages"
    let stepsPerBatch ← optional? uint64? s "steps-per-batch"
    let frameIntervalMs ← optional? uint64? s "frame-interval-ms"
    let maxBatches ← optional? (fun value => natural? value.toList) s "max-batches"
    let screen ← optional? screen? s "screen"
    return .run ⟨guest, program, slot.getD 0, config, heapPages, stepsPerBatch, frameIntervalMs,
      maxBatches, screen⟩
  | _ => none

/-- The request that arguments make; none when they are refused. -/
def request? : List String → Option Request
  | [] => none
  | a :: rest =>
    if isVerbosity a then request? rest
    else
      match a with
      | "config" => configRequest? rest
      | "inspect" => inspectRequest? rest
      | "run" => runRequest? rest
      | _ => none

end GuestBridge.CommandLine
