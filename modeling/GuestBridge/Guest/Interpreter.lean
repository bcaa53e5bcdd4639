import GuestBridge.Guest.Role
import GuestBridge.Wire.Pointer
import GuestBridge.Wire.Word
/-!
# A small interpreter

A guest that uses every host import. Its programs are texts, each character a command; how it
answers the host can be steered through its globals, so that every way in which a guest may behave
can be brought about.
-/

namespace GuestBridge.Interpreter

/-! ## State -/

/-- The 32-bit globals. -/
inductive Register
  | heap | mallocMode | mallocRet | mallocSkip | regMode | regRet | nextId | idLimit | nestId
  | sourceMode | cursor | callId | callArgs | callArgWords | callRets | callRetWords | lastStatus
  | lastDescriptor | lastFile | initialized | setupBase | setupSize | spare
  deriving DecidableEq, Repr

namespace Register

/-- The globals with their names and initial values. -/
def all : List (Register × String × Int32) := [
  (heap, "heap", 1024),
  (mallocMode, "malloc_mode", 0),
  (mallocRet, "malloc_ret", 0),
  (mallocSkip, "malloc_skip", 0),
  (regMode, "reg_mode", 0),
  (regRet, "reg_ret", 0),
  (nextId, "next_id", 1),
  (idLimit, "id_limit", 16),
  (nestId, "nest_id", 1),
  (sourceMode, "source_mode", 0),
  (cursor, "cursor", 0),
  (callId, "call_id", 0),
  (callArgs, "call_args", 0),
  (callArgWords, "call_aw", 0),
  (callRets, "call_rets", 0),
  (callRetWords, "call_rw", 0),
  (lastStatus, "last_status", 0),
  (lastDescriptor, "last_desc", 0),
  (lastFile, "last_file", 0),
  (initialized, "initialized", 0),
  (setupBase, "setup_base", 0),
  (setupSize, "setup_size", 0),
  (spare, "spare", 0)]

end Register

/-- The private state: the globals in the order of `Register.all`, and a double to print. -/
structure State where
  number : Double
  globals : Array Int32

namespace State

/-- Three and a half, and the initial values of the globals. -/
def start : State :=
  ⟨⟨0x400C000000000000⟩, (Register.all.map fun row => row.2.2).toArray⟩

def position (r : Register) : Nat := Register.all.findIdx fun row => row.1 == r

def get (s : State) (r : Register) : Int32 := s.globals.getD (position r) 0

def set (s : State) (r : Register) (v : Int32) : State :=
  { s with globals := s.globals.setIfInBounds (position r) v }

end State

abbrev Run (α : Type) := Code State α

def get (r : Register) : Run Int32 := return (← Code.getState).get r

def set (r : Register) (v : Int32) : Run Unit := Code.modifyState (·.set r v)

/-! ## Host calls -/

def putChar (c : Char) : Run Unit := Code.host (.putChar c.val.toInt32)

def external (id args argWords rets retWords : Int32) : Run Int32 :=
  Code.host (.external ⟨id, args, argWords, rets, retWords⟩)

/-- Calls a function without arguments and keeps the status, which is assigned only when the call
returns. -/
def callById (id : Int32) : Run Unit := do
  set .lastStatus (← external id 0 0 0 0)

/-- Calls the function that is set for nested calls. -/
def nest : Run Unit := do callById (← get .nestId)

/-! ## Entry points -/

/-- Takes the next block, aligned to eight bytes, or none when the memory ends before it does. -/
def bump (slots : Int32) : Run Int32 := do
  let block ← get .heap
  let stop := (block + (slots <<< 2) + 7) &&& -8
  let bytes := UInt32.ofNat ((← Code.memoryPages) * 65536)
  if stop.toUInt32 > bytes then return 0
  set .heap stop
  return block

def malloc (slots : Int32) : Run Int32 := do
  let skip ← get .mallocSkip
  if skip ≠ 0 then
    set .mallocSkip (skip - 1)
    bump slots
  else
    let mode ← get .mallocMode
    if mode = 1 then get .mallocRet
    else if mode = 2 then Code.trap
    else
      if mode = 3 then nest
      bump slots

def setupHeap (base size : Int32) : Run Unit := do
  set .setupBase base
  set .setupSize size

def register (descriptor : Int32) : Run Int32 := do
  set .lastDescriptor descriptor
  let mode ← get .regMode
  if mode = 1 then get .regRet
  else if mode = 2 then Code.trap
  else
    if mode = 3 then nest
    let id ← get .nextId
    if id.toUInt32 ≥ (← get .idLimit).toUInt32 then return 0
    set .nextId (id + 1)
    return id

def setSource (slot file source : Int32) : Run Int32 := do
  set .lastFile file
  let mode ← get .sourceMode
  if mode = 1 then Code.trap
  else
    if mode = 3 then nest
    if slot.toUInt32 > 3 then
      putChar 'E'
      return 0
    set .cursor source
    return if mode = 2 then -1 else 1

/-! ## Steps -/

def load32 (address : Int32) : Run Int32 := do
  let bytes ← Code.load address.toUInt32.toNat 4
  return (UInt32.ofNat (Word.ofBytes bytes)).toInt32

/-- How many slots a 32-bit address can tell apart. -/
def slotCount : Nat := UInt32.size / 4

/-- Scans a file name from slot `length` on; gives its length and the slot that ends it. There are
`slotCount` slots. -/
def scanName (start : Int32) : (fuel : Nat) → (length : Int32) → Run (Int32 × Int32)
  | 0, length => return (length, 0)
  | fuel + 1, length => do
    let c ← load32 (start + 4 * length)
    if c = 0 ∨ c = '>'.val.toInt32 then return (length, c)
    else scanName start fuel (length + 1)

/-- Goes on in the text file named up to the next `>`, or behind the name when there is none. -/
def includeFile : Run Unit := do
  let start ← get .cursor
  let (length, last) ← scanName start slotCount 0
  let text : Int32 ← Code.host (.loadTextFile start length)
  if text ≠ 0 then set .cursor text
  else
    putChar '0'
    set .cursor ((← get .cursor) + 4 * (length + if last ≠ 0 then 1 else 0))

/-- Calls the function that is set, with the frames that are set. -/
def callAsSet : Run Unit := do
  let status ← external (← get .callId) (← get .callArgs) (← get .callArgWords)
    (← get .callRets) (← get .callRetWords)
  set .lastStatus status

/-- The old size in pages, or -1 when the memory could not grow. -/
def growBy (pages : Int32) : Run Int32 := do
  match ← Code.grow pages.toUInt32.toNat with
  | some old => return Int32.ofNat old
  | none => return -1

/-- Runs one command and tells whether there may be more: 0 at the end, -1 and 1 otherwise. -/
def command (c : Int32) : Run Int32 :=
  let is (d : Char) : Bool := c == d.val.toInt32
  let more (act : Run Unit) : Run Int32 := do
    act
    return 1
  if is '!' then more (callById 1)
  else if is '?' then more (callById 99)
  else if is '@' then more callAsSet
  else if is '^' then Code.trap
  else if is '$' then more do Code.host (.printDouble (← Code.getState).number)
  else if is '~' then return -1
  else if is '%' then return 0
  else if is '&' then more do putChar (if (← growBy 1) = -1 then 'N' else 'Y')
  else if is '<' then more includeFile
  else more (Code.host (.putChar c))

def step : Run Int32 := do
  let here ← get .cursor
  if here = 0 then return 0
  let c ← load32 here
  if c = 0 then return 0
  set .cursor (here + 4)
  command c

/-! ## Exports -/

/-- What the initializer does first. -/
inductive Start
  | ok | trap | print | call
  deriving DecidableEq, Repr

def initializer (start : Start) : Run Unit := do
  match start with
  | .ok => pure ()
  | .trap => Code.trap
  | .print => putChar 'I'
  | .call => nest
  set .initialized 1

/-- What is exported as the heap setup. -/
inductive Setup
  | ok | trap | absent | badSignature | global
  deriving DecidableEq, Repr

/-- What is exported as the address of the heap. -/
inductive HeapBase
  | i32 (address : Int32)
  | i64
  | function
  | absent
  deriving DecidableEq, Repr

def i32 (v : Int32) : List Operand := [.i32 v]

def export0 (results : List ValueType) (f : Run (List Operand)) : Export State :=
  .function ⟨[], results⟩ fun
    | [] => f
    | _ => Code.trap

def exportI32 (count : Nat) (results : List ValueType)
    (f : List Int32 → Run (List Operand)) : Export State :=
  .function ⟨List.replicate count .i32, results⟩ fun operands =>
    match operands.mapM fun o => match o with | .i32 v => some v | _ => none with
    | some numbers => f numbers
    | none => Code.trap

def exportF64 (count : Nat) (results : List ValueType)
    (f : List Double → Run (List Operand)) : Export State :=
  .function ⟨List.replicate count .f64, results⟩ fun operands =>
    match operands.mapM fun o => match o with | .f64 v => some v | _ => none with
    | some numbers => f numbers
    | none => Code.trap

def exportUnary (f : Unary) : Export State := exportF64 1 [.f64] fun
  | [x] => return [.f64 (← Code.host (.unary f x))]
  | _ => Code.trap

def exportBinary (f : Binary) : Export State := exportF64 2 [.f64] fun
  | [x, y] => return [.f64 (← Code.host (.binary f x y))]
  | _ => Code.trap

def exportTest (t : Test) : Export State := exportF64 1 [.i32] fun
  | [x] => return i32 (← Code.host (.test t x))
  | _ => Code.trap

/-- The numeric imports, exported again. -/
def numericExports : List (String × Export State) :=
  (Unary.all.map fun f => ("math_" ++ f.name, exportUnary f)) ++
  [("math_random", export0 [.f64] do return [.f64 (← Code.host .random)])] ++
  (Binary.all.map fun f => ("math_" ++ f.name, exportBinary f)) ++
  (Test.all.map fun t => ("math_" ++ t.name, exportTest t))

/-- A reader and a writer of each global. -/
def globalExports : List (String × Export State) :=
  Register.all.flatMap fun (r, name, _) => [
    ("get_" ++ name, export0 [.i32] do return i32 (← get r)),
    ("set_" ++ name, exportI32 1 [] fun
      | [v] => do
        set r v
        return []
      | _ => Code.trap)]

/-- The other imports, exported again, and a few commands. -/
def toolExports : List (String × Export State) := [
  ("call_ext", exportI32 5 [.i32] fun
    | [id, args, argWords, rets, retWords] => do
      return i32 (← external id args argWords rets retWords)
    | _ => Code.trap),
  ("putchar", exportI32 1 [] fun
    | [c] => do
      Code.host (.putChar c)
      return []
    | _ => Code.trap),
  ("print_double", exportF64 1 [] fun
    | [v] => do
      Code.host (.printDouble v)
      return []
    | _ => Code.trap),
  ("float_to_string", .function ⟨[.f64, .i32], [.i32]⟩ fun
    | [.f64 v, .i32 digits] => return i32 (← Code.host (.floatToString v digits))
    | _ => Code.trap),
  ("load_text", exportI32 2 [.i32] fun
    | [name, length] => return i32 (← Code.host (.loadTextFile name length))
    | _ => Code.trap),
  ("date", export0 [.i32] do return i32 (← Code.host .date)),
  ("time", export0 [.i32] do return i32 (← Code.host .time)),
  ("grow", exportI32 1 [.i32] fun
    | [pages] => return i32 (← growBy pages)
    | _ => Code.trap),
  ("trap", export0 [] Code.trap),
  ("set_dval", exportF64 1 [] fun
    | [v] => do
      Code.modifyState fun s => { s with number := v }
      return []
    | _ => Code.trap),
  ("heap_setup", export0 [.i32, .i32] do
    return i32 (← get .setupBase) ++ i32 (← get .setupSize))]

/-- How an instance of the interpreter is built. -/
structure Options where
  /-- The limits of the imported memory. -/
  memory : Limits
  /-- Other names for the exports of roles and of the address of the heap. -/
  rename : List (String × String)
  setup : Setup
  heapBase : HeapBase
  start : Start

/-- The name under which a role is exported. -/
def Options.nameOf (o : Options) (role usual : String) : String :=
  ((o.rename.find? (·.1 == role)).map (·.2)).getD usual

/-- The export of the heap setup, if there is one. -/
def setupExport (o : Options) : List (String × Export State) :=
  let name := o.nameOf "setup_heap" "_Z9setupHeapPvm"
  match o.setup with
  | .ok => [(name, exportI32 2 [] fun
      | [base, size] => do
        setupHeap base size
        return []
      | _ => Code.trap)]
  | .trap => [(name, exportI32 2 [] fun _ => Code.trap)]
  | .absent => []
  | .badSignature => [(name, exportI32 1 [] fun _ => return [])]
  | .global => [(name, .global (.i32 0))]

/-- The export of the address of the heap, if there is one. -/
def heapBaseExport (o : Options) : List (String × Export State) :=
  let name := o.nameOf "heap_base" "__heap_base"
  match o.heapBase with
  | .i32 address => [(name, .global (.i32 address))]
  | .i64 => [(name, .global (.i64 2048))]
  | .function => [(name, export0 [] (return []))]
  | .absent => []

def entryExports (o : Options) : List (String × Export State) := [
  (o.nameOf "malloc" "NekoBasicMalloc", exportI32 1 [.i32] fun
    | [slots] => return i32 (← malloc slots)
    | _ => Code.trap),
  (o.nameOf "initialize" "NekoBasicInitialize", export0 [] do
    initializer o.start
    return []),
  (o.nameOf "set_source" "NekoBasicSetSource", exportI32 3 [.i32] fun
    | [slot, file, source] => return i32 (← setSource slot file source)
    | _ => Code.trap),
  (o.nameOf "execute_one_step" "NekoBasicExecuteOneStep", export0 [.i32] do
    return i32 (← step)),
  (o.nameOf "register_function" "NekoBasicRegisterExtFunction", exportI32 1 [.i32] fun
    | [descriptor] => return i32 (← register descriptor)
    | _ => Code.trap)]

/-- The imports of everything that the host offers. -/
def imports (memory : Limits) : List Import :=
  let function (interface name : String) (params results : List ValueType) : Import :=
    ⟨interface, name, .function ⟨params, results⟩⟩
  [ ⟨"env", "memory", .memory memory⟩,
    function "js" "putchar" [.i32] [],
    function "js" "printDouble" [.f64] [],
    function "js" "floatToString" [.f64, .i32] [.i32],
    function "core" "extFunctionCall" [.i32, .i32, .i32, .i32, .i32] [.i32],
    function "core" "loadTextFile" [.i32, .i32] [.i32],
    function "core" "date" [] [.i32],
    function "core" "time" [] [.i32] ] ++
  (Unary.all.map fun f => function "Math" f.name [.f64] [.f64]) ++
  [ function "Math" "random" [] [.f64] ] ++
  (Binary.all.map fun f => function "Math" f.name [.f64, .f64] [.f64]) ++
  (Test.all.map fun t => function "Math" t.name [.f64] [.i32])

def module (o : Options) : Module where
  State := State
  start := .start
  imports := imports o.memory
  exports := entryExports o ++ setupExport o ++ heapBaseExport o ++ toolExports ++
    numericExports ++ globalExports

end GuestBridge.Interpreter
