import GuestBridge.Json.Parser
import GuestBridge.Json.Printer
/-!
# Settings of a session

The size of the arena, the pacing of the scheduler, the banner, and the names under which the guest
exports its entry points. Every field has a default, so an empty JSON object gives valid settings.
Settings are read first and checked afterwards: a text that gives a field a value of the wrong kind
is malformed, one that gives it a value outside its range is invalid.
-/

namespace GuestBridge

/-- The names of the guest's entry points. -/
structure ExportNames where
  malloc : String
  initializer : String
  setSource : String
  executeOneStep : String
  registerFunction : String
  /-- Announces the heap to the guest, if configured. -/
  setupHeap : Option String
  /-- The global with the address of the heap. -/
  heapBase : String
  deriving DecidableEq, Repr

/-- The settings of a session. -/
structure Settings where
  heapPages : UInt32
  stepsPerBatch : UInt64
  /-- The pause between batches in milliseconds. -/
  frameIntervalMs : UInt64
  /-- Printed when the session starts. -/
  banner : Option String
  exports : ExportNames
  deriving DecidableEq, Repr

inductive SettingsError
  | unreadable (path reason : String)
  | malformed (reason : String)
  | invalid (reason : String)
  deriving DecidableEq, Repr

def SettingsError.message : SettingsError → String
  | unreadable path reason => "Failed to read " ++ path ++ ": " ++ reason
  | malformed reason => "Invalid config JSON: " ++ reason
  | invalid reason => "Invalid config: " ++ reason

/-- The names that the interpreter's own build gives its entry points. -/
def ExportNames.default : ExportNames where
  malloc := "NekoBasicMalloc"
  initializer := "NekoBasicInitialize"
  setSource := "NekoBasicSetSource"
  executeOneStep := "NekoBasicExecuteOneStep"
  registerFunction := "NekoBasicRegisterExtFunction"
  setupHeap := some "_Z9setupHeapPvm"
  heapBase := "__heap_base"

namespace Settings

def default : Settings where
  heapPages := 4096
  stepsPerBatch := 400
  frameIntervalMs := 16
  banner := some "Neko Basic Version 0.00.00\nOK\n"
  exports := .default

/-- One more page than an arena may have: its memory has 32-bit addresses. -/
def pageLimit : Nat := 65536

/-- The arena has at least one page and leaves one page of headroom; a batch has a step. -/
def check (s : Settings) : Except SettingsError Unit :=
  if s.heapPages = 0 ∨ pageLimit ≤ s.heapPages.toNat then
    .error (.invalid ("heap_pages must be between 1 and " ++ toString (pageLimit - 1) ++
      ", got " ++ toString s.heapPages.toNat))
  else if s.stepsPerBatch = 0 then .error (.invalid "steps_per_batch must be positive")
  else .ok ()

/-! ## Reading -/

/-- The value of a field that may be left out. -/
def field {α : Type} (read : Json → Option α) (given : Option Json) (default : α) :
    Option α :=
  match given with
  | none => some default
  | some j => read j

def exportKeys : List String :=
  ["malloc", "initialize", "set_source", "execute_one_step", "register_function", "setup_heap",
   "heap_base"]

def readExports (j : Json) : Option ExportNames :=
  match j.fields? exportKeys with
  | some [malloc, initializer, setSource, executeOneStep, registerFunction, setupHeap,
      heapBase] => do
    let base := ExportNames.default
    return {
      malloc := ← field Json.text? malloc base.malloc
      initializer := ← field Json.text? initializer base.initializer
      setSource := ← field Json.text? setSource base.setSource
      executeOneStep := ← field Json.text? executeOneStep base.executeOneStep
      registerFunction := ← field Json.text? registerFunction base.registerFunction
      setupHeap := ← field Json.textOrNull? setupHeap base.setupHeap
      heapBase := ← field Json.text? heapBase base.heapBase }
  | _ => none

def keys : List String :=
  ["heap_pages", "steps_per_batch", "frame_interval_ms", "banner", "exports"]

def readUInt32 (j : Json) : Option UInt32 := (j.below? UInt32.size).map UInt32.ofNat

def readUInt64 (j : Json) : Option UInt64 := (j.below? UInt64.size).map UInt64.ofNat

/-- The settings that a document describes. -/
def read (j : Json) : Option Settings :=
  match j.fields? keys with
  | some [heapPages, stepsPerBatch, frameIntervalMs, banner, exports] => do
    return {
      heapPages := ← field readUInt32 heapPages default.heapPages
      stepsPerBatch := ← field readUInt64 stepsPerBatch default.stepsPerBatch
      frameIntervalMs := ← field readUInt64 frameIntervalMs default.frameIntervalMs
      banner := ← field Json.textOrNull? banner default.banner
      exports := ← field readExports exports default.exports }
  | _ => none

/-- Reads settings from a text and checks them. -/
def ofText (text : String) : Except SettingsError Settings :=
  match Json.parse? text with
  | none => .error (.malformed "not a JSON document")
  | some j =>
    match read j with
    | none => .error (.malformed "a field has a value of the wrong kind")
    | some s => do
      s.check
      return s

/-! ## Writing -/

def ofTextOrNone (t : Option String) : Json :=
  match t with
  | none => .null
  | some text => .ofString text

def exportsDocument (e : ExportNames) : Json :=
  .ofMembers [
    ("malloc", .ofString e.malloc),
    ("initialize", .ofString e.initializer),
    ("set_source", .ofString e.setSource),
    ("execute_one_step", .ofString e.executeOneStep),
    ("register_function", .ofString e.registerFunction),
    ("setup_heap", ofTextOrNone e.setupHeap),
    ("heap_base", .ofString e.heapBase)]

def document (s : Settings) : Json :=
  .ofMembers [
    ("heap_pages", .ofNat s.heapPages.toNat),
    ("steps_per_batch", .ofNat s.stepsPerBatch.toNat),
    ("frame_interval_ms", .ofNat s.frameIntervalMs.toNat),
    ("banner", ofTextOrNone s.banner),
    ("exports", exportsDocument s.exports)]

/-- The settings as text, every field on its line. -/
def text (s : Settings) : String := s.document.pretty

end Settings

end GuestBridge
