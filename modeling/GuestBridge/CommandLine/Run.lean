import GuestBridge.Bridge.Registration
import GuestBridge.CommandLine.Arguments
import GuestBridge.CommandLine.Files
import GuestBridge.Compatibility
import GuestBridge.Schedule
import GuestBridge.Screen.Grid
import GuestBridge.Screen.Statements
/-!
# Commands

What each command prints and how it ends, as a function of its arguments and the files. A running
program's output is buffered; the buffer is written when the session presents its output, and once
more at the end of a successful run. On a text screen only the final picture is printed.
-/

namespace GuestBridge.CommandLine

inductive CommandError
  | settings (e : SettingsError)
  | unreadable (path : String)
  | runtime (e : RuntimeError)
  /-- The guest did not accept the program. -/
  | rejected (path : String)
  | incompatible (path : String)
  deriving DecidableEq, Repr

def CommandError.message : CommandError → String
  | settings e => e.message
  | unreadable path => "Failed to read " ++ path
  | runtime e => e.message
  | rejected path => "Guest rejected " ++ path
  | incompatible path => path ++ " is not compatible with this host"

/-- How the program ended, and what it wrote. -/
inductive Outcome
  | success (output : String)
  | failure (output : String) (e : CommandError)
  | refused
  /-- The program broke off, with nothing written. -/
  | crashed
  deriving DecidableEq, Repr

/-- What commands get from outside. -/
structure World where
  files : FileView
  date : Int32
  time : Int32
  random : Nat → Double
  /-- How many batches an unlimited run may take. -/
  patience : Nat

/-- The settings in a file, or the default ones. -/
def loadSettings (files : FileView) : Option String → Except SettingsError Settings
  | none => .ok .default
  | some path =>
    match File.text? (files path) with
    | .ok text => Settings.ofText text
    | .error reason => .error (.unreadable path reason)

/-- The settings of a run: those of the file, with the fields replaced that the arguments give. -/
def runSettings (files : FileView) (r : RunRequest) : Except SettingsError Settings := do
  let base ← loadSettings files r.config
  let s : Settings := { base with
    heapPages := r.heapPages.getD base.heapPages
    stepsPerBatch := r.stepsPerBatch.getD base.stepsPerBatch
    frameIntervalMs := r.frameIntervalMs.getD base.frameIntervalMs }
  s.check
  return s

/-! ## Output -/

/-- Text that was written, and text that waits for being presented. -/
structure Stream where
  written : String
  buffered : String

namespace Stream

def empty : Stream := ⟨"", ""⟩

def flush (s : Stream) : Stream := ⟨s.written ++ s.buffered, ""⟩

/-- Output is buffered until the session presents it. -/
def observe (s : Stream) : Event → Stream
  | .output code => { s with buffered := s.buffered.push (Text.charOfCode code) }
  | .vsync => s.flush
  | _ => s

def ofTrace (trace : Array Event) : Stream := trace.foldl observe empty

end Stream

/-- What a run wrote, by its trace and by whether it succeeded. -/
def runOutput (screen : Option (Nat × Nat)) (trace : Array Event) (succeeded : Bool) : String :=
  match screen with
  | none =>
    let stream := Stream.ofTrace trace
    if succeeded then stream.flush.written else stream.written
  | some (width, height) =>
    if succeeded then (trace.foldl Screen.Grid.observed (.blank width height)).render ++ "\n"
    else ""

/-! ## Running a program -/

/-- Boots a module, offers it the statements of the screen, hands it the program and runs it. -/
def runProgram (m : Module) (settings : Settings) (r : RunRequest) (source : String)
    (patience : Nat) : Action CommandError m.State Unit := do
  let guest ← (m.boot settings []).mapError .runtime
  let _ ← (guest.registerAvailable Screen.statements).mapError fun e => .runtime (.bridge e)
  let accepted ← (guest.setSource r.slot (fileName r.program) source).mapError .runtime
  if accepted then
    let scheduler ← Scheduler.new guest
    let _ ← (scheduler.runUntil (r.maxBatches.getD patience)).mapError .runtime
  else throw (.rejected r.program)

/-- Texts are found beside the program. -/
def environment (world : World) (program : String) : Environment where
  loader := some fun name => (File.text? (world.files (beside program name))).toOption
  date := world.date
  time := world.time
  random := world.random

/-- The trace of a run on a loaded module, and the error that ended it. -/
structure Finished where
  trace : Array Event
  error : Option CommandError

def runModule (world : World) (m : Module) (settings : Settings) (r : RunRequest)
    (source : String) : Finished :=
  let session := m.session (environment world r.program) settings
  match runProgram m settings r source world.patience session with
  | .ok () s => ⟨s.trace, none⟩
  | .error e s => ⟨s.trace, some e⟩

/-- What a run writes, and how it ends. -/
def Finished.outcome (f : Finished) (screen : Option (Nat × Nat)) : Outcome :=
  match f.error with
  | none => .success (runOutput screen f.trace true)
  | some e => .failure (runOutput screen f.trace false) e

/-- The names of text files for which the guest asked. -/
def Finished.requested (f : Finished) : List String :=
  f.trace.toList.filterMap fun
    | .textRequested name => some name
    | _ => none

/-- How a command ended, and the paths that it looked up. -/
structure Report where
  outcome : Outcome
  consulted : List String

/-- The grid of the text screen is made in every run, and shown only if its size was given. -/
def RunRequest.gridFits (r : RunRequest) : Prop :=
  let (width, height) := r.screen.getD (80, 25)
  Screen.Grid.Fits width height

instance (r : RunRequest) : Decidable r.gridFits := inferInstanceAs (Decidable (Screen.Grid.Fits ..))

/-- The settings are checked before any other file is read, and all files are read before the grid
is made and the module loaded. No check of the arguments looks at the number of cells, so a grid
that has too many ends the program. -/
def runCommand (world : World) (r : RunRequest) : Report :=
  let consulted := r.config.toList ++ [r.guest, r.program]
  let failed (e : CommandError) : Report := ⟨.failure "" e, consulted⟩
  match runSettings world.files r with
  | .error e => failed (.settings e)
  | .ok settings =>
    match world.files r.guest with
    | .error _ => failed (.unreadable r.guest)
    | .ok file =>
      match File.text? (world.files r.program) with
      | .error _ => failed (.unreadable r.program)
      | .ok source =>
        if r.gridFits then
          match file.module with
          | none => failed (.runtime .notAModule)
          | some m =>
            let finished := runModule world m settings r source
            ⟨finished.outcome r.screen, consulted ++ finished.requested.map (beside r.program)⟩
        else ⟨.crashed, consulted⟩

/-! ## The other commands -/

/-- Lines of text, each closed. -/
def unlines (lines : List String) : String := String.join (lines.map (· ++ "\n"))

def inspectCommand (world : World) (guest : String) (config : Option String) (json : Bool) :
    Outcome :=
  match loadSettings world.files config with
  | .error e => .failure "" (.settings e)
  | .ok settings =>
    match world.files guest with
    | .error _ => .failure "" (.unreadable guest)
    | .ok file =>
      match file.module with
      | none => .failure "" (.runtime .notAModule)
      | some m =>
        let report := Compatibility.ofModule m settings
        let output := unlines (if json then [report.document.pretty] else report.lines)
        if report.isCompatible then .success output else .failure output (.incompatible guest)

def configCommand (world : World) (config : Option String) : Outcome :=
  match loadSettings world.files config with
  | .error e => .failure "" (.settings e)
  | .ok settings => .success (settings.text ++ "\n")

def run (world : World) (args : List String) : Report :=
  match request? args with
  | none => ⟨.refused, []⟩
  | some (.config config) => ⟨configCommand world config, config.toList⟩
  | some (.inspect guest config json) =>
    ⟨inspectCommand world guest config json, config.toList ++ [guest]⟩
  | some (.run r) => runCommand world r

def Outcome.exitCode : Outcome → UInt32
  | success _ => 0
  | failure _ _ => 1
  | refused => 2
  | crashed => 101

end GuestBridge.CommandLine
