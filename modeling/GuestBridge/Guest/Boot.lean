import GuestBridge.Guest.Basic
/-!
# Booting a guest

The settings are checked, the host's definitions are made and the module is linked against them.
Then the entry points are resolved, the banner is shown, the heap is announced and the guest's
initializer runs.
-/

namespace GuestBridge

namespace EntryPoints

variable {σ : Type}

/-- The code of a role's function, which must be exported with exactly the role's type. -/
def typed (exports : List (String × Export σ)) (role : Role) (name : String) :
    Except RuntimeError (List Operand → Code σ (List Operand)) :=
  let refuse (reason : String) := .error (.missingExport role.name name reason)
  match Export.find? exports name with
  | some (.function type code) =>
    if type = role.type then .ok code else refuse "the function has another type"
  | some _ => refuse "the export is no function"
  | none => refuse "there is no such export"

/-- Resolves the required roles in order. -/
def resolve (exports : List (String × Export σ)) (names : ExportNames) :
    Except RuntimeError (EntryPoints σ) := do
  let malloc ← typed exports .malloc names.malloc
  let initializer ← typed exports .initializer names.initializer
  let setSource ← typed exports .setSource names.setSource
  let executeOneStep ← typed exports .executeOneStep names.executeOneStep
  let registerFunction ← typed exports .registerFunction names.registerFunction
  return {
    malloc := fun slots => (malloc [.i32 slots]).i32Result
    initializer := (initializer []).noResult
    setSource := fun slot file source =>
      (setSource [.i32 slot, .i32 file, .i32 source]).i32Result
    executeOneStep := (executeOneStep []).i32Result
    registerFunction := fun descriptor => (registerFunction [.i32 descriptor]).i32Result }

end EntryPoints

namespace Guest

variable {σ : Type}

/-- The address of the heap, if the guest exports it as a 32-bit global. -/
def heapBase? (g : Guest σ) : Option Int32 :=
  match Export.find? g.exports g.settings.exports.heapBase with
  | some (.global (.i32 base)) => some base
  | _ => none

/-- The name of the guest's heap setup, if one is configured and a function of that name is
exported. -/
def heapSetup? (g : Guest σ) : Option String := do
  let name ← g.settings.exports.setupHeap
  match Export.find? g.exports name with
  | some (.function _ _) => some name
  | _ => none

/-- The bytes between the address of the heap and the end of an arena. -/
def heapBytes (size : Nat) (base : Int32) : Nat := size - base.toUInt32.toNat

/-- Announces the region from the address of the heap to the end of the arena. A guest without a
heap setup or without an address is left alone. -/
def announceHeap (g : Guest σ) : Action RuntimeError σ Unit := do
  match g.heapSetup?, g.heapBase? with
  | some name, some base =>
    let code ← Action.ofExcept (EntryPoints.typed g.exports .setupHeap name)
    let bytes := heapBytes (← get).arena.size base
    (g.run (code [.i32 base, .i32 (UInt32.ofNat bytes).toInt32]).noResult).mapError .ofTrap
  | _, _ => pure ()

/-- Shows the banner, announces the heap and runs the initializer. -/
def start (g : Guest σ) : Action RuntimeError σ Unit := do
  match g.settings.banner with
  | some banner => modify fun s => (s.print banner).emit .vsync
  | none => pure ()
  g.announceHeap
  (g.run g.entry.initializer).mapError .ofTrap

end Guest

namespace Module

/-- The definitions that a module is linked against: extra functions first, then the standard
ones. -/
def hostDefinitions (pages : Nat) (extra : List (String × String × FuncType)) :
    Except LinkerError Linker :=
  let definitions : EStateM LinkerError Linker Unit := do
    extra.forM fun (interface, name, type) => Linker.defineFunction interface name type
    Linker.defineAll (Linker.standard pages)
  match definitions .empty with
  | .ok () l => .ok l
  | .error e _ => .error e

/-- The guest that a module becomes, before it is started. -/
def instantiate (m : Module) (settings : Settings) (extra : List (String × String × FuncType)) :
    Except RuntimeError (Guest m.State) := do
  settings.check.mapError .settings
  let linker ← (hostDefinitions settings.heapPages.toNat extra).mapError .link
  if m.imports.all linker.resolves then
    let entry ← EntryPoints.resolve m.exports settings.exports
    return ⟨entry, m.exports, settings⟩
  else throw (.module "an import is not defined with the type that it needs")

def boot (m : Module) (settings : Settings) (extra : List (String × String × FuncType)) :
    Action RuntimeError m.State (Guest m.State) := do
  let g ← Action.ofExcept (m.instantiate settings extra)
  g.start
  return g

/-- The session in which a module boots. -/
def session (m : Module) (environment : Environment) (settings : Settings) : Session m.State :=
  .initial environment settings.heapPages.toNat m.start

end Module

end GuestBridge
