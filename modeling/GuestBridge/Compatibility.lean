import GuestBridge.Guest.Boot
import GuestBridge.Json.Printer
/-!
# Compatibility reports

A report says which entry points a module exports and which of its imports the host does not offer,
without running anything. Imports are looked up by name; their types are not compared.
-/

namespace GuestBridge

/-- What was found under the name of an entry point. -/
inductive ExportStatus
  | present
  | missing
  | mismatch (expected found : String)
  deriving DecidableEq, Repr

structure ExportCheck where
  role : Role
  name : String
  status : ExportStatus
  deriving DecidableEq, Repr

/-- The findings on a module. -/
structure Compatibility where
  exports : List ExportCheck
  /-- The imports that the host does not offer, in the module's order. -/
  unresolvedImports : List String
  /-- The module takes its memory from the host. -/
  importsMemory : Bool
  deriving DecidableEq, Repr

namespace ExportCheck

/-- An optional entry point may be missing; none may have another type. -/
def isSatisfied (c : ExportCheck) : Bool :=
  match c.status with
  | .present => true
  | .missing => !c.role.isRequired
  | .mismatch _ _ => false

/-- Compares what is exported under a name with a role's type, both as they are written. -/
def ofExport {σ : Type} (exports : List (String × Export σ)) (role : Role) (name : String) :
    ExportCheck where
  role := role
  name := name
  status :=
    match Export.find? exports name with
    | none => .missing
    | some (.function type _) =>
      if type.text = role.type.text then .present else .mismatch role.type.text type.text
    | some (.global _) => .mismatch role.type.text "global"
    | some .table => .mismatch role.type.text "table"
    | some .memory => .mismatch role.type.text "memory"

end ExportCheck

namespace Compatibility

/-- The roles that are looked for: all required ones, and the heap setup if it has a name. -/
def expected (names : ExportNames) : List (Role × String) :=
  (Role.required ++ [Role.setupHeap]).filterMap fun role =>
    (role.exportName? names).map fun name => (role, name)

/-- Interface and name of an import, with a point between. -/
def importName (i : Import) : String := i.interface ++ "." ++ i.name

/-- The import is the host's memory. -/
def isHostMemory (i : Import) : Bool :=
  i.interface == "env" && i.name == "memory" &&
    match i.type with
    | .memory _ => true
    | _ => false

/-- The findings on a module under the given settings. The size of the host's memory does not
matter here, since imports are looked up by name. -/
def ofModule (m : Module) (settings : Settings) : Compatibility where
  exports := (expected settings.exports).map fun (role, name) =>
    .ofExport m.exports role name
  unresolvedImports :=
    let host : Linker := ⟨Linker.standard 1⟩
    (m.imports.filter fun i => !host.offers i).map importName
  importsMemory := m.imports.any isHostMemory

/-- The module can be linked and booted, as far as names tell. -/
def isCompatible (c : Compatibility) : Bool :=
  c.importsMemory && c.unresolvedImports.isEmpty && c.exports.all ExportCheck.isSatisfied

/-! ## Writing -/

def checkDocument (c : ExportCheck) : Json :=
  let head : List (String × Json) := [
    ("role", .ofString c.role.name),
    ("name", .ofString c.name),
    ("required", .bool c.role.isRequired)]
  let status : List (String × Json) :=
    match c.status with
    | .present => [("status", .ofString "present")]
    | .missing => [("status", .ofString "missing")]
    | .mismatch expected found => [
        ("status", .ofString "signature_mismatch"),
        ("expected", .ofString expected),
        ("actual", .ofString found)]
  .ofMembers (head ++ status)

def document (c : Compatibility) : Json :=
  .ofMembers [
    ("exports", .arr (c.exports.map checkDocument)),
    ("unresolved_imports", .arr (c.unresolvedImports.map .ofString)),
    ("imports_memory", .bool c.importsMemory)]

def padRight (width : Nat) (text : String) : String :=
  text ++ String.ofList (List.replicate (width - text.length) ' ')

/-- The finding on an entry point in words. -/
def statusText (c : ExportCheck) : String :=
  match c.status with
  | .present => "ok"
  | .missing => if c.role.isRequired then "MISSING" else "absent (optional)"
  | .mismatch expected found => "MISMATCH: expected " ++ expected ++ ", found " ++ found

def checkLine (c : ExportCheck) : String :=
  "  " ++ padRight 18 c.role.name ++ " " ++ padRight 32 c.name ++ " " ++ statusText c

/-- The report for a reader, one finding a line. -/
def lines (c : Compatibility) : List String :=
  ["Exports:"] ++ c.exports.map checkLine ++
  ["", if c.importsMemory then "Memory: imports env.memory"
       else "Memory: does not import env.memory"] ++
  if c.unresolvedImports.isEmpty then ["Imports: all provided by host"]
  else "Unresolved imports:" :: c.unresolvedImports.map ("  " ++ ·)

end Compatibility

end GuestBridge
