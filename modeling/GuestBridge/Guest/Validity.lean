import Std.Data.HashSet.Lemmas
import GuestBridge.Guest.Module
/-!
# Valid modules

Only a valid module can be started or looked at. Validity bounds the sizes of types, names and
memories and the number of memories and tables, and forbids that two exports share a name
(`distinctFrom_eq_true_iff`).
-/

namespace GuestBridge

def maxPages : Nat := 65536

/-- The most parameters of a function, and the most results. -/
def maxArity : Nat := 1000

/-- The most memories of a module, imported and own, and the most tables. -/
def maxSpaces : Nat := 100

/-- The most bytes of a name in a module. -/
def Module.maxNameBytes : Nat := 100000

/-- A memory can have these sizes. -/
def Limits.isValid (l : Limits) : Bool :=
  l.min ≤ maxPages && l.max.all fun max => l.min ≤ max && max ≤ maxPages

def FuncType.isValid (t : FuncType) : Bool :=
  t.params.length ≤ maxArity && t.results.length ≤ maxArity

/-- An import or an export can have this name. -/
def Module.isName (name : String) : Bool := name.utf8ByteSize ≤ maxNameBytes

/-! ## Imports -/

namespace ImportType

def isValid : ImportType → Bool
  | function type => type.isValid
  | memory limits => limits.isValid
  | global _ | table => true

def isMemory : ImportType → Bool
  | memory _ => true
  | _ => false

def isTable : ImportType → Bool
  | table => true
  | _ => false

end ImportType

def Import.isValid (i : Import) : Bool :=
  Module.isName i.interface && Module.isName i.name && i.type.isValid

/-! ## Exports -/

namespace Export

variable {σ : Type}

def isValid : Export σ → Bool
  | function type _ => type.isValid
  | global _ | table | memory => true

def isMemory : Export σ → Bool
  | memory => true
  | _ => false

def isTable : Export σ → Bool
  | table => true
  | _ => false

end Export

/-- No name stands twice in a list, and none was seen before. -/
def distinctFrom (seen : Std.HashSet String) : List String → Bool
  | [] => true
  | name :: rest => !seen.contains name && distinctFrom (seen.insert name) rest

theorem distinctFrom_eq_true_iff {seen : Std.HashSet String} {names : List String} :
    distinctFrom seen names = true ↔ names.Nodup ∧ ∀ name ∈ names, name ∉ seen := by
  induction names generalizing seen with
  | nil => simp [distinctFrom]
  | cons name rest ih =>
    simp only [distinctFrom, Bool.and_eq_true, Bool.not_eq_true', ih, List.nodup_cons,
      List.mem_cons, Std.HashSet.mem_insert, beq_iff_eq, not_or, forall_eq_or_imp,
      ← Bool.not_eq_true, ← Std.HashSet.mem_iff_contains]
    constructor
    · rintro ⟨hname, hrest, hseen⟩
      exact ⟨⟨fun h => (hseen name h).1 rfl, hrest⟩, hname, fun n h => (hseen n h).2⟩
    · rintro ⟨⟨hname, hrest⟩, hseen, hseen'⟩
      exact ⟨hseen, hrest, fun n h => ⟨fun e => hname (e ▸ h), hseen' n h⟩⟩

/-! ## Modules -/

namespace Module

/-- Memories are numbered from the imported ones on to the own ones. -/
def memoryCount (m : Module) : Nat :=
  m.imports.countP (·.type.isMemory) + m.exports.countP (·.2.isMemory)

/-- Tables are numbered in the same way. -/
def tableCount (m : Module) : Nat :=
  m.imports.countP (·.type.isTable) + m.exports.countP (·.2.isTable)

def isValid (m : Module) : Bool :=
  m.imports.all Import.isValid &&
  (m.exports.all fun e => isName e.1 && e.2.isValid) &&
  m.memoryCount ≤ maxSpaces && m.tableCount ≤ maxSpaces &&
  distinctFrom ∅ (m.exports.map (·.1))

end Module

end GuestBridge
