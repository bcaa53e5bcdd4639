import GuestBridge.Guest.Stub
/-!
# Images of stubs

The image of a module is its binary form: a preamble and sections, each a number, the length of its
content and the content; a section without items is left out. Numbers are written in groups of seven
bits, which makes the bytes of a small module a text: `text?` is that text, if there is one.
-/

namespace GuestBridge.Image

/-! ## Numbers, lists and names -/

/-- Seven bits a byte, the lowest first; the high bit is set in every byte but the last. -/
def number (n : Nat) : List UInt8 :=
  if n < 128 then [UInt8.ofNat n]
  else UInt8.ofNat (128 + n % 128) :: number (n / 128)
termination_by n
decreasing_by omega

/-- The number of items, then the items. -/
def vector (items : List (List UInt8)) : List UInt8 := number items.length ++ items.flatten

/-- Bytes behind their length. -/
def sized (content : List UInt8) : List UInt8 := number content.length ++ content

def name (s : String) : List UInt8 := sized s.toUTF8.toList

/-- A section with a given number, or nothing when it has no items. -/
def sectionOf (id : UInt8) (items : List (List UInt8)) : List UInt8 :=
  if items.isEmpty then [] else id :: sized (vector items)

/-! ## Types -/

def valueType : ValueType → UInt8
  | .i32 => 0x7F
  | .i64 => 0x7E
  | .f32 => 0x7D
  | .f64 => 0x7C
  | .v128 => 0x7B
  | .funcref => 0x70
  | .externref => 0x6F

def valueTypes (types : List ValueType) : List UInt8 := vector (types.map fun t => [valueType t])

def funcType (t : FuncType) : List UInt8 := 0x60 :: valueTypes t.params ++ valueTypes t.results

def limits (l : Limits) : List UInt8 :=
  match l.max with
  | none => 0 :: number l.min
  | some max => 1 :: number l.min ++ number max

/-- A global that cannot be assigned. -/
def globalType (t : ValueType) : List UInt8 := [valueType t, 0]

/-- A table of one function. -/
def tableType : List UInt8 := valueType .funcref :: limits ⟨1, none⟩

/-- A memory of one page. -/
def memoryType : List UInt8 := limits ⟨1, none⟩

/-! ## Code -/

/-- The instruction that gives the zero of a type. -/
def zero : ValueType → List UInt8
  | .i32 => [0x41, 0]
  | .i64 => [0x42, 0]
  | .f32 => 0x43 :: List.replicate 4 0
  | .f64 => 0x44 :: List.replicate 8 0
  | .v128 => 0xFD :: 0x0C :: List.replicate 16 0
  | .funcref => [0xD0, valueType .funcref]
  | .externref => [0xD0, valueType .externref]

/-- Ends a sequence of instructions. -/
def stop : UInt8 := 0x0B

/-- A function without local variables that returns zeros. -/
def body (t : FuncType) : List UInt8 := sized (0 :: t.results.flatMap zero ++ [stop])

/-! ## Stubs -/

/-- The four kinds of things that a module imports, defines and exports. -/
inductive Kind
  | function | table | memory | global
  deriving DecidableEq, Repr

def Kind.byte : Kind → UInt8
  | function => 0
  | table => 1
  | memory => 2
  | global => 3

def kindOfImport : ImportType → Kind
  | .function _ => .function
  | .table => .table
  | .memory _ => .memory
  | .global _ => .global

def kindOfExport : StubExport → Kind
  | .function _ => .function
  | .table => .table
  | .memory => .memory
  | .global _ => .global

def functions (s : Stub) : List FuncType :=
  s.exports.filterMap fun
    | (_, .function type) => some type
    | _ => none

def globals (s : Stub) : List ValueType :=
  s.exports.filterMap fun
    | (_, .global type) => some type
    | _ => none

/-- The function types of a stub, each once, in the order of their first use. -/
def types (s : Stub) : List FuncType :=
  let imported := s.imports.filterMap fun i =>
    match i.type with
    | .function type => some type
    | _ => none
  (imported ++ functions s).eraseDups

/-- A function type by its place in a list. -/
def typeIndex (types : List FuncType) (t : FuncType) : List UInt8 := number (types.idxOf t)

/-- An import of a module with the given function types. -/
def importItem (types : List FuncType) (i : Import) : List UInt8 :=
  let type :=
    match i.type with
    | .function type => typeIndex types type
    | .table => tableType
    | .memory l => limits l
    | .global type => globalType type
  name i.interface ++ name i.name ++ (kindOfImport i.type).byte :: type

structure Counts where
  functions : Nat
  tables : Nat
  memories : Nat
  globals : Nat
  deriving DecidableEq, Repr

namespace Counts

def zero : Counts := ⟨0, 0, 0, 0⟩

def of (c : Counts) : Kind → Nat
  | .function => c.functions
  | .table => c.tables
  | .memory => c.memories
  | .global => c.globals

def add (c : Counts) : Kind → Counts
  | .function => { c with functions := c.functions + 1 }
  | .table => { c with tables := c.tables + 1 }
  | .memory => { c with memories := c.memories + 1 }
  | .global => { c with globals := c.globals + 1 }

def ofImports (imports : List Import) : Counts :=
  imports.foldl (fun c i => c.add (kindOfImport i.type)) zero

def ofExports (exports : List (String × StubExport)) : Counts :=
  exports.foldl (fun c e => c.add (kindOfExport e.2)) zero

end Counts

/-- The things of a kind are numbered in the order of their export, behind those `before`. -/
def exportItems (before : Counts) : List (String × StubExport) → List (List UInt8)
  | [] => []
  | (n, e) :: rest =>
    let kind := kindOfExport e
    (name n ++ kind.byte :: number (before.of kind)) :: exportItems (before.add kind) rest

/-- The eight bytes with which every module begins. -/
def preamble : List UInt8 := [0, 0x61, 0x73, 0x6D, 1, 0, 0, 0]

def stub (s : Stub) : List UInt8 :=
  let types := types s
  let own := Counts.ofExports s.exports
  preamble ++
  sectionOf 1 (types.map funcType) ++
  sectionOf 2 (s.imports.map (importItem types)) ++
  sectionOf 3 ((functions s).map (typeIndex types)) ++
  sectionOf 4 (List.replicate own.tables tableType) ++
  sectionOf 5 (List.replicate own.memories memoryType) ++
  sectionOf 6 ((globals s).map fun t => globalType t ++ zero t ++ [stop]) ++
  sectionOf 7 (exportItems (.ofImports s.imports) s.exports) ++
  sectionOf 10 ((functions s).map body)

/-- The text that the bytes of a stub spell in UTF-8. -/
def text? (s : Stub) : Option String := String.fromUTF8? (stub s).toByteArray

end GuestBridge.Image
