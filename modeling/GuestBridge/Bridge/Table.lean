import GuestBridge.Bridge.Function
/-!
# The function table

The registered functions by the ids that the guest assigned. The guest chooses the ids, so the table
refuses a repeated one and one beyond its limit; rows are never removed or replaced.
-/

namespace GuestBridge

/-- A positive id assigned by the guest. -/
structure FunctionId where
  number : Nat
  positive : 0 < number
  deriving DecidableEq, Repr

namespace FunctionId

/-- Guests answer a registration by a positive id, or refuse it by any other number. -/
def ofRaw? (raw : Int32) : Option FunctionId :=
  if h : 0 < raw.toInt.toNat then some ⟨raw.toInt.toNat, h⟩ else none

def toInt32 (id : FunctionId) : Int32 := Int32.ofNat id.number

def text (id : FunctionId) : String := "#" ++ toString id.number

end FunctionId

/-- The rows at their ids; row 0 and the rows of unassigned ids are vacant. -/
structure FunctionTable where
  rows : Array (Option ExternalFunction)

namespace FunctionTable

def maxId : Nat := 65535

def empty : FunctionTable := ⟨#[]⟩

/-- Vacant rows up to and including the given index. -/
def extend (t : FunctionTable) (index : Nat) : FunctionTable :=
  ⟨t.rows ++ Array.replicate (index + 1 - t.rows.size) none⟩

def lookup? (t : FunctionTable) (id : FunctionId) : Option ExternalFunction :=
  (t.rows[id.number]?).join

/-- The function with an id as the guest passes it. -/
def get? (t : FunctionTable) (raw : Int32) : Option ExternalFunction := do
  t.lookup? (← FunctionId.ofRaw? raw)

/-- Records a function under a fresh id within the limit. -/
def insert (t : FunctionTable) (id : FunctionId) (f : ExternalFunction) :
    Except BridgeError FunctionTable :=
  if maxId < id.number then .error (.idOutOfRange id.toInt32)
  else
    match t.lookup? id with
    | some _ => .error (.duplicateId id.number)
    | none => .ok ⟨(t.extend id.number).rows.setIfInBounds id.number (some f)⟩

/-- Vacant rows hold nothing, and neither do the rows behind the last. -/
theorem lookup?_extend (t : FunctionTable) (index : Nat) (id : FunctionId) :
    (t.extend index).lookup? id = t.lookup? id := by
  simp only [lookup?, extend, Array.getElem?_append, Array.getElem?_replicate]
  by_cases old : id.number < t.rows.size
  · rw [if_pos old]
  · have none_here : t.rows[id.number]? = none := Array.getElem?_eq_none (by omega)
    rw [if_neg old, none_here]
    split <;> rfl

theorem lt_size_extend (t : FunctionTable) (index : Nat) : index < (t.extend index).rows.size := by
  simp only [extend, Array.size_append, Array.size_replicate]
  omega

/-- Recording a function changes what is found under its id, and nothing else. -/
theorem lookup?_insert {t t' : FunctionTable} {id : FunctionId} {f : ExternalFunction}
    (h : t.insert id f = .ok t') (other : FunctionId) :
    t'.lookup? other = if id = other then some f else t.lookup? other := by
  unfold insert at h
  split at h
  · cases h
  · split at h
    · cases h
    · cases h
      rw [← t.lookup?_extend id.number other]
      simp only [lookup?, Array.getElem?_setIfInBounds]
      by_cases same : id = other
      · rw [if_pos same, if_pos (congrArg FunctionId.number same),
          if_pos (t.lt_size_extend id.number)]
        rfl
      · have apart : id.number ≠ other.number := fun eq => same (by
          cases id; cases other; cases eq; rfl)
        rw [if_neg same, if_neg apart]

/-- The id of a row. Row 0 has none, and stays vacant. -/
def idOfRow? (index : Nat) : Option FunctionId :=
  if h : 0 < index then some ⟨index, h⟩ else none

/-- The registered functions with their ids, in ascending order of the ids. -/
def toList (t : FunctionTable) : List (FunctionId × ExternalFunction) :=
  t.rows.toList.zipIdx.filterMap fun (row, index) => do
    return (← idOfRow? index, ← row)

def size (t : FunctionTable) : Nat := t.toList.length

def isEmpty (t : FunctionTable) : Bool := t.size == 0

/-- The ids under which a name is registered, one for each overload. -/
def find (t : FunctionTable) (name : String) : List FunctionId :=
  (t.toList.filter fun row => row.2.name == name).map (·.1)

end FunctionTable

end GuestBridge
