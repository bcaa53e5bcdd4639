import Mathlib.Data.List.Nodup
import GuestBridge.Bridge.Table
import GuestBridge.Proofs.Outcome
/-!
# Rows of a function table

A table is a list of rows, one for each id under which something is found, in ascending order of the
ids. Recording a function adds its row and changes no other, so a table that was filled from an
empty one holds exactly the rows that were recorded: their ids are distinct and within the limit,
and each is found from then on.

## Main statements

* **`mem_toList_iff`** — the rows are what is found;
* **`insertAll_perm`** — a table after recording several rows;
* **`get?_toInt32`** — what a guest finds under an id that it assigned.
-/

namespace GuestBridge

variable {t t' : FunctionTable} {id : FunctionId} {f : ExternalFunction}

namespace FunctionId

/-- The guest gets an id back as the number that it assigned. -/
theorem ofRaw?_toInt32 (h : id.number ≤ FunctionTable.maxId) : ofRaw? id.toInt32 = some id := by
  have hsmall : id.number < 2 ^ 31 := Nat.lt_of_le_of_lt h (by decide)
  have hnumber : id.toInt32.toInt.toNat = id.number := by
    rw [toInt32, Int32.toInt_ofNat_of_lt hsmall, Int.toNat_natCast]
  have hpositive := id.positive
  simp only [ofRaw?, hnumber, hpositive, dif_pos]

end FunctionId

namespace FunctionTable

/-! ## What is found -/

/-- An id within the limit is looked up under the number that the guest assigned. -/
theorem get?_toInt32 (h : id.number ≤ maxId) : t.get? id.toInt32 = t.lookup? id := by
  rw [get?, FunctionId.ofRaw?_toInt32 h]
  rfl

/-- The row of an id is the one with its number; the first row belongs to none. -/
theorem idOfRow?_eq_some_iff {index : Nat} : idOfRow? index = some id ↔ index = id.number := by
  have hpositive := id.positive
  unfold idOfRow?
  split
  · rw [Option.some.injEq]
    refine ⟨fun h => ?_, fun h => ?_⟩
    · rw [← h]
    · cases id
      simp only [FunctionId.mk.injEq]
      exact h
  · simp only [reduceCtorEq, false_iff]
    omega

/-- The row of an index and what stands there. -/
def row? (entry : Option ExternalFunction × Nat) : Option (FunctionId × ExternalFunction) := do
  return (← idOfRow? entry.2, ← entry.1)

/-- The listing goes through the rows with their indices. -/
theorem toList_eq_filterMap : t.toList = t.rows.toList.zipIdx.filterMap row? := rfl

/-- A row is listed with its index as id, if a function stands there. -/
theorem row?_eq_some_iff {entry : Option ExternalFunction × Nat}
    {row : FunctionId × ExternalFunction} :
    row? entry = some row ↔ entry.2 = row.1.number ∧ entry.1 = some row.2 := by
  rw [← idOfRow?_eq_some_iff, row?]
  cases idOfRow? entry.2 with
  | none => simp only [Option.bind_eq_bind, Option.bind_none, reduceCtorEq, false_and]
  | some index =>
    cases entry.1 with
    | none => simp only [Option.bind_eq_bind, Option.bind_some, Option.bind_none, reduceCtorEq,
        and_false]
    | some e => simp only [Option.bind_eq_bind, Option.bind_some, Option.pure_def,
        Option.some.injEq, Prod.ext_iff]

/-- The rows are what is found. -/
theorem mem_toList_iff : (id, f) ∈ t.toList ↔ t.lookup? id = some f := by
  rw [toList_eq_filterMap, List.mem_filterMap]
  refine ⟨fun h => ?_, fun h => ?_⟩
  · obtain ⟨entry, hmem, hrow⟩ := h
    obtain ⟨hindex, hentry⟩ := row?_eq_some_iff.mp hrow
    have hget := List.mem_zipIdx_iff_getElem?.mp hmem
    rw [hindex, hentry, Array.getElem?_toList] at hget
    rw [lookup?, hget]
    rfl
  · refine ⟨(some f, id.number), ?_, row?_eq_some_iff.mpr ⟨rfl, rfl⟩⟩
    rw [List.mem_zipIdx_iff_getElem?, Array.getElem?_toList]
    exact Option.join_eq_some_iff.mp h

/-- The rows are in ascending order of their ids. -/
theorem pairwise_toList :
    t.toList.Pairwise fun row row' => row.1.number < row'.1.number := by
  -- the indices ascend, and a listed row has its index as id
  have hindex : t.rows.toList.zipIdx.Pairwise fun entry entry' => entry.2 < entry'.2 := by
    rw [← List.pairwise_map, List.zipIdx_map_snd]
    exact List.pairwise_lt_range'
  rw [toList_eq_filterMap, List.pairwise_filterMap]
  refine hindex.imp fun hlt row hrow row' hrow' => ?_
  rwa [← (row?_eq_some_iff.mp hrow).1, ← (row?_eq_some_iff.mp hrow').1]

/-- No id is listed twice. -/
theorem nodup_ids : (t.toList.map Prod.fst).Nodup := by
  rw [List.Nodup, List.pairwise_map]
  exact pairwise_toList.imp fun hlt heq => Nat.ne_of_lt hlt (congrArg FunctionId.number heq)

theorem nodup_toList : t.toList.Nodup := nodup_ids.of_map

/-! ## Recording -/

/-- A function is recorded under an id within the limit that is not taken. -/
theorem insert_eq_ok_iff :
    (∃ t', t.insert id f = .ok t') ↔ id.number ≤ maxId ∧ t.lookup? id = none := by
  unfold insert
  by_cases hlarge : maxId < id.number
  · rw [if_pos hlarge]
    simp only [reduceCtorEq, exists_false, false_iff, not_and]
    omega
  · rw [if_neg hlarge]
    cases t.lookup? id with
    | none => simp only [Except.ok.injEq, exists_eq', and_true, true_iff]; omega
    | some e => simp only [reduceCtorEq, exists_false, and_false]

/-- Recording a function adds its row. -/
theorem insert_perm (h : t.insert id f = .ok t') : t'.toList.Perm (t.toList ++ [(id, f)]) := by
  have hvacant : t.lookup? id = none := (insert_eq_ok_iff.mp ⟨t', h⟩).2
  have hnew : (id, f) ∉ t.toList := by
    rw [mem_toList_iff, hvacant]
    exact nofun
  -- Lists without repetition are permutations if they have the same rows, which are what is found.
  have hnodup : (t.toList ++ [(id, f)]).Nodup := by
    rw [List.nodup_append]
    refine ⟨nodup_toList, List.nodup_singleton _, fun row hrow row' hrow' heq => ?_⟩
    rw [List.mem_singleton.mp hrow'] at heq
    exact hnew (heq ▸ hrow)
  rw [List.perm_ext_iff_of_nodup nodup_toList hnodup]
  intro row
  obtain ⟨other, e⟩ := row
  rw [List.mem_append, List.mem_singleton, mem_toList_iff, mem_toList_iff, lookup?_insert h other]
  by_cases hid : id = other
  · subst hid
    rw [if_pos rfl, hvacant]
    simp only [Option.some.injEq, reduceCtorEq, Prod.mk.injEq, true_and, false_or, eq_comm]
  · rw [if_neg hid]
    simp only [Prod.mk.injEq, Ne.symm hid, false_and, or_false]

/-- Records functions under their ids, up to the first that is refused. -/
def insertAll (t : FunctionTable) (rows : List (FunctionId × ExternalFunction)) :
    Except BridgeError FunctionTable :=
  rows.foldlM (fun t row => t.insert row.1 row.2) t

variable {rows : List (FunctionId × ExternalFunction)}

theorem insertAll_cons {row : FunctionId × ExternalFunction} :
    t.insertAll (row :: rows) = t.insert row.1 row.2 >>= (·.insertAll rows) :=
  List.foldlM_cons

/-- A sequence of recordings can be cut anywhere. -/
theorem insertAll_append {rows' : List (FunctionId × ExternalFunction)} :
    t.insertAll (rows ++ rows') = t.insertAll rows >>= (·.insertAll rows') :=
  List.foldlM_append

/-- A table that several rows were recorded in holds these rows, and what it held before. -/
theorem insertAll_perm (h : t.insertAll rows = .ok t') : t'.toList.Perm (t.toList ++ rows) := by
  induction rows generalizing t with
  | nil =>
    cases h
    rw [List.append_nil]
  | cons row rest ih =>
    rw [insertAll_cons, Outcome.except_bind_eq_ok_iff] at h
    obtain ⟨u, hfirst, hrest⟩ := h
    refine (ih hrest).trans ?_
    rw [List.append_cons]
    exact (insert_perm hfirst).append_right rest

/-- Only ids within the limit are recorded. -/
theorem insertAll_le (h : t.insertAll rows = .ok t') : ∀ row ∈ rows, row.1.number ≤ maxId := by
  induction rows generalizing t with
  | nil => exact List.forall_mem_nil _
  | cons row rest ih =>
    rw [insertAll_cons, Outcome.except_bind_eq_ok_iff] at h
    obtain ⟨u, hfirst, hrest⟩ := h
    exact List.forall_mem_cons.mpr ⟨(insert_eq_ok_iff.mp ⟨u, hfirst⟩).1, ih hrest⟩

/-- What is found stays found. -/
theorem lookup?_insertAll (h : t.insertAll rows = .ok t') (hfound : t.lookup? id = some f) :
    t'.lookup? id = some f := by
  rw [← mem_toList_iff] at hfound ⊢
  exact (insertAll_perm h).mem_iff.mpr (List.mem_append_left _ hfound)

end FunctionTable

end GuestBridge
