import Mathlib.Data.Finmap
import GuestBridge.Proofs.Registry.Table
/-!
# A function table is a finite map that only grows

The rows of a table are an array with gaps, which is extended when an id lies behind its end. What
a session sees of it is a finite map from ids to functions: an id within the limit that has no
function yet gets one, any other is refused, and nothing is ever taken out (`FunctionMap.add`).

The refinement is `FunctionTable.Represents`: the same is found under every id, and the array has
no row behind the limit. Both sides refuse the same ids for the same reasons, and recording keeps
the refinement (`Represents.insert_cases`), so a whole sequence of recordings keeps it, with refused
ones anywhere in it (`Represents.recordEach`). All that a table tells of itself is then read off the
map.

## Main statement

* **`table_is_growing_map`** — verdicts, look-ups, listings, sizes and names after any sequence.
-/

namespace GuestBridge

/-- Functions by their ids. -/
abbrev FunctionMap := Finmap fun _ : FunctionId => ExternalFunction

/-- Adds a function under an id up to 65535 that has none yet. -/
def FunctionMap.add (m : FunctionMap) (id : FunctionId) (f : ExternalFunction) :
    Except BridgeError FunctionMap :=
  if 65535 < id.number then .error (.idOutOfRange id.toInt32)
  else if id ∈ m then .error (.duplicateId id.number)
  else .ok (Finmap.insert id f m)

/-- Records functions one after the other by `insert`, with a verdict for each. One that is refused
leaves everything as it is. -/
def recordEach {T : Type} (insert : T → FunctionId → ExternalFunction → Except BridgeError T) :
    T → List (FunctionId × ExternalFunction) → List (Except BridgeError Unit) × T
  | t, [] => ([], t)
  | t, row :: rest =>
    match insert t row.1 row.2 with
    | .ok t' =>
      let (verdicts, last) := recordEach insert t' rest
      (.ok () :: verdicts, last)
    | .error e =>
      let (verdicts, last) := recordEach insert t rest
      (.error e :: verdicts, last)

variable {t : FunctionTable} {m m' : FunctionMap} {id : FunctionId} {f : ExternalFunction}
  {raw : Int32} {name : String}

/-! ## The map grows -/

/-- What the map holds stays when it grows. -/
theorem FunctionMap.lookup_add (h : m.add id f = .ok m') {other : FunctionId}
    {e : ExternalFunction} (he : m.lookup other = some e) : m'.lookup other = some e := by
  unfold add at h
  split at h
  · cases h
  · split at h
    · cases h
    · rename_i hnew
      cases h
      -- the new id is another one, since the old one is in the map
      have hother : other ≠ id := by
        rintro rfl
        exact hnew (Finmap.mem_of_lookup_eq_some he)
      rw [Finmap.lookup_insert_of_ne m hother, he]

/-- What the map holds under an id it holds for good. -/
theorem FunctionMap.lookup_recordEach (rows : List (FunctionId × ExternalFunction))
    (h : m.lookup id = some f) : (recordEach add m rows).2.lookup id = some f := by
  induction rows generalizing m with
  | nil => exact h
  | cons row rest ih =>
    unfold recordEach
    cases hadd : m.add row.1 row.2 with
    | ok m' => exact ih (lookup_add hadd h)
    | error e => exact ih h

namespace FunctionId

/-- The guest's numbers that are ids. -/
theorem ofRaw?_eq_some_iff : ofRaw? raw = some id ↔ (id.number : Int) = raw.toInt := by
  obtain ⟨number, positive⟩ := id
  unfold ofRaw?
  split
  · simp only [Option.some.injEq, mk.injEq]
    omega
  · simp only [reduceCtorEq, false_iff]
    omega

theorem ofRaw?_of_nonpos (h : raw ≤ 0) : ofRaw? raw = none := by
  have hzero : raw.toInt ≤ 0 := Int32.le_iff_toInt_le.mp h
  rw [ofRaw?, dif_neg (by omega)]

end FunctionId

namespace FunctionTable

/-! ## The refinement -/

/-- The table finds what the map holds, and has no row behind the limit. -/
structure Represents (t : FunctionTable) (m : FunctionMap) : Prop where
  lookup : ∀ id, t.lookup? id = m.lookup id
  size_le : t.rows.size ≤ 65536

/-- The array is extended up to the new row, if that lies behind its end. -/
theorem size_insert {t' : FunctionTable} (h : t.insert id f = .ok t') :
    t'.rows.size = max t.rows.size (id.number + 1) := by
  unfold insert at h
  split at h
  · cases h
  · split at h
    · cases h
    · cases h
      simp only [extend, Array.size_setIfInBounds, Array.size_append, Array.size_replicate]
      omega

namespace Represents

theorem empty : FunctionTable.empty.Represents ∅ where
  lookup id := by
    rw [Finmap.lookup_empty]
    rfl
  size_le := Nat.zero_le _

/-- **One recording.** Table and map refuse it for the same reason, or both accept it and the one
still represents the other. -/
theorem insert_cases (h : t.Represents m) (id : FunctionId) (f : ExternalFunction) :
    (∃ e, t.insert id f = .error e ∧ m.add id f = .error e) ∨
    (∃ t' m', t.insert id f = .ok t' ∧ m.add id f = .ok m' ∧ t'.Represents m') := by
  -- Both sides check the limit first, then whether the id is taken.
  by_cases hlimit : 65535 < id.number
  · exact .inl ⟨.idOutOfRange id.toInt32, if_pos hlimit, if_pos hlimit⟩
  have hlookup := h.lookup id
  by_cases hmem : id ∈ m
  · obtain ⟨e, he⟩ := Finmap.mem_iff.mp hmem
    rw [he] at hlookup
    refine .inl ⟨.duplicateId id.number, ?_, ?_⟩
    · simp only [FunctionTable.insert, maxId, if_neg hlimit, hlookup]
    · rw [FunctionMap.add, if_neg hlimit, if_pos hmem]
  · rw [Finmap.lookup_eq_none.mpr hmem] at hlookup
    obtain ⟨t', hinsert⟩ : ∃ t', t.insert id f = .ok t' :=
      insert_eq_ok_iff.mpr ⟨Nat.not_lt.mp hlimit, hlookup⟩
    refine .inr ⟨t', Finmap.insert id f m, hinsert, ?_, fun other => ?_, ?_⟩
    · rw [FunctionMap.add, if_neg hlimit, if_neg hmem]
    · rw [lookup?_insert hinsert other]
      by_cases hid : id = other
      · subst hid
        rw [if_pos rfl, Finmap.lookup_insert]
      · rw [if_neg hid, Finmap.lookup_insert_of_ne m (Ne.symm hid), h.lookup]
    · have hsize := h.size_le
      rw [size_insert hinsert]
      omega

/-- **A sequence of recordings.** The verdicts are the same, and the refinement is kept. -/
theorem recordEach (h : t.Represents m) (rows : List (FunctionId × ExternalFunction)) :
    (recordEach FunctionTable.insert t rows).1 = (recordEach FunctionMap.add m rows).1 ∧
    (recordEach FunctionTable.insert t rows).2.Represents
      (recordEach FunctionMap.add m rows).2 := by
  induction rows generalizing t m with
  | nil => exact ⟨rfl, h⟩
  | cons row rest ih =>
    unfold GuestBridge.recordEach
    rcases h.insert_cases row.1 row.2 with ⟨e, ht, hm⟩ | ⟨t', m', ht, hm, h'⟩
    · rw [ht, hm]
      obtain ⟨hverdicts, hrest⟩ := ih h
      exact ⟨congrArg _ hverdicts, hrest⟩
    · rw [ht, hm]
      obtain ⟨hverdicts, hrest⟩ := ih h'
      exact ⟨congrArg _ hverdicts, hrest⟩

/-! ## What a table tells -/

/-- A number finds what the map holds under its id, if it is one. -/
theorem get?_eq (h : t.Represents m) (raw : Int32) :
    t.get? raw = (FunctionId.ofRaw? raw).bind fun id => m.lookup id := by
  simp only [get?, h.lookup, Option.bind_eq_bind]

theorem get?_of_number (h : t.Represents m) (hraw : (id.number : Int) = raw.toInt) :
    t.get? raw = m.lookup id := by
  rw [h.get?_eq, FunctionId.ofRaw?_eq_some_iff.mpr hraw, Option.bind_some]

/-- The listing has the entries of the map. -/
theorem mem_toList_iff (h : t.Represents m) : (id, f) ∈ t.toList ↔ m.lookup id = some f := by
  rw [FunctionTable.mem_toList_iff, h.lookup]

/-- There are as many rows as the map has entries, as no id has two. -/
theorem size_eq_card (h : t.Represents m) : t.size = m.keys.card := by
  -- the listed ids are the keys of the map, and each is listed once
  have hkeys : (t.toList.map Prod.fst).toFinset = m.keys := by
    ext id
    rw [List.mem_toFinset, List.mem_map, Finmap.mem_keys, Finmap.mem_iff]
    constructor
    · rintro ⟨⟨_, f⟩, hrow, rfl⟩
      exact ⟨f, h.mem_toList_iff.mp hrow⟩
    · rintro ⟨f, hf⟩
      exact ⟨(id, f), h.mem_toList_iff.mpr hf, rfl⟩
  rw [← hkeys, List.toFinset_card_of_nodup nodup_ids, List.length_map]
  rfl

/-- A name finds the ids of its functions. -/
theorem mem_find_iff (h : t.Represents m) :
    id ∈ t.find name ↔ ∃ f, m.lookup id = some f ∧ f.name = name := by
  simp only [find, List.mem_map, List.mem_filter, beq_iff_eq]
  constructor
  · rintro ⟨⟨_, f⟩, ⟨hrow, hname⟩, rfl⟩
    exact ⟨f, h.mem_toList_iff.mp hrow, hname⟩
  · rintro ⟨f, hf, hname⟩
    exact ⟨(id, f), ⟨h.mem_toList_iff.mpr hf, hname⟩, rfl⟩

end Represents

/-- The ids of a name are in ascending order. -/
theorem pairwise_find : (t.find name).Pairwise fun id id' => id.number < id'.number := by
  rw [find, List.pairwise_map]
  exact pairwise_toList.filter _

end FunctionTable

/-- **A function table is a finite map that only grows.** For every sequence of functions that are
recorded under ids in an empty table, `m` being the map that the same sequence makes:

* each recording gets the verdict of the map;
* a positive number finds what the map holds under it, and no other number finds anything;
* the listing has each entry of the map exactly once, in ascending order of the ids, and the size is
  that of the map;
* a name finds the ids of the entries with that name, in ascending order;
* the rows are never more than 65536;
* whatever is recorded later, what was found under a number is found under it. -/
theorem table_is_growing_map (rows : List (FunctionId × ExternalFunction)) :
    let t := (recordEach FunctionTable.insert .empty rows).2
    let m := (recordEach FunctionMap.add ∅ rows).2
    (recordEach FunctionTable.insert .empty rows).1 = (recordEach FunctionMap.add ∅ rows).1 ∧
    (∀ raw : Int32, raw ≤ 0 → t.get? raw = none) ∧
    (∀ (raw : Int32) (id : FunctionId), (id.number : Int) = raw.toInt →
      t.get? raw = m.lookup id) ∧
    (∀ id f, (id, f) ∈ t.toList ↔ m.lookup id = some f) ∧
    t.toList.Nodup ∧
    t.toList.Pairwise (fun row row' => row.1.number < row'.1.number) ∧
    t.size = m.keys.card ∧
    (∀ name, (t.find name).Pairwise (fun id id' => id.number < id'.number) ∧
      ∀ id, id ∈ t.find name ↔ ∃ f, m.lookup id = some f ∧ f.name = name) ∧
    t.rows.size ≤ 65536 ∧
    (∀ later (raw : Int32) f, t.get? raw = some f →
      (recordEach FunctionTable.insert t later).2.get? raw = some f) := by
  intro t m
  obtain ⟨hverdicts, h⟩ := FunctionTable.Represents.empty.recordEach rows
  refine ⟨hverdicts, fun raw hraw => ?_, fun raw id => h.get?_of_number,
    fun id f => h.mem_toList_iff, FunctionTable.nodup_toList, FunctionTable.pairwise_toList,
    h.size_eq_card,
    fun name => ⟨FunctionTable.pairwise_find, fun id => h.mem_find_iff⟩, h.size_le,
    fun later raw f hf => ?_⟩
  · rw [h.get?_eq, FunctionId.ofRaw?_of_nonpos hraw, Option.bind_none]
  · -- the map keeps what it holds under the id of the number
    rw [h.get?_eq] at hf
    obtain ⟨id, hid, hfound⟩ := Option.bind_eq_some_iff.mp hf
    rw [(h.recordEach later).2.get?_eq, hid, Option.bind_some]
    exact FunctionMap.lookup_recordEach later hfound

/-- A repeated id and one beyond the limit are refused, and a name finds both of its ids. -/
theorem table_is_growing_map_gaps :
    let f : String → ExternalFunction := fun name => .procedure0 name (pure ())
    let rows : List (FunctionId × ExternalFunction) :=
      [(⟨7, by decide⟩, f "A"), (⟨7, by decide⟩, f "B"), (⟨70000, by decide⟩, f "C"),
        (⟨3, by decide⟩, f "A")]
    let t := (recordEach FunctionTable.insert .empty rows).2
    (recordEach FunctionTable.insert .empty rows).1 =
      [.ok (), .error (.duplicateId 7), .error (.idOutOfRange 70000), .ok ()] ∧
    t.get? 7 = some (f "A") ∧ t.get? 4 = none ∧ t.get? (-7) = none ∧ t.size = 2 ∧
    ⟨3, by decide⟩ ∈ t.find "A" ∧ ⟨7, by decide⟩ ∈ t.find "A" ∧ ⟨7, by decide⟩ ∉ t.find "B" ∧
    ∀ later, (recordEach FunctionTable.insert t later).2.get? 7 = some (f "A") := by
  intro f rows t
  obtain ⟨hverdicts, hnone, hget, -, -, -, hsize, hfind, -, hlater⟩ := table_is_growing_map rows
  have hseven : t.get? 7 = some (f "A") := hget 7 ⟨7, by decide⟩ (by decide)
  refine ⟨hverdicts, hseven, hget 4 ⟨4, by decide⟩ (by decide), hnone (-7) (by decide), hsize,
    ((hfind "A").2 _).mpr ⟨f "A", rfl, rfl⟩, ((hfind "A").2 _).mpr ⟨f "A", rfl, rfl⟩,
    fun hmem => ?_, fun later => hlater later 7 _ hseven⟩
  obtain ⟨g, hg, hname⟩ := ((hfind "B").2 _).mp hmem
  obtain rfl : f "A" = g := Option.some.inj hg
  exact absurd hname (by decide)

end GuestBridge
