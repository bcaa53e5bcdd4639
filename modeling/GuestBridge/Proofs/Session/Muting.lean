import GuestBridge.Proofs.Registry.Table
import GuestBridge.Proofs.Session.Disguise
/-!
# Sessions without the requests of a stop handle

Muting a handle takes its requests out of a session: the one that is pending, and all those that the
registered callbacks would still make. It is what the session would be without them, and it is a
disguise. So guest code does exactly what it would do without the requests.

## Main definitions

* **`Session.mute`** — the session without the requests of a handle;
* **`Disguise.muted`** — muting is not noticed.
-/

namespace GuestBridge

variable {σ : Type}

namespace FunctionTable

/-- The table with callbacks that leave out stop requests. -/
def ignoring (ignores : StopHandle → Bool) (t : FunctionTable) : FunctionTable :=
  ⟨t.rows.map fun row => row.map (·.ignoring ignores)⟩

variable {ignores : StopHandle → Bool} {t : FunctionTable}

/-- Leaving out stop requests changes no id. -/
theorem lookup?_ignoring (id : FunctionId) :
    (t.ignoring ignores).lookup? id = (t.lookup? id).map (·.ignoring ignores) := by
  simp only [lookup?, ignoring, Array.getElem?_map]
  cases t.rows[id.number]? with
  | none => rfl
  | some row => rfl

theorem get?_ignoring (raw : Int32) :
    (t.ignoring ignores).get? raw = (t.get? raw).map (·.ignoring ignores) := by
  unfold get?
  cases FunctionId.ofRaw? raw with
  | none => rfl
  | some id => exact lookup?_ignoring id

/-- The rows stand in the same order under the same ids. -/
theorem toList_ignoring :
    (t.ignoring ignores).toList = t.toList.map fun row => (row.1, row.2.ignoring ignores) := by
  have hrow (entry : Option ExternalFunction × Nat) :
      row? (entry.1.map (·.ignoring ignores), entry.2) =
        (row? entry).map fun row => (row.1, row.2.ignoring ignores) := by
    unfold row?
    cases idOfRow? entry.2 with
    | none => rfl
    | some id =>
      cases entry.1 with
      | none => rfl
      | some f => rfl
  rw [toList_eq_filterMap, toList_eq_filterMap, ignoring, Array.toList_map, List.zipIdx_map,
    List.filterMap_map, List.map_filterMap]
  exact List.filterMap_congr fun entry _ => hrow entry

theorem size_ignoring : (t.ignoring ignores).size = t.size := by
  rw [size, toList_ignoring, List.length_map]
  rfl

end FunctionTable

namespace Session

/-- The session without the requests of a handle, past and future. -/
def mute (s : Session σ) (handle : StopHandle) : Session σ :=
  { s.clearStop handle with table := s.table.ignoring (· == handle) }

/-- A muted handle has no request pending, and every other handle has its own. -/
theorem stopRequested_mute (s : Session σ) (handle other : StopHandle) :
    (s.mute handle).stopRequested other = (other != handle && s.stopRequested other) :=
  s.stopRequested_clearStop handle other

/-- Requests of another handle are not muted. -/
theorem requestStop_mute (s : Session σ) {handle other : StopHandle} (apart : other ≠ handle) :
    (s.mute handle).requestStop other = (s.requestStop other).mute handle := by
  have hheard : (s.mute handle).stopRequested other = s.stopRequested other := by
    rw [stopRequested_mute, bne_iff_ne.mpr apart, Bool.true_and]
  unfold requestStop
  rw [hheard]
  split
  · rfl
  · simp only [mute, clearStop, List.filter_cons, ne_eq, apart, not_false_eq_true, decide_true,
      if_true]

/-- A request of the muted handle is not seen. -/
theorem mute_requestStop_self (s : Session σ) (handle : StopHandle) :
    (s.requestStop handle).mute handle = s.mute handle := by
  unfold requestStop
  split
  · rfl
  · -- Muting filters out the request that was just put in front of the others.
    simp only [mute, clearStop, List.filter_cons, ne_eq, not_true_eq_false, decide_false,
      Bool.false_eq_true, if_false]

end Session

/-- Muting a handle is not noticed. -/
def Disguise.muted (handle : StopHandle) : Disguise σ where
  wear s := s.mute handle
  ignores other := other == handle
  environment _ := rfl
  arena _ := rfl
  inExternalCall _ := rfl
  runState _ := rfl
  draws _ := rfl
  guest _ := rfl
  size _ := FunctionTable.size_ignoring
  get? _ id := FunctionTable.get?_ignoring id
  emit _ _ := rfl
  setArena _ _ := rfl
  setInExternalCall _ _ := rfl
  changeRunState _ _ := rfl
  setDraws _ _ := rfl
  setGuest _ _ := rfl
  requestStop s other hheard := s.requestStop_mute (beq_eq_false_iff_ne.mp hheard)
  ignore s other hignored := by
    rw [beq_iff_eq.mp hignored]
    exact s.mute_requestStop_self handle

end GuestBridge
