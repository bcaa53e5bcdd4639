import GuestBridge.Proofs.Session.Continuity
/-!
# What guest code and callbacks add to the trace

Guest code and callbacks append events to the trace and take none back. A report that the run state
has changed is never among these events, since only the host changes the run state. So the reports
of a session (`Session.notifications`) are the work of the host alone.

## Main statement

* **`Session.Stable.proceeds`** — guest code and callbacks keep the run state and the reports of it
  as they are.
-/

namespace GuestBridge

variable {σ : Type}

namespace Session

/-- The run states that were reported, in order. -/
def notifications (s : Session σ) : List RunState :=
  s.trace.toList.filterMap Event.stateChange?

/-- The session `t` comes from `s` by showing events that do not report a run state, without a
change to what belongs to the host. -/
structure Proceeds (s t : Session σ) : Prop extends s.Continues t where
  added : ∃ events, t.trace.toList = s.trace.toList ++ events ∧
    ∀ e ∈ events, e.stateChange? = none

namespace Proceeds

variable {s t u : Session σ}

/-- A change that leaves the trace alone shows nothing. -/
theorem of_trace (h : s.Continues t) (htrace : t.trace = s.trace) : s.Proceeds t :=
  ⟨h, [], by simp [htrace], nofun⟩

theorem refl (s : Session σ) : s.Proceeds s := .of_trace (.refl s) rfl

/-- Two changes show the events of the first and then those of the second. -/
theorem trans (hst : s.Proceeds t) (htu : t.Proceeds u) : s.Proceeds u where
  toContinues := hst.toContinues.trans htu.toContinues
  added := by
    obtain ⟨first, ht, hfirst⟩ := hst.added
    obtain ⟨second, hu, hsecond⟩ := htu.added
    -- No report is among the events of either change.
    refine ⟨first ++ second, by rw [hu, ht, List.append_assoc], fun e he => ?_⟩
    exact (List.mem_append.mp he).elim (hfirst e) (hsecond e)

theorem emit (s : Session σ) (e : Event) (he : e.stateChange? = none) : s.Proceeds (s.emit e) where
  toContinues := .emit s e
  added := by
    refine ⟨[e], by simp [Session.emit], fun e' he' => ?_⟩
    rwa [List.mem_singleton.mp he']

theorem requestStop (s : Session σ) (handle : StopHandle) : s.Proceeds (s.requestStop handle) := by
  refine .of_trace (.requestStop s handle) ?_
  unfold Session.requestStop
  split <;> rfl

/-- Events of the guest are not among the reports. -/
theorem notifications (h : s.Proceeds t) : t.notifications = s.notifications := by
  obtain ⟨events, htrace, hevents⟩ := h.added
  have hnone : events.filterMap Event.stateChange? = [] := List.filterMap_eq_nil_iff.mpr hevents
  rw [Session.notifications, htrace, List.filterMap_append, hnone, List.append_nil]
  rfl

end Proceeds

/-- Guest code and callbacks keep the run state and the reports of it as they are. -/
theorem Stable.proceeds : Stable (Proceeds : Session σ → Session σ → Prop) where
  refl := .refl
  trans := .trans
  emit := .emit
  requestStop := .requestStop
  write s offset bytes := .of_trace (Stable.continues.write s offset bytes) rfl
  grow h := .of_trace (Stable.continues.grow h) rfl
  setGuest s guest := .of_trace (Stable.continues.setGuest s guest) rfl
  setDraws s draws := .of_trace (Stable.continues.setDraws s draws) rfl
  guarded hidle hst := ⟨Stable.continues.guarded hidle hst.toContinues, hst.added⟩

theorem Proceeds.print (s : Session σ) (text : String) : s.Proceeds (s.print text) :=
  Stable.proceeds.print s text

end Session

end GuestBridge
