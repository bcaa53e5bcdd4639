import GuestBridge.Proofs.Nesting.Propagation
import GuestBridge.Proofs.Registry.Registration
/-!
# Registering many functions

A list of functions is registered by one registration after the other, each in the session that
the one before left. `Guest.Offers` says this without a loop: it relates a list to the functions
that are registered on the way, with their ids, where certain errors are passed over. A list is
offered to the end, or up to the first function whose registration fails with another error
(`Guest.offers_or_stops`). The two bulk registrations differ in what they pass over: nothing, or
what is not fatal. The crux is that the errors of a registration that are not fatal are the refusals
of the function (`Guest.isFatal_or_isRefusal_of_register`), since no error of a callback gets
through guest code.

That a function behind the stop is not offered is said of the guest. `Guest.askedWhile` lists the
calls of its allocator and of its registration, and these are all that the outcome depends on
(`Guest.registerWhile_congr`): a guest that answers them in the same way, and does anything else in
any other call, gives the same outcome.

## Main statement

* **`bulk_registration_stops_or_skips`** — both bulk registrations, of every list, with every guest.
-/

namespace GuestBridge

variable {σ : Type}

/-! ## Refusals, and calls of the guest -/

/-- The guest or the table refuses a single function. -/
def BridgeError.IsRefusal : BridgeError → Prop
  | registrationRejected _ _ | duplicateId _ | idOutOfRange _ => True
  | _ => False

theorem BridgeError.IsRefusal.not_fatal {e : BridgeError} (h : e.IsRefusal) :
    e.isFatal = false := by
  cases e with
  | registrationRejected _ _ | duplicateId _ | idOutOfRange _ => rfl
  | unknownFunction _ | tagMismatch _ _ _ _ | arityMismatch _ _ _ | frame _ _
  | unsupportedShape _ _ | allocationFailed _ _ | callback _ _ | reentrant _ | codec _ | noArena
  | guest _ => cases h

/-- A call of one of the guest's entry points in a registration. -/
inductive EntryCall
  | malloc (slots : Int32)
  | registerFunction (descriptor : Int32)

/-- Makes the call. -/
def EntryCall.run (g : Guest σ) : EntryCall → Action Trap σ Int32
  | malloc slots => g.run (g.entry.malloc slots)
  | registerFunction descriptor => g.run (g.entry.registerFunction descriptor)

/-- Two guests answer calls, each in its session, in the same way. -/
def Guest.Agrees (g g' : Guest σ) (calls : List (EntryCall × Session σ)) : Prop :=
  ∀ row ∈ calls, row.1.run g' row.2 = row.1.run g row.2

/-! ## The errors of a registration -/

namespace FunctionTable

/-- The table fails for the limit or for an id that is taken. -/
theorem isRefusal_of_insert {t : FunctionTable} {id : FunctionId} {f : ExternalFunction}
    {e : BridgeError} (h : t.insert id f = .error e) : e.IsRefusal := by
  unfold insert at h
  split at h
  · cases h
    trivial
  · split at h
    · cases h
      trivial
    · cases h

end FunctionTable

namespace Guest

variable {g : Guest σ} {s t u : Session σ} {f : ExternalFunction} {e : BridgeError}

/-- Guest code that fails does so with a fatal error: what is recoverable stays inside of it. -/
theorem isFatal_of_run {α : Type} {code : Code σ α} {trap : Trap}
    (h : g.run code s = .error trap t) : trap.toBridgeError.isFatal = true := by
  cases trap with
  | guest reason => rfl
  | host e =>
    have hraised : Layer.Raises g.entry.malloc g.reentry (.code code) s e :=
      (Layer.endsWith_iff callDepth).mp ⟨t, h⟩
    exact hraised.isFatal rfl

theorem isFatal_of_allocate {slots : Nat} (h : g.allocate slots s = .error e t) :
    e.isFatal = true :=
  (allocate_eq_error_iff.mp ⟨t, h⟩).isFatal rfl

theorem isFatal_of_allocateText {text : String} (h : g.allocateText text s = .error e t) :
    e.isFatal = true :=
  (allocateText_eq_error_iff.mp ⟨t, h⟩).isFatal rfl

/-- A description fails in an allocation only. -/
theorem isFatal_of_describe (h : g.describe f s = .error e t) : e.isFatal = true := by
  rcases Outcome.bind_eq_error_iff.mp h with h | ⟨name, v, -, h⟩
  · exact isFatal_of_allocateText h
  rcases Outcome.bind_eq_error_iff.mp h with h | ⟨p, w, hblock, h⟩
  · exact isFatal_of_allocate h
  · -- the descriptor fits the block that was granted for it
    have hfill := Allocation.writeMemory_of_allocate hblock
      (Descriptor.length_encode name f.signature)
    rw [Outcome.bind_apply, hfill] at h
    cases h

/-- Recording a function fails with a refusal of the table. -/
theorem isRefusal_of_record {id : FunctionId} (h : record id f s = .error e t) : e.IsRefusal := by
  unfold record at h
  cases hinsert : s.table.insert id f with
  | ok table =>
    rw [hinsert] at h
    cases h
  | error e' =>
    rw [hinsert] at h
    cases h
    exact FunctionTable.isRefusal_of_insert hinsert

/-- A registration that fails is refused, or fails with a fatal error. -/
theorem isFatal_or_isRefusal_of_register (h : g.register f s = .error e t) :
    e.isFatal = true ∨ e.IsRefusal := by
  rcases Outcome.bind_eq_error_iff.mp h with h | ⟨p, v, -, h⟩
  · exact .inl (isFatal_of_describe h)
  rcases Outcome.bind_eq_error_iff.mp h with h | ⟨raw, w, -, h⟩
  · obtain ⟨trap, hrun, rfl⟩ := Outcome.renamed_eq_error_iff.mp h
    exact .inl (isFatal_of_run hrun)
  · right
    cases hid : FunctionId.ofRaw? raw with
    | none =>
      simp only [hid] at h
      cases h
      trivial
    | some id =>
      simp only [hid] at h
      rcases Outcome.bind_eq_error_iff.mp h with h | ⟨_, x, _, h⟩
      · exact isRefusal_of_record h
      · cases h

/-! ## One registration after the other -/

/-- Offering functions from a session, where the errors in `skips` are passed over, registers some
of them under their ids and leads to another session. -/
inductive Offers (g : Guest σ) (skips : BridgeError → Prop) :
    Session σ → List ExternalFunction → List (FunctionId × ExternalFunction) → Session σ → Prop
  | done (s : Session σ) : Offers g skips s [] [] s
  | registered {f : ExternalFunction} {id : FunctionId} {rest : List ExternalFunction}
      {made : List (FunctionId × ExternalFunction)} {s t u : Session σ}
      (register : g.register f s = .ok id t) (offers : Offers g skips t rest made u) :
      Offers g skips s (f :: rest) ((id, f) :: made) u
  | skipped {f : ExternalFunction} {e : BridgeError} {rest : List ExternalFunction}
      {made : List (FunctionId × ExternalFunction)} {s t u : Session σ}
      (register : g.register f s = .error e t) (skips_e : skips e)
      (offers : Offers g skips t rest made u) : Offers g skips s (f :: rest) made u

section Offers

variable {skips skips' : BridgeError → Prop} {fs : List ExternalFunction}
  {made : List (FunctionId × ExternalFunction)}

/-- More errors may be passed over, if those that came up still are. -/
theorem Offers.mono (h : g.Offers skips s fs made t) (himp : ∀ e, skips e → skips' e) :
    g.Offers skips' s fs made t := by
  induction h with
  | done s => exact .done s
  | registered hregister _ ih => exact .registered hregister ih
  | skipped hregister hskips _ ih => exact .skipped hregister (himp _ hskips) ih

/-- The functions that are registered, in the order in which they are offered. -/
theorem Offers.sublist (h : g.Offers skips s fs made t) : (made.map Prod.snd).Sublist fs := by
  induction h with
  | done s => exact .slnil
  | registered _ _ ih => exact ih.cons_cons _
  | skipped _ _ _ ih => exact ih.cons _

/-- If nothing is passed over, each function is registered. -/
theorem Offers.functions (h : g.Offers (fun _ => False) s fs made t) : made.map Prod.snd = fs := by
  induction h with
  | done s => rfl
  | registered _ _ ih => rw [List.map_cons, ih]
  | skipped _ hskips _ _ => exact hskips.elim

/-- The rows that are added to the table. -/
theorem Offers.rows (h : g.Offers skips s fs made t) :
    t.table.toList.Perm (s.table.toList ++ made) := by
  induction h with
  | done s => rw [List.append_nil]
  | @registered f id rest made s t u hregister _ ih =>
    have hadded : t.table.toList.Perm (s.table.toList ++ [(id, f)]) :=
      FunctionTable.insert_perm (insert_of_register hregister)
    have happend := ih.trans (hadded.append_right made)
    rwa [List.append_assoc, List.singleton_append] at happend
  | skipped hregister _ _ ih => rwa [table_of_register_error hregister] at ih

/-- A registration that fails after them adds no row. -/
theorem Offers.rows_of_error (h : g.Offers skips s fs made t)
    (hregister : g.register f t = .error e u) : u.table.toList.Perm (s.table.toList ++ made) := by
  rw [table_of_register_error hregister]
  exact h.rows

/-- Every list is offered to its end, or up to the first error that is not passed over. Induction on
the list. -/
theorem offers_or_stops (g : Guest σ) (skips : BridgeError → Prop) (fs : List ExternalFunction)
    (s : Session σ) :
    (∃ made t, g.Offers skips s fs made t) ∨
      ∃ before k after made t e u, fs = before ++ k :: after ∧ g.Offers skips s before made t ∧
        g.register k t = .error e u ∧ ¬ skips e := by
  induction fs generalizing s with
  | nil => exact .inl ⟨[], s, .done s⟩
  | cons f rest ih =>
    cases hregister : g.register f s with
    | ok id t =>
      rcases ih t with ⟨made, u, hoffers⟩ | ⟨before, k, after, made, u, e, v, rfl, hoffers, hstop⟩
      · exact .inl ⟨_, u, .registered hregister hoffers⟩
      · exact .inr ⟨f :: before, k, after, _, u, e, v, rfl, .registered hregister hoffers, hstop⟩
    | error e t =>
      by_cases hskips : skips e
      · rcases ih t with ⟨made, u, hoffers⟩ | ⟨before, k, after, made, u, e, v, rfl, hoffers, hstop⟩
        · exact .inl ⟨_, u, .skipped hregister hskips hoffers⟩
        · exact .inr ⟨f :: before, k, after, _, u, e, v, rfl, .skipped hregister hskips hoffers,
            hstop⟩
      · exact .inr ⟨[], f, rest, [], s, e, t, rfl, .done s, hregister, hskips⟩

end Offers

/-! ## The loop -/

section Loop

variable {goesOn : BridgeError → Bool} {fs before after : List ExternalFunction}
  {k : ExternalFunction} {made : List (FunctionId × ExternalFunction)}

/-- The loop offers the list to its end and returns the ids. -/
theorem registerWhile_of_offers (h : g.Offers (goesOn · = true) s fs made t) :
    g.registerWhile goesOn fs s = .ok (made.map Prod.fst) t := by
  induction h with
  | done s => rfl
  | registered hregister _ ih =>
    rw [registerWhile]
    simp only [hregister]
    exact Outcome.map_eq_ok_iff.mpr ⟨_, ih, rfl⟩
  | skipped hregister hskips _ ih =>
    rw [registerWhile]
    simp only [hregister, hskips, if_true]
    exact ih

/-- The loop ends with the first error that is not passed over, whatever comes behind it. -/
theorem registerWhile_of_stop (h : g.Offers (goesOn · = true) s before made t)
    (hstop : g.register k t = .error e u) (hends : goesOn e = false)
    (after : List ExternalFunction) :
    g.registerWhile goesOn (before ++ k :: after) s = .error e u := by
  induction h with
  | done s =>
    rw [List.nil_append, registerWhile]
    simp only [hstop, hends, Bool.false_eq_true, if_false]
  | registered hregister _ ih =>
    rw [List.cons_append, registerWhile]
    simp only [hregister]
    exact Outcome.map_eq_error_iff.mpr (ih hstop)
  | skipped hregister hskips _ ih =>
    rw [List.cons_append, registerWhile]
    simp only [hregister, hskips, if_true]
    exact ih hstop

end Loop

/-! ## What the guest is asked -/

/-- An allocation that is too large does not reach the guest. -/
def askedForSlots (slots : Nat) (s : Session σ) : List (EntryCall × Session σ) :=
  if Allocation.maxSlots < slots then [] else [(.malloc (Int32.ofNat slots), s)]

/-- What the guest is asked in a registration: for a block for the name, for one for the descriptor,
and for an id. -/
def asked (g : Guest σ) (f : ExternalFunction) (s : Session σ) : List (EntryCall × Session σ) :=
  askedForSlots (Slots.count f.name) s ++
    match g.allocateText f.name s with
    | .error _ _ => []
    | .ok _ t =>
      askedForSlots (Descriptor.slots f.signature) t ++
        match g.describe f s with
        | .error _ _ => []
        | .ok p u => [(.registerFunction p.toInt32, u)]

/-- What the guest is asked in the registrations of `registerWhile`. -/
def askedWhile (g : Guest σ) (goesOn : BridgeError → Bool) :
    List ExternalFunction → Session σ → List (EntryCall × Session σ)
  | [], _ => []
  | f :: rest, s =>
    g.asked f s ++
      match g.register f s with
      | .ok _ t => g.askedWhile goesOn rest t
      | .error e t => if goesOn e then g.askedWhile goesOn rest t else []

/-- What the guest is asked if each function is offered, whatever becomes of those before. -/
def askedEach (g : Guest σ) : List ExternalFunction → Session σ → List (EntryCall × Session σ) :=
  g.askedWhile fun _ => true

section Asked

variable {g' : Guest σ}

/-- An allocation depends on the one answer of the allocator. -/
theorem allocate_congr {slots : Nat} (h : g.Agrees g' (askedForSlots slots s)) :
    g'.allocate slots s = g.allocate slots s := by
  unfold allocate
  rw [Allocation.allocate_eq, Allocation.allocate_eq]
  by_cases hmax : Allocation.maxSlots < slots
  · rw [if_pos hmax, if_pos hmax]
  · rw [askedForSlots, if_neg hmax] at h
    have hanswer : g'.run (g'.entry.malloc (Int32.ofNat slots)) s =
        g.run (g.entry.malloc (Int32.ofNat slots)) s := h _ List.mem_cons_self
    rw [if_neg hmax, if_neg hmax, hanswer]

/-- Writing a text asks the guest for its slots and nothing else. -/
theorem allocateText_congr {text : String} (h : g.Agrees g' (askedForSlots (Slots.count text) s)) :
    g'.allocateText text s = g.allocateText text s := by
  have hallocate := allocate_congr h
  unfold allocate at hallocate
  unfold allocateText
  rw [Allocation.writeText_eq, Allocation.writeText_eq, hallocate]

/-- A registration depends on the answers to what it asks. -/
theorem register_congr (h : g.Agrees g' (g.asked f s)) : g'.register f s = g.register f s := by
  unfold asked at h
  have hname := allocateText_congr fun row hrow => h row (List.mem_append_left _ hrow)
  -- The two allocations come first; what the second one asks stands in the list behind the first.
  have hdescribe : g'.describe f s = g.describe f s := by
    unfold describe
    rw [Outcome.bind_apply, Outcome.bind_apply, hname]
    cases hn : g.allocateText f.name s with
    | error e t => rfl
    | ok name t =>
      rw [hn] at h
      have hblock := allocate_congr fun row hrow =>
        h row (List.mem_append_right _ (List.mem_append_left _ hrow))
      dsimp only
      rw [Outcome.bind_apply, Outcome.bind_apply, hblock]
  unfold register
  rw [Outcome.bind_apply, Outcome.bind_apply, hdescribe]
  cases hd : g.describe f s with
  | error e t => rfl
  | ok p u =>
    cases hn : g.allocateText f.name s with
    | error e t =>
      unfold describe at hd
      rw [Outcome.bind_apply, hn] at hd
      cases hd
    | ok name t =>
      rw [hn] at h
      dsimp only at h
      rw [hd] at h
      have hid : g'.run (g'.entry.registerFunction p.toInt32) u =
          g.run (g.entry.registerFunction p.toInt32) u :=
        h (.registerFunction p.toInt32, u)
          (List.mem_append_right _ (List.mem_append_right _ List.mem_cons_self))
      dsimp only
      rw [Outcome.bind_apply, Outcome.bind_apply, Action.mapError, Action.mapError, hid]

/-- The outcome depends on nothing that the guest is not asked. -/
theorem registerWhile_congr {goesOn : BridgeError → Bool} {fs : List ExternalFunction}
    (h : g.Agrees g' (g.askedWhile goesOn fs s)) :
    g'.registerWhile goesOn fs s = g.registerWhile goesOn fs s := by
  induction fs generalizing s with
  | nil => rfl
  | cons f rest ih =>
    rw [askedWhile] at h
    have hf := register_congr fun row hrow => h row (List.mem_append_left _ hrow)
    have hrest := fun row hrow => h row (List.mem_append_right _ hrow)
    rw [registerWhile, registerWhile]
    simp only [hf]
    -- both guests go on in the same session, or both stop
    cases hregister : g.register f s with
    | ok id t =>
      rw [hregister] at hrest
      dsimp only
      show (g'.registerWhile goesOn rest >>= fun ids => pure (id :: ids)) t =
        (g.registerWhile goesOn rest >>= fun ids => pure (id :: ids)) t
      rw [Outcome.bind_apply, Outcome.bind_apply, ih hrest]
    | error e t =>
      rw [hregister] at hrest
      dsimp only at hrest ⊢
      by_cases hgoes : goesOn e = true
      · rw [if_pos hgoes] at hrest
        rw [if_pos hgoes, if_pos hgoes]
        exact ih hrest
      · rw [if_neg hgoes, if_neg hgoes]

end Asked

section Asked

variable {goesOn : BridgeError → Bool} {fs before : List ExternalFunction} {k : ExternalFunction}
  {made : List (FunctionId × ExternalFunction)}

/-- Nothing is asked behind the stop. -/
theorem askedWhile_of_stop (h : g.Offers (goesOn · = true) s before made t)
    (hstop : g.register k t = .error e u) (hends : goesOn e = false)
    (after : List ExternalFunction) :
    g.askedWhile goesOn (before ++ k :: after) s = g.askedEach (before ++ [k]) s := by
  unfold askedEach
  induction h with
  | done s =>
    simp only [List.nil_append, askedWhile, hstop, hends, Bool.false_eq_true, if_false, if_true,
      List.append_nil]
  | registered hregister _ ih =>
    simp only [List.cons_append, askedWhile, hregister, ih hstop]
  | skipped hregister hskips _ ih =>
    simp only [List.cons_append, askedWhile, hregister, hskips, if_true, ih hstop]

/-- Any guest that answers up to the stop in the same way stops there. -/
theorem registerWhile_of_agrees {g' : Guest σ} (h : g.Offers (goesOn · = true) s before made t)
    (hstop : g.register k t = .error e u) (hends : goesOn e = false)
    (after : List ExternalFunction) (hagrees : g.Agrees g' (g.askedEach (before ++ [k]) s)) :
    g'.registerWhile goesOn (before ++ k :: after) s = .error e u := by
  rw [← askedWhile_of_stop h hstop hends after] at hagrees
  calc g'.registerWhile goesOn (before ++ k :: after) s
      = g.registerWhile goesOn (before ++ k :: after) s := registerWhile_congr hagrees
    _ = .error e u := registerWhile_of_stop h hstop hends after

end Asked

end Guest

/-! ## Both bulk registrations -/

/-- **Bulk registration keeps a prefix, best-effort registration what was accepted.** For every
guest, every list of functions and every session:

* **stopping** — either each function is registered in turn, and then both bulk registrations return
  the ids in the order of the list, one for each function, and leave the same session. Or there is a
  first function `k` whose registration fails, after those of the functions before it. Then
  `registerAll` fails with the error of `k`, and the rows that were added to the table are those of
  the functions before `k`;
* **skipping** — either each function is registered or refused, and then `registerAvailable` returns
  the ids of those that are registered, in the order of the list, and these are the rows that were
  added. Or there is a first function `k` whose registration fails with a fatal error, and
  `registerAvailable` fails with it, keeping the rows added before;
* where a bulk registration stops at `k`, it asks the guest for nothing more. Its outcome is the
  same for any functions behind `k` and for any guest that answers the calls up to there in the same
  way;
* an error of a registration is not fatal exactly if it is a refusal.

To install what a provider offers is to register the list of its functions. -/
theorem bulk_registration_stops_or_skips (g : Guest σ) (fs : List ExternalFunction)
    (s : Session σ) :
    ((∃ made t, g.Offers (fun _ => False) s fs made t ∧
        g.registerAll fs s = .ok (made.map Prod.fst) t ∧
        g.registerAvailable fs s = .ok (made.map Prod.fst) t ∧
        made.map Prod.snd = fs ∧ t.table.toList.Perm (s.table.toList ++ made)) ∨
      (∃ before k after made t e u, fs = before ++ k :: after ∧
        g.Offers (fun _ => False) s before made t ∧ g.register k t = .error e u ∧
        g.registerAll fs s = .error e u ∧
        made.map Prod.snd = before ∧ u.table.toList.Perm (s.table.toList ++ made) ∧
        ∀ after' (g' : Guest σ), g.Agrees g' (g.askedEach (before ++ [k]) s) →
          g'.registerAll (before ++ k :: after') s = .error e u)) ∧
    ((∃ made t, g.Offers BridgeError.IsRefusal s fs made t ∧
        g.registerAvailable fs s = .ok (made.map Prod.fst) t ∧
        (made.map Prod.snd).Sublist fs ∧ t.table.toList.Perm (s.table.toList ++ made)) ∨
      (∃ before k after made t e u, fs = before ++ k :: after ∧
        g.Offers BridgeError.IsRefusal s before made t ∧ g.register k t = .error e u ∧
        e.isFatal = true ∧ g.registerAvailable fs s = .error e u ∧
        (made.map Prod.snd).Sublist before ∧ u.table.toList.Perm (s.table.toList ++ made) ∧
        ∀ after' (g' : Guest σ), g.Agrees g' (g.askedEach (before ++ [k]) s) →
          g'.registerAvailable (before ++ k :: after') s = .error e u)) ∧
    (∀ f t e u, g.register f t = .error e u → (e.isFatal = false ↔ e.IsRefusal)) := by
  -- a list that is offered without any failure is offered whatever is passed over
  have hnever {fs : List ExternalFunction} {made : List (FunctionId × ExternalFunction)}
      {t : Session σ} (goesOn : BridgeError → Bool) (h : g.Offers (fun _ => False) s fs made t) :
      g.Offers (goesOn · = true) s fs made t := h.mono fun _ hno => hno.elim
  refine ⟨?stopping, ?skipping, ?errors⟩
  case stopping =>
    simp only [Guest.registerAll_eq, Guest.registerAvailable_eq]
    rcases g.offers_or_stops (fun _ => False) fs s with
      ⟨made, t, h⟩ | ⟨before, k, after, made, t, e, u, rfl, h, hstop, -⟩
    · exact .inl ⟨made, t, h, Guest.registerWhile_of_offers (hnever _ h),
        Guest.registerWhile_of_offers (hnever _ h), h.functions, h.rows⟩
    · have hbefore := hnever (fun _ => false) h
      exact .inr ⟨before, k, after, made, t, e, u, rfl, h, hstop,
        Guest.registerWhile_of_stop hbefore hstop rfl after, h.functions, h.rows_of_error hstop,
        fun after' g' => Guest.registerWhile_of_agrees hbefore hstop rfl after'⟩
  case skipping =>
    -- refusals are among the errors that the best-effort loop passes over
    have hrefusals {fs : List ExternalFunction} {made : List (FunctionId × ExternalFunction)}
        {t : Session σ} (h : g.Offers BridgeError.IsRefusal s fs made t) :
        g.Offers ((fun e => !e.isFatal) · = true) s fs made t :=
      h.mono fun e he => by simp only [he.not_fatal, Bool.not_false]
    simp only [Guest.registerAvailable_eq]
    rcases g.offers_or_stops BridgeError.IsRefusal fs s with
      ⟨made, t, h⟩ | ⟨before, k, after, made, t, e, u, rfl, h, hstop, hno⟩
    · exact .inl ⟨made, t, h, Guest.registerWhile_of_offers (hrefusals h), h.sublist, h.rows⟩
    · -- the error was not passed over, so it is no refusal
      have hfatal : e.isFatal = true :=
        (Guest.isFatal_or_isRefusal_of_register hstop).resolve_right hno
      have hends : (!e.isFatal) = false := by rw [hfatal, Bool.not_true]
      have hbefore := hrefusals h
      exact .inr ⟨before, k, after, made, t, e, u, rfl, h, hstop, hfatal,
        Guest.registerWhile_of_stop hbefore hstop hends after, h.sublist, h.rows_of_error hstop,
        fun after' g' => Guest.registerWhile_of_agrees hbefore hstop hends after'⟩
  case errors =>
    intro f t e u hregister
    refine ⟨fun hrecoverable => ?_, BridgeError.IsRefusal.not_fatal⟩
    rcases Guest.isFatal_or_isRefusal_of_register hregister with hfatal | hrefusal
    · rw [hrecoverable] at hfatal
      cases hfatal
    · exact hrefusal

/-! ## Guests that do not accept every function -/

/-- The guest that answers each registration by the next of its numbers, but grants no block once they
are used up. -/
def withering : Guest (List Int32) :=
  { assigning with
    entry := { assigning.entry with
      malloc := fun _ => do
        let answers ← Code.getState
        pure (if answers.isEmpty then 0 else 1024) } }

/-- The ids and names in a table. -/
def FunctionTable.names (table : FunctionTable) : List (Nat × String) :=
  table.toList.map fun (id, f) => (id.number, f.name)

/-- The first function gets an id, and the second the same one. -/
example :
    (match assigning.registerAll [inert "A", inert "B", inert "C"] disorderly with
      | .ok _ _ => none
      | .error e t => some (e, t.table.names)) =
    some (.duplicateId 7, [(7, "A")]) := by decide +kernel

/-- A best-effort registration passes over an id that is taken, a refusal and a number beyond the
limit, and still offers the last function. -/
example :
    (match assigning.registerAvailable [inert "A", inert "B", inert "C", inert "D", inert "E"]
        disorderly with
      | .ok ids t => some (ids.map FunctionId.number, t.table.names)
      | .error _ _ => none) =
    some ([7, 3], [(3, "E"), (7, "A")]) := by decide +kernel

/-- It passes over the second function, too, but not over the third, for whose name there is no
block. The fourth is not offered. -/
example :
    (match withering.registerAvailable [inert "A", inert "B", inert "C", inert "D"]
        { disorderly with guest := [7, 7] } with
      | .ok _ _ => none
      | .error e t => some (e, t.table.names)) =
    some (.allocationFailed 2 0, [(7, "A")]) := by decide +kernel

end GuestBridge
