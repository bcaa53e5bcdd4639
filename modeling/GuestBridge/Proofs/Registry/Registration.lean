import GuestBridge.Guest.Boot
import GuestBridge.Proofs.Nesting.Moments
import GuestBridge.Proofs.Registry.Table
import GuestBridge.Proofs.Schedule.History
/-!
# Registrations over a whole session

The guest chooses the ids, and nothing obliges it to choose well: it may repeat an id, refuse, or
answer any number. What keeps the table in order is that a registration either records one function
under a vacant id within the limit, or leaves the table as it is (`Guest.register_cases`), and that
nothing else changes the table.

`Scheduler.registrations` lists what an operation of the host registers, and `Scheduler.made` what a
history registers. The invariant is that recording this list in the table at the beginning gives the
table at the end (`insertAll_made`); it is kept by every operation (`insertAll_registrations`). All
else is a property of `FunctionTable.insertAll`.

## Main statement

* **`registrations_last`** — the ids of all successful registrations of a session are distinct and
  within the limit, and each finds its own function from then on.
-/

namespace GuestBridge

variable {σ : Type}

/-! ## Lists of functions -/

namespace Guest

variable {g : Guest σ} {goesOn : BridgeError → Bool} {f : ExternalFunction}
  {fs : List ExternalFunction} {id : FunctionId} {ids : List FunctionId} {e : BridgeError}
  {s t : Session σ}

/-- A registration that succeeds has recorded its function in the table that it found. -/
theorem insert_of_register (h : g.register f s = .ok id t) :
    s.table.insert id f = .ok t.table := by
  rcases g.register_cases f s with ⟨id', u, table, -, hinsert, hok⟩ | ⟨e, u, -, herror⟩
  · rw [hok] at h
    cases h
    exact hinsert
  · rw [herror] at h
    cases h

/-- A registration that fails leaves the table as it is. -/
theorem table_of_register_error (h : g.register f s = .error e t) : t.table = s.table := by
  rcases g.register_cases f s with ⟨id', u, table, -, -, hok⟩ | ⟨e', u, hu, herror⟩
  · rw [hok] at h
    cases h
  · rw [herror] at h
    cases h
    exact hu.table

/-- Registers functions in order. After one that fails, it goes on if the error allows it. -/
def registerWhile (g : Guest σ) (goesOn : BridgeError → Bool) :
    List ExternalFunction → Action BridgeError σ (List FunctionId)
  | [] => pure []
  | f :: rest => fun s =>
    match g.register f s with
    | .ok id t => ((id :: ·) <$> g.registerWhile goesOn rest) t
    | .error e t => if goesOn e then g.registerWhile goesOn rest t else .error e t

/-- A bulk registration ends with the first error. -/
theorem registerAll_eq (g : Guest σ) (fs : List ExternalFunction) :
    g.registerAll fs = g.registerWhile (fun _ => false) fs := by
  induction fs with
  | nil => rfl
  | cons f rest ih =>
    funext s
    simp only [registerAll, registerWhile, Outcome.bind_apply, ih]
    cases g.register f s with
    | ok id t => rfl
    | error e t => rfl

/-- A best-effort registration goes on after errors that are not fatal. -/
theorem registerAvailable_eq (g : Guest σ) (fs : List ExternalFunction) :
    g.registerAvailable fs = g.registerWhile (fun e => !e.isFatal) fs := by
  induction fs with
  | nil => rfl
  | cons f rest ih =>
    funext s
    simp only [registerAvailable, registerWhile, ih]
    cases g.register f s with
    | ok id t => rfl
    | error e t =>
      by_cases hfatal : e.isFatal = true
      · simp only [hfatal, if_true, Bool.not_true, Bool.false_eq_true, if_false]
      · simp only [hfatal, Bool.false_eq_true, if_false, Bool.not_false, if_true]

/-- The functions that `registerWhile` registers, with their ids. -/
def registered (g : Guest σ) (goesOn : BridgeError → Bool) :
    List ExternalFunction → Session σ → List (FunctionId × ExternalFunction)
  | [], _ => []
  | f :: rest, s =>
    match g.register f s with
    | .ok id t => (id, f) :: g.registered goesOn rest t
    | .error e t => if goesOn e then g.registered goesOn rest t else []

/-- Each function that is registered is recorded, and nothing else is. -/
theorem insertAll_registered (g : Guest σ) (goesOn : BridgeError → Bool)
    (fs : List ExternalFunction) (s : Session σ) :
    s.table.insertAll (g.registered goesOn fs s) =
      .ok (Outcome.state (g.registerWhile goesOn fs s)).table := by
  induction fs generalizing s with
  | nil => rfl
  | cons f rest ih =>
    unfold registered registerWhile
    cases h : g.register f s with
    | ok id t =>
      dsimp only
      rw [FunctionTable.insertAll_cons, insert_of_register h, Outcome.state_map]
      exact ih t
    | error e t =>
      dsimp only
      rw [← table_of_register_error h]
      cases goesOn e with
      | true => exact ih t
      | false => rfl

/-- The ids that are returned are those of the registrations. -/
theorem ids_of_registerWhile (h : g.registerWhile goesOn fs s = .ok ids t) :
    (g.registered goesOn fs s).map Prod.fst = ids := by
  induction fs generalizing s ids with
  | nil =>
    cases h
    rfl
  | cons f rest ih =>
    unfold registerWhile at h
    unfold registered
    cases hf : g.register f s with
    | ok id u =>
      rw [hf] at h
      obtain ⟨more, hmore, rfl⟩ := Outcome.map_eq_ok_iff.mp h
      rw [List.map_cons, ih hmore]
    | error e u =>
      rw [hf] at h
      cases hgoes : goesOn e with
      | true =>
        simp only [hgoes, if_true] at h ⊢
        exact ih h
      | false =>
        simp only [hgoes] at h
        cases h

end Guest

/-! ## Histories -/

namespace Scheduler

/-- The functions that an operation of the host registers, with their ids. -/
def registrations (c : Scheduler σ) :
    HostOperation → Session σ → List (FunctionId × ExternalFunction)
  | .register f, s => c.guest.registered (fun _ => false) [f] s
  | .registerAll fs, s => c.guest.registered (fun _ => false) fs s
  | .registerAvailable fs, s => c.guest.registered (fun e => !e.isFatal) fs s
  | _, _ => []

/-- The functions that a sequence of operations registers, with their ids. -/
def made (c : Scheduler σ) : List HostOperation → Session σ → List (FunctionId × ExternalFunction)
  | [], _ => []
  | op :: rest, s => c.registrations op s ++ c.made rest (c.after op s)

variable {c : Scheduler σ} {op : HostOperation}

/-- Guest code, callbacks and changes of the run state do not touch the table. -/
theorem lasting_table (table : FunctionTable) :
    Session.Lasting fun s : Session σ => s.table = table where
  continues hs hst := hst.table.trans hs
  setRunState state hs := by
    unfold Session.setRunState
    split
    · exact hs
    · exact hs

/-- Operations that are no registrations leave the table as it is. -/
theorem table_after (hop : op.isRegistration = false) (s : Session σ) :
    (c.after op s).table = s.table := by
  -- of all operations only a registration may record a function
  refine after_keeps (lasting_table s.table).durable (fun h => ?_) (fun _ _ hu => hu) rfl
  rw [hop] at h
  cases h

/-- What an operation registers is recorded, and nothing else is. -/
theorem insertAll_registrations (c : Scheduler σ) (op : HostOperation) (s : Session σ) :
    s.table.insertAll (c.registrations op s) = .ok (c.after op s).table := by
  -- Three operations register: one function, or a list by either loop.
  cases op with
  | register f =>
    have hone : Outcome.state (c.guest.registerWhile (fun _ => false) [f] s) =
        Outcome.state (c.guest.register f s) := by
      unfold Guest.registerWhile
      cases c.guest.register f s with
      | ok id t => exact Outcome.state_map _ _ _
      | error e t => rfl
    rw [registrations, Guest.insertAll_registered, hone]
    rfl
  | registerAll fs =>
    rw [registrations, Guest.insertAll_registered, ← Guest.registerAll_eq]
    rfl
  | registerAvailable fs =>
    rw [registrations, Guest.insertAll_registered, ← Guest.registerAvailable_eq]
    rfl
  | allocate _ | allocateText _ | writeMemory _ _ | setSource _ _ _ | executeOneStep | call _ _
  | setRunState _ | requestStop _ | start | halt | runBatch | runUntil _ =>
    rw [table_after rfl]
    rfl

/-- What a history registers is recorded, and nothing else is. -/
theorem insertAll_made (c : Scheduler σ) (ops : List HostOperation) (s : Session σ) :
    s.table.insertAll (c.made ops s) = .ok (c.history ops s).table := by
  induction ops generalizing s with
  | nil => rfl
  | cons op rest ih =>
    rw [made, FunctionTable.insertAll_append, insertAll_registrations]
    exact ih (c.after op s)

end Scheduler

/-- Guest code and callbacks find the table as it was when the guest was called. -/
theorem Guest.table_of_moments {α : Type} (g : Guest σ) (code : Code σ α) (s : Session σ) :
    ∀ m ∈ g.moments code s, m.session.table = s.table := by
  refine g.moments_induction (P := fun _ t => t.table = s.table) ?_ code s rfl
  exact {
    keeps := fun ht htu => htu.table.trans ht
    guest := fun _ ht => ht
    callback := fun _ ht => ht
    entry := fun ht _ => ⟨ht, ht⟩ }

/-! ## The table of a booted guest -/

section Within

variable {R : Session σ → Session σ → Prop} (hR : Session.Stable R)
include hR

/-- Announcing the heap is guest code, or nothing. -/
theorem Guest.announceHeap_within (g : Guest σ) : Action.Within R g.announceHeap := by
  unfold Guest.announceHeap
  split
  · refine .bind hR (.ofExcept hR _) fun code => .bind hR hR.refl fun s => ?_
    exact (g.run_within hR _).mapError _
  · exact .pure hR ()

/-- Starting a guest is a banner and guest code. -/
theorem Guest.start_within (g : Guest σ) : Action.Within R g.start := by
  unfold Guest.start
  have hown : Action.Within R (do
      g.announceHeap
      (g.run g.entry.initializer).mapError RuntimeError.ofTrap) :=
    .bind hR (g.announceHeap_within hR) fun _ => (g.run_within hR _).mapError _
  cases g.settings.banner with
  | none => exact hown
  | some banner =>
    exact .bind hR (fun s => hR.trans (hR.print s banner) (hR.emit _ .vsync rfl)) fun _ => hown

end Within

/-- Nothing is registered when a guest has booted. -/
theorem Module.table_of_boot {m : Module} {environment : Environment} {settings : Settings}
    {extra : List (String × String × FuncType)} {g : Guest m.State} {s : Session m.State}
    (h : m.boot settings extra (m.session environment settings) = .ok g s) : s.table = .empty := by
  obtain ⟨g', t, hlink, hstart⟩ := Outcome.bind_eq_ok_iff.mp h
  obtain ⟨_, u, hstarted, hreturn⟩ := Outcome.bind_eq_ok_iff.mp hstart
  have hcontinues := g'.start_within .continues t
  rw [hstarted] at hcontinues
  unfold Action.ofExcept at hlink
  cases hlinked : m.instantiate settings extra with
  | error e =>
    rw [hlinked] at hlink
    cases hlink
  | ok g'' =>
    rw [hlinked] at hlink
    cases hlink
    cases hreturn
    exact hcontinues.table

open Scheduler

/-- **Registrations last.** For every guest and every history of operations on a session that begins
with an empty table: the successful registrations have distinct ids from 1 to 65535, the table holds
their functions and no others, and whatever the host does later, each id finds the function that was
registered under it. Guest code and callbacks find the same table throughout. A registration that
fails leaves the table as it is, and so does every operation that is no registration. The ids that
are returned are those of the registrations, in order. -/
theorem registrations_last (c : Scheduler σ) (ops : List HostOperation) (s : Session σ)
    (fresh : s.table = .empty) :
    let made := c.made ops s
    let t := c.history ops s
    (made.map Prod.fst).Nodup ∧
    (∀ row ∈ made, 1 ≤ row.1.number ∧ row.1.number ≤ 65535) ∧
    t.table.size = made.length ∧
    t.table.toList.Perm made ∧
    (∀ row ∈ made, ∀ later,
      (c.history later t).table.get? row.1.toInt32 = some row.2) ∧
    (∀ (α : Type) (code : Code σ α) (u : Session σ),
      (∀ m ∈ c.guest.moments code u, m.session.table = u.table) ∧
      (Outcome.state (c.guest.run code u)).table = u.table) ∧
    (∀ f u e v, c.guest.register f u = .error e v → v.table = u.table) ∧
    (∀ op u, op.isRegistration = false → (c.after op u).table = u.table) ∧
    (∀ f u id v, c.guest.register f u = .ok id v →
      c.registrations (.register f) u = [(id, f)]) ∧
    (∀ fs u ids v, c.guest.registerAll fs u = .ok ids v →
      (c.registrations (.registerAll fs) u).map Prod.fst = ids) ∧
    (∀ fs u ids v, c.guest.registerAvailable fs u = .ok ids v →
      (c.registrations (.registerAvailable fs) u).map Prod.fst = ids) := by
  intro made t
  -- The whole history is one sequence of recordings, so what is left are properties of the table.
  have hmade : FunctionTable.empty.insertAll made = .ok t.table := by
    rw [← fresh]
    exact c.insertAll_made ops s
  have hperm : t.table.toList.Perm made := FunctionTable.insertAll_perm hmade
  have hle := FunctionTable.insertAll_le hmade
  refine ⟨?_, fun row hrow => ⟨row.1.positive, hle row hrow⟩, hperm.length_eq, hperm,
    fun row hrow later => ?_, fun α code u => ⟨c.guest.table_of_moments code u,
      (c.guest.run_continuous code u).table⟩, fun f u e v h => Guest.table_of_register_error h,
    fun op u hop => table_after hop u, fun f u id v h => ?_, fun fs u ids v h => ?_,
    fun fs u ids v h => ?_⟩
  · exact (hperm.map Prod.fst).nodup_iff.mp FunctionTable.nodup_ids
  · rw [FunctionTable.get?_toInt32 (hle row hrow)]
    refine FunctionTable.lookup?_insertAll (c.insertAll_made later t) ?_
    exact FunctionTable.mem_toList_iff.mp (hperm.mem_iff.mpr hrow)
  · simp only [registrations, Guest.registered, h]
  · rw [Guest.registerAll_eq] at h
    exact Guest.ids_of_registerWhile h
  · rw [Guest.registerAvailable_eq] at h
    exact Guest.ids_of_registerWhile h

/-! ## A guest that assigns ids from a list -/

/-- A guest that answers registrations by the numbers in its state, one after the other. -/
def assigning : Guest (List Int32) where
  entry :=
    { malloc := fun _ => pure 1024
      initializer := pure ()
      setSource := fun _ _ _ => pure 1
      executeOneStep := pure 1
      registerFunction := fun _ => do
        match ← Code.getState with
        | [] => pure 0
        | answer :: rest =>
          Code.setState rest
          pure answer }
  exports := []
  settings := .default

/-- A session in which it repeats an id, refuses, and answers a number beyond the limit. -/
def disorderly : Session (List Int32) := .initial ⟨none, 0, 0, fun _ => ⟨0⟩⟩ 1 [7, 7, 0, 70000, 3]

/-- A function without arguments that does nothing. -/
def inert (name : String) : ExternalFunction := .procedure0 name (pure ())

/-- Of five functions, the first and the last are registered, and a batch later they are found. -/
theorem registrations_last_disorderly :
    let c : Scheduler (List Int32) := ⟨assigning, 1, 0, ⟨0⟩⟩
    let ops := [.registerAvailable [inert "A", inert "B", inert "C", inert "D", inert "E"]]
    let made := c.made ops disorderly
    let t := c.history ops disorderly
    disorderly.table = .empty ∧
    made.map (fun row => (row.1.number, row.2.name)) = [(7, "A"), (3, "E")] ∧
    t.table.size = 2 ∧
    ∀ row ∈ made, (c.history [.runBatch] t).table.get? row.1.toInt32 = some row.2 := by
  intro c ops made t
  have hmade : made.map (fun row => (row.1.number, row.2.name)) = [(7, "A"), (3, "E")] := by
    decide +kernel
  have hlength := congrArg List.length hmade
  rw [List.length_map] at hlength
  obtain ⟨-, -, hsize, -, hfound, -⟩ := registrations_last c ops disorderly rfl
  exact ⟨rfl, hmade, hsize.trans hlength, fun row hrow => hfound row hrow [.runBatch]⟩

end GuestBridge
