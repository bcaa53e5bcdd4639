import GuestBridge.Proofs.Arena.Blocks
import GuestBridge.Proofs.Registry.Table
import GuestBridge.Proofs.Schedule.History
/-!
# What a guest reads at a registration

A registration makes two allocations and two writes before the guest is called: the name goes into
the first block, the descriptor into the second. Both blocks are chosen by the guest, which may even
make external calls while it chooses. What keeps the name intact is a promise of the allocator
(`Guest.KeepsApart`): a new block has no byte in common with the blocks handed out before, and what
stands in those does not change. The promise is about what happens from the registration on, so it
covers any state of the allocator's own records.

The registration entry point is a parameter of the main statement: everything before its call is the
same for every entry point (`Guest.answering`), and so is what becomes of its answer.

## Main statement

* **`registration_describes_function`** — the entry point is called once, with a pointer from which
  a reader recovers the function; it is not called when an allocation fails.
-/

namespace GuestBridge

variable {σ : Type}

namespace Guest

/-- The blocks that a guest has handed out in a session which began as `s` with some blocks handed
out before. The host writes into these blocks only. -/
inductive Granted (g : Guest σ) (earlier : List Block) (s : Session σ) :
    List Block → Session σ → Prop
  | start : g.Granted earlier s earlier s
  | allocate {blocks : List Block} {t u : Session σ} {slots : Nat} {p : Pointer}
      (h : g.Granted earlier s blocks t) (hok : g.allocate slots t = .ok p u) :
      g.Granted earlier s (.granted p slots :: blocks) u
  | write {blocks : List Block} {t u : Session σ} {b : Block} {p : Pointer} {bytes : List UInt8}
      (h : g.Granted earlier s blocks t) (hb : b ∈ blocks)
      (hinside : ∀ i, Block.Contains ⟨p.offset, bytes.length⟩ i → b.Contains i)
      (hok : Action.writeMemory p bytes t = .ok () u) : g.Granted earlier s blocks u

/-- From a session on, the guest's allocator returns blocks that do not overlap those that it has
handed out, and leaves the bytes in those as they are. -/
structure KeepsApart (g : Guest σ) (earlier : List Block) (s : Session σ) : Prop where
  apart : ∀ {blocks t slots p u}, g.Granted earlier s blocks t → g.allocate slots t = .ok p u →
    ∀ b ∈ blocks, (Block.granted p slots).Apart b
  intact : ∀ {blocks t slots p u}, g.Granted earlier s blocks t → g.allocate slots t = .ok p u →
    ∀ b ∈ blocks, ∀ i, b.Contains i → u.arena.memory.byteAt i = t.arena.memory.byteAt i

/-! ## Both writes -/

variable {g : Guest σ} {f : ExternalFunction} {s t u v : Session σ} {p q : Pointer}

/-- The sessions and pointers of a registration in which both allocations succeed: the name stands
at `q` and the descriptor at `p` when the session is `t`. -/
structure Announces (g : Guest σ) (f : ExternalFunction) (s : Session σ) (q p : Pointer)
    (u v t : Session σ) : Prop where
  name : g.allocate (Slots.count f.name) s = .ok q u
  descriptor : g.allocate (Descriptor.slots f.signature)
    (u.stored q (Slots.encode f.name)) = .ok p v
  stored : t = v.stored p (Descriptor.encode q f.signature)

/-- With a block for the name, the name stands in it: the block has the length of its encoding. -/
theorem allocateText_of_name (hq : g.allocate (Slots.count f.name) s = .ok q u) :
    g.allocateText f.name s = .ok q (u.stored q (Slots.encode f.name)) :=
  Allocation.fill_of_allocate hq (Slots.length_encode f.name)

/-- Without a block for the name, the description fails, and nothing else is asked for. -/
theorem describe_of_no_name {e : BridgeError}
    (h : g.allocate (Slots.count f.name) s = .error e t) : g.describe f s = .error e t := by
  have htext : g.allocateText f.name s = .error e t := by
    show Allocation.writeText _ f.name s = _
    unfold Allocation.writeText
    rw [Outcome.bind_apply, show Allocation.allocate _ _ s = _ from h]
  rw [describe, Outcome.bind_apply, htext]

/-- Without a block for the descriptor the description fails, too. The name has been written by
then. -/
theorem describe_of_no_descriptor {e : BridgeError}
    (hq : g.allocate (Slots.count f.name) s = .ok q u)
    (h : g.allocate (Descriptor.slots f.signature)
      (u.stored q (Slots.encode f.name)) = .error e t) : g.describe f s = .error e t := by
  rw [describe, Outcome.bind_apply, allocateText_of_name hq]
  dsimp only
  rw [Outcome.bind_apply, h]

/-- With both blocks, the description succeeds and returns where the descriptor stands. -/
theorem Announces.describe_eq (h : g.Announces f s q p u v t) : g.describe f s = .ok p t := by
  rw [describe, Outcome.bind_apply, allocateText_of_name h.name, h.stored]
  exact Allocation.fill_of_allocate h.descriptor (Descriptor.length_encode q f.signature)

/-- The second allocation and the second write do not damage the name. -/
theorem Announces.name_intact {earlier : List Block} (hg : g.KeepsApart earlier s)
    (h : g.Announces f s q p u v t) :
    t.arena.memory.read q.offset (Slots.encode f.name).length = Slots.encode f.name := by
  obtain ⟨hname, hdescriptor, rfl⟩ := h
  -- writing the name stays inside its block, as the promise requires of the host
  have hgranted : g.Granted earlier s (.granted q (Slots.count f.name) :: earlier)
      (u.stored q (Slots.encode f.name)) := by
    refine .write (.allocate .start hname) (List.mem_cons_self ..) (fun i hi => ?_)
      (Allocation.writeMemory_of_allocate hname (Slots.length_encode f.name))
    rwa [Slots.length_encode] at hi
  have hapart := hg.apart hgranted hdescriptor _ (List.mem_cons_self ..)
  have hintact := hg.intact hgranted hdescriptor _ (List.mem_cons_self ..)
  -- each byte of the name is outside the descriptor's block, so only the allocator could change it
  have hbytes (i : Nat) (hi : (Block.granted q (Slots.count f.name)).Contains i) :
      (v.stored p (Descriptor.encode q f.signature)).arena.memory.byteAt i =
        (u.stored q (Slots.encode f.name)).arena.memory.byteAt i := by
    have hout : ¬ (p.offset ≤ i ∧
        i < p.offset + (Descriptor.encode q f.signature).length) := by
      rw [Descriptor.length_encode]
      exact fun hin => hapart i hin hi
    rw [Session.byteAt_stored_of_outside _ _ _ hout, hintact i hi]
  refine Eq.trans ?_ (Session.read_stored u q (Slots.encode f.name))
  refine Memory.read_congr fun i hlow hhigh => hbytes i ⟨hlow, ?_⟩
  rwa [Slots.length_encode] at hhigh

/-- The guest reads the descriptor at `p` and the name at `q`, whole, since its allocator keeps the
blocks apart. -/
theorem Announces.describes {earlier : List Block} (hg : g.KeepsApart earlier s)
    (h : g.Announces f s q p u v t) : t.arena.memory.Describes p q f := by
  have hnameRead := h.name_intact hg
  obtain ⟨hname, hdescriptor, rfl⟩ := h
  have hnameFits := Allocation.fits_of_allocate hname
  have hfits := Allocation.fits_of_allocate hdescriptor
  have hsmall : Descriptor.slots f.signature < 2 ^ 32 := by
    obtain ⟨raw, hgranted⟩ := Allocation.allocate_eq_ok_iff.mp hdescriptor
    have hslots := hgranted.asked
    unfold Allocation.maxSlots at hslots
    omega
  have hgrown : (u.stored q (Slots.encode f.name)).arena.size ≤ v.arena.size := by
    have hle := g.allocate_within .size_le (Descriptor.slots f.signature)
      (u.stored q (Slots.encode f.name))
    rwa [hdescriptor] at hle
  have hsize := v.size_stored p (Descriptor.encode q f.signature)
  rw [Session.size_stored] at hgrown
  exact {
    descriptor := Descriptor.slots_of_read hsmall (v.read_stored ..)
    name := Slots.slots_of_read hnameRead
    descriptor_fits := hfits.trans hsize.ge
    name_fits := (hnameFits.trans hgrown).trans hsize.ge }

/-- A description changes nothing of what belongs to the host. -/
theorem Announces.continues (h : g.Announces f s q p u v t) : s.Continues t := by
  have hdescribe := g.describe_within .continues f s
  rwa [h.describe_eq] at hdescribe

/-! ## The call and its answer -/

/-- The guest with another registration entry point. -/
def answering (g : Guest σ) (registerFunction : Int32 → Code σ Int32) : Guest σ :=
  { g with entry := { g.entry with registerFunction } }

/-- What becomes of a registration when the guest has answered. -/
def conclude (f : ExternalFunction) :
    EStateM.Result Trap (Session σ) Int32 → EStateM.Result BridgeError (Session σ) FunctionId
  | .error e s => .error e.toBridgeError s
  | .ok raw s =>
    match FunctionId.ofRaw? raw with
    | none => .error (.registrationRejected f.name raw) s
    | some id =>
      match s.table.insert id f with
      | .ok table => .ok id { s with table }
      | .error e => .error e s

/-- If the description fails, the registration does, whatever the entry point is. -/
theorem register_of_no_description {e : BridgeError} (h : g.describe f s = .error e t) :
    g.register f s = .error e t := by
  rw [register, Outcome.bind_apply, h]

/-- Behind the description there is one call of the entry point, and its answer decides the rest. -/
theorem register_of_description (h : g.describe f s = .ok p t) :
    g.register f s = conclude f (g.run (g.entry.registerFunction p.toInt32) t) := by
  rw [register, Outcome.bind_apply, h]
  dsimp only
  rw [Outcome.bind_apply]
  unfold Action.mapError conclude
  cases g.run (g.entry.registerFunction p.toInt32) t with
  | error e u => rfl
  | ok raw u =>
    dsimp only
    cases FunctionId.ofRaw? raw with
    | none => rfl
    | some id =>
      dsimp only
      rw [Outcome.bind_apply, record]
      cases u.table.insert id f with
      | ok table => rfl
      | error e => rfl

/-- A function is recorded under a fresh id within the limit. -/
theorem conclude_of_fresh {raw : Int32} {id : FunctionId} (hraw : FunctionId.ofRaw? raw = some id)
    (hlimit : id.number ≤ FunctionTable.maxId) (hfresh : t.table.lookup? id = none) :
    ∃ table, conclude f (.ok raw t) = .ok id { t with table } ∧ table.get? raw = some f := by
  have hinsert : ∃ table, t.table.insert id f = .ok table := by
    unfold FunctionTable.insert
    rw [if_neg (Nat.not_lt.mpr hlimit), hfresh]
    exact ⟨_, rfl⟩
  obtain ⟨table, htable⟩ := hinsert
  have hfound : table.lookup? id = some f := by
    rw [FunctionTable.lookup?_insert htable, if_pos rfl]
  refine ⟨table, ?_, ?_⟩
  · simp only [conclude, hraw, htable]
  · rw [FunctionTable.get?, hraw]
    exact hfound

end Guest

open Guest

/-- **What a guest reads at a registration is the function that is registered.** For every function
and every guest whose allocator keeps blocks apart:

* if an allocation fails, the registration fails in the same way, whatever the registration entry
  point: it is not called;
* otherwise the entry point is called once, with a pointer `p`, in a session whose memory holds at
  `p` the slots of the descriptor, which name `q`, and at `q` the code points of the name and a zero;
  no number is cut off, and both lie in the arena;
* a reader recovers from `p` the signature, and the name up to its first zero;
* a fresh id within the limit makes the guest find this function under its answer. -/
theorem registration_describes_function {σ : Type} (g : Guest σ) (f : ExternalFunction)
    (earlier : List Block) (s : Session σ) (apart : g.KeepsApart earlier s) :
    let args := f.signature.args
    let rets := f.signature.rets
    (∀ e t, g.allocate (Slots.count f.name) s = .error e t →
      ∀ entry, (g.answering entry).register f s = .error e t) ∧
    ∀ q u, g.allocate (Slots.count f.name) s = .ok q u →
      let named := u.stored q (Slots.encode f.name)
      (∀ e t, g.allocate (Descriptor.slots f.signature) named = .error e t →
        ∀ entry, (g.answering entry).register f s = .error e t) ∧
      ∀ p v, g.allocate (Descriptor.slots f.signature) named = .ok p v →
        let t := v.stored p (Descriptor.encode q f.signature)
        let m := t.arena.memory
        (m.slots p.offset (3 + args.length + rets.length) =
            [q.offset, args.length, rets.length] ++ args.map Tag.wire ++ rets.map Tag.wire ∧
          p.offset + 4 * (3 + args.length + rets.length) ≤ m.size ∧
          m.slots q.offset (f.name.length + 1) = f.name.toList.map Char.toNat ++ [0] ∧
          q.offset + 4 * (f.name.length + 1) ≤ m.size) ∧
        m.functionAt? p.offset =
          some (String.ofList (f.name.toList.takeWhile (·.toNat != 0)), f.signature) ∧
        ∀ entry,
          (g.answering entry).register f s = conclude f (g.run (entry p.toInt32) t) ∧
          ∀ raw w id, g.run (entry p.toInt32) t = .ok raw w → FunctionId.ofRaw? raw = some id →
            id.number ≤ 65535 → s.table.lookup? id = none →
            ∃ table, (g.answering entry).register f s = .ok id { w with table } ∧
              table.get? raw = some f := by
  intro args rets
  refine ⟨fun e t h entry => ?_, fun q u hq => ⟨fun e t h entry => ?_, fun p v hp => ?_⟩⟩
  · exact register_of_no_description (g := g.answering entry) (describe_of_no_name h)
  · exact register_of_no_description (g := g.answering entry) (describe_of_no_descriptor hq h)
  · have hannounces : g.Announces f s q p u v _ := ⟨hq, hp, rfl⟩
    have hdescribes := hannounces.describes apart
    refine ⟨⟨hdescribes.descriptor, hdescribes.descriptor_fits, hdescribes.name,
      hdescribes.name_fits⟩, hdescribes.functionAt?_eq, fun entry => ?_⟩
    have hregister : (g.answering entry).register f s = conclude f (g.run (entry p.toInt32) _) :=
      register_of_description (g := g.answering entry) hannounces.describe_eq
    refine ⟨hregister, fun raw w id hrun hraw hlimit hfresh => ?_⟩
    have hanswer := g.run_continuous (entry p.toInt32) (v.stored p (Descriptor.encode q f.signature))
    rw [hrun] at hanswer
    -- guest code leaves the table alone, so the id is still fresh when the guest answers
    have htable : w.table = s.table := hanswer.table.trans hannounces.continues.table
    rw [← htable] at hfresh
    rw [hregister, hrun]
    exact conclude_of_fresh hraw hlimit hfresh

/-! ## An allocator that never reuses memory -/

/-- A guest whose allocator hands out one block behind the other, as far as the memory reaches, and
that answers each registration by the same number. -/
def bumping : Guest Nat where
  entry :=
    { malloc := fun slots => do
        let top ← Code.getState
        let pages ← Code.memoryPages
        let next := top + Slots.slotBytes * slots.toInt.toNat
        if next ≤ min (pages * pageBytes) Allocation.maxSlots then
          Code.setState next
          pure (Int32.ofNat top)
        else pure 0
      initializer := pure ()
      setSource := fun _ _ _ => pure 1
      executeOneStep := pure 0
      registerFunction := fun _ => pure 5 }
  exports := []
  settings := .default

namespace Guest

/-- The allocator grants a block that ends within memory, and the next one begins there. -/
theorem run_malloc_bumping (slots : Int32) (s : Session Nat) :
    bumping.run (bumping.entry.malloc slots) s =
      if s.guest + Slots.slotBytes * slots.toInt.toNat ≤
          min (s.arena.pages * pageBytes) Allocation.maxSlots then
        .ok (Int32.ofNat s.guest)
          { s with guest := s.guest + Slots.slotBytes * slots.toInt.toNat }
      else .ok 0 s := by
  let next := s.guest + Slots.slotBytes * slots.toInt.toNat
  let rest : Code Nat Int32 :=
    if next ≤ min (s.arena.pages * pageBytes) Allocation.maxSlots then do
      Code.setState next
      pure (Int32.ofNat s.guest)
    else pure 0
  show rest.exec bumping.reentry s = _
  by_cases hnext : next ≤ min (s.arena.pages * pageBytes) Allocation.maxSlots
  · rw [if_pos hnext, show rest = _ from if_pos hnext]
    rfl
  · rw [if_neg hnext, show rest = _ from if_neg hnext]
    rfl

/-- A block begins where the one before ended. -/
theorem allocate_bumping {slots : Nat} {s u : Session Nat} {p : Pointer}
    (h : bumping.allocate slots s = .ok p u) :
    p.offset = s.guest ∧ u = { s with guest := s.guest + Slots.slotBytes * slots } := by
  obtain ⟨raw, hmax, hrun, hgrants, hoffset⟩ := Allocation.allocate_eq_ok_iff.mp h
  have hslots : (Int32.ofNat slots).toInt.toNat = slots := by
    unfold Allocation.maxSlots at hmax
    rw [Int32.toInt_ofNat_of_lt (show slots < 2 ^ 31 by omega), Int.toNat_natCast]
  rw [run_malloc_bumping, hslots] at hrun
  by_cases hnext : s.guest + Slots.slotBytes * slots ≤
      min (s.arena.pages * pageBytes) Allocation.maxSlots
  · rw [if_pos hnext] at hrun
    cases hrun
    have htop : s.guest < 2 ^ 31 := by
      have hle := hnext.trans (Nat.min_le_right ..)
      unfold Allocation.maxSlots at hle
      omega
    rw [Int32.toInt_ofNat_of_lt htop] at hoffset
    exact ⟨Int.ofNat_inj.mp hoffset, rfl⟩
  · -- the answer zero grants nothing
    rw [if_neg hnext] at hrun
    cases hrun
    exact absurd hgrants.1 (by decide)

/-- All blocks lie below the next one. -/
theorem below_of_granted {s t : Session Nat} {blocks : List Block}
    (h : bumping.Granted [] s blocks t) : ∀ b ∈ blocks, ∀ i, b.Contains i → i < t.guest := by
  induction h with
  | start => exact List.forall_mem_nil _
  | allocate h hok ih =>
    obtain ⟨hoffset, rfl⟩ := allocate_bumping hok
    refine List.forall_mem_cons.mpr ⟨fun i hi => ?_, fun b hb i hi => ?_⟩
    · have hlt := hi.2
      simp only [Block.granted, hoffset] at hlt
      exact hlt
    · exact Nat.lt_of_lt_of_le (ih b hb i hi) (Nat.le_add_right ..)
  | @write blocks t u _ p bytes h _ _ hok ih =>
    have hguest : u.guest = t.guest := by
      unfold Action.writeMemory at hok
      cases hwrite : t.arena.write p bytes with
      | ok arena =>
        rw [hwrite] at hok
        cases hok
        rfl
      | error e =>
        rw [hwrite] at hok
        cases hok
    rwa [hguest]

/-- A guest that never reuses memory keeps the promise. -/
theorem keepsApart_bumping (s : Session Nat) : bumping.KeepsApart [] s where
  apart h hok b hb i hnew hold := by
    have hlt := below_of_granted h b hb i hold
    have hle := hnew.1
    simp only [Block.granted, (allocate_bumping hok).1] at hle
    omega
  intact h hok b hb i hi := by rw [(allocate_bumping hok).2]

end Guest

/-- A function of a number and a text. -/
def locate : ExternalFunction := .new "LOCATE" [.int, .string] fun _ => pure ()

/-- A session with one page of memory, of which the allocator may use what lies behind 1024. -/
def onePage : Session Nat := .initial ⟨none, 0, 0, fun _ => ⟨0⟩⟩ 1 1024

/-- The name goes to 1024 and the descriptor behind it; the function is found under the answer. -/
theorem registration_describes_function_locate :
    bumping.KeepsApart [] onePage ∧
    ∃ (p : Pointer) (t : Session Nat), p.offset = 1052 ∧
      t.arena.memory.slots 1052 5 = [1024, 2, 0, 1, 3] ∧
      t.arena.memory.functionAt? 1052 = some ("LOCATE", locate.signature) ∧
      bumping.register locate onePage =
        conclude locate (bumping.run (bumping.entry.registerFunction p.toInt32) t) ∧
      ∃ id u, bumping.register locate onePage = .ok id u ∧ u.table.get? 5 = some locate := by
  have hapart := keepsApart_bumping onePage
  have hname : ∃ q u, bumping.allocate (Slots.count locate.name) onePage = .ok q u ∧
      q.offset = 1024 ∧ ∃ p v, bumping.allocate (Descriptor.slots locate.signature)
        (u.stored q (Slots.encode locate.name)) = .ok p v ∧ p.offset = 1052 :=
    ⟨_, _, rfl, rfl, _, _, rfl, rfl⟩
  obtain ⟨q, u, hq, hqat, p, v, hp, hpat⟩ := hname
  obtain ⟨-, hreaches⟩ := registration_describes_function bumping locate [] onePage hapart
  obtain ⟨-, hholds⟩ := hreaches q u hq
  obtain ⟨⟨hslots, -⟩, hread, hcalls⟩ := hholds p v hp
  obtain ⟨hregister, hfound⟩ := hcalls bumping.entry.registerFunction
  obtain ⟨table, hok, htable⟩ := hfound 5 _ ⟨5, by decide⟩ rfl rfl (by decide) rfl
  rw [hpat] at hslots hread
  rw [hqat] at hslots
  exact ⟨hapart, p, _, hpat, hslots, hread, hregister, _, _, hok, htable⟩

end GuestBridge
