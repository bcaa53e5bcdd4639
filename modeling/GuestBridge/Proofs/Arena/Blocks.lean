import GuestBridge.Proofs.Session.Stability
import GuestBridge.Proofs.Wire.Descriptors
/-!
# Blocks

A block is a run of bytes of the arena that the guest's allocator has handed out. The host checks
that it lies in the arena, so what fills it can be written, and writing it changes no byte outside.
Whether blocks overlap is up to the allocator.
-/

namespace GuestBridge

variable {σ : Type}

structure Block where
  offset : Nat
  length : Nat
  deriving DecidableEq

namespace Block

variable {a b : Block}

/-- The block reaches over a byte. -/
def Contains (b : Block) (i : Nat) : Prop := b.offset ≤ i ∧ i < b.offset + b.length

/-- No byte lies in both blocks. -/
def Apart (a b : Block) : Prop := ∀ i, a.Contains i → ¬ b.Contains i

/-- The block that an allocator grants. -/
def granted (p : Pointer) (slots : Nat) : Block := ⟨p.offset, Slots.slotBytes * slots⟩

/-- Blocks are apart when one of them is empty, or ends before the other begins. -/
theorem apart_iff :
    a.Apart b ↔ a.length = 0 ∨ b.length = 0 ∨ a.offset + a.length ≤ b.offset ∨
      b.offset + b.length ≤ a.offset := by
  unfold Apart Contains
  refine ⟨fun h => ?_, fun h i ha hb => by omega⟩
  by_contra hno
  -- otherwise the block that begins later begins in the other one
  have hlater := h (max a.offset b.offset)
  omega

instance : Decidable (a.Apart b) := decidable_of_iff' _ apart_iff

end Block

/-! ## Growth -/

namespace Arena

/-- The arena with more bytes, all zero. -/
def extended (a : Arena) (more : Nat) : Arena :=
  { a with memory := { a.memory with size := a.size + more } }

theorem size_extended (a : Arena) (more : Nat) : (a.extended more).size = a.size + more := rfl

theorem byteAt_extended (a : Arena) (more i : Nat) :
    (a.extended more).memory.byteAt i = a.memory.byteAt i := rfl

/-- An arena that grows gets its new pages at the end. -/
theorem eq_extended_of_grow? {a b : Arena} {extra : Nat} (h : a.grow? extra = some b) :
    b = a.extended (extra * pageBytes) := by
  unfold grow? at h
  obtain ⟨-, hgrown⟩ := (Option.ite_none_right_eq_some ..).mp h
  exact (Option.some.inj hgrown).symm

theorem size_le_of_grow? {a b : Arena} {extra : Nat} (h : a.grow? extra = some b) :
    a.size ≤ b.size := by
  rw [eq_extended_of_grow? h, size_extended]
  exact Nat.le_add_right ..

end Arena

/-! ## Writes -/

namespace Session

/-- The session with bytes stored in its memory. -/
def stored (s : Session σ) (p : Pointer) (bytes : List UInt8) : Session σ :=
  { s with arena.memory := s.arena.memory.write p.offset bytes }

section Stored

variable (s : Session σ) (p : Pointer) (bytes : List UInt8)

theorem size_stored : (s.stored p bytes).arena.size = s.arena.size := Memory.size_write ..

theorem read_stored :
    (s.stored p bytes).arena.memory.read p.offset bytes.length = bytes :=
  Memory.read_write_self ..

/-- Bytes outside the range that was stored are as they were. -/
theorem byteAt_stored_of_outside {i : Nat}
    (h : ¬ (p.offset ≤ i ∧ i < p.offset + bytes.length)) :
    (s.stored p bytes).arena.memory.byteAt i = s.arena.memory.byteAt i :=
  (Memory.byteAt_write ..).trans (if_neg h)

end Stored

/-- A write within the arena succeeds. -/
theorem writeMemory_of_fits {s : Session σ} {p : Pointer} {bytes : List UInt8}
    (h : p.offset + bytes.length ≤ s.arena.size) :
    Action.writeMemory p bytes s = .ok () (s.stored p bytes) := by
  have hholds : s.arena.memory.holds p.offset bytes.length = true := decide_eq_true h
  unfold Action.writeMemory Arena.write Slots.checkRange
  rw [if_pos hholds]
  rfl

/-- The arena never shrinks. -/
theorem Stable.size_le : Stable fun s t : Session σ => s.arena.size ≤ t.arena.size where
  refl _ := Nat.le_refl _
  trans := Nat.le_trans
  emit _ _ _ := Nat.le_refl _
  requestStop s handle := by
    show s.arena.size ≤ (s.requestStop handle).arena.size
    unfold Session.requestStop
    split <;> exact Nat.le_refl _
  write s offset bytes := (Memory.size_write ..).ge
  -- growth is the only change of the size
  grow h := Arena.size_le_of_grow? h
  setGuest _ _ := Nat.le_refl _
  setDraws _ _ := Nat.le_refl _
  guarded _ h := h

end Session

/-! ## Allocations -/

/-- A number that is no negative one is its own offset. -/
theorem Pointer.offset_ofInt32 {raw : Int32} (h : 0 ≤ raw.toInt) :
    ((Pointer.ofInt32 raw).offset : Int) = raw.toInt := by
  have hbits : raw.toInt = if 2 * raw.toBitVec.toNat < 2 ^ 32 then (raw.toBitVec.toNat : Int)
      else (raw.toBitVec.toNat : Int) - (2 ^ 32 : Nat) := BitVec.toInt_eq_toNat_cond raw.toBitVec
  have hlt : raw.toBitVec.toNat < 2 ^ 32 := raw.toBitVec.isLt
  show (raw.toBitVec.toNat : Int) = raw.toInt
  split at hbits <;> omega

theorem Pointer.offset_injective {p q : Pointer} (h : p.offset = q.offset) : p = q := by
  cases p
  cases q
  exact congrArg Pointer.mk (UInt32.toNat_inj.mp h)

namespace Allocation

variable {malloc : Int32 → Action Trap σ Int32} {s t : Session σ} {slots : Nat} {p : Pointer}

/-- An answer grants a block: its address is positive, and the block ends within the arena. -/
def Grants (size slots : Nat) (raw : Int32) : Prop :=
  0 < raw.toInt ∧ raw.toInt + Slots.slotBytes * slots ≤ size

instance (size slots : Nat) (raw : Int32) : Decidable (Grants size slots raw) := by
  unfold Grants
  infer_instance

/-- What is granted is the block at the answered address, if that lies in the arena. -/
theorem granted?_eq (size slots : Nat) (raw : Int32) :
    granted? size slots raw = if Grants size slots raw then some (.ofInt32 raw) else none := by
  have hneg : raw < 0 ↔ raw.toInt < 0 := by
    rw [Int32.lt_iff_toInt_lt, Int32.toInt_zero]
  unfold granted? Pointer.ofRaw? Grants
  -- A negative answer is no pointer. Any other is its own offset, so the two checks agree.
  by_cases hraw : raw < 0
  · have hnegative := hneg.mp hraw
    have hno : ¬ 0 < raw.toInt := by omega
    simp only [if_pos hraw, hno, false_and, if_false]
  · have hpositive := mt hneg.mpr hraw
    have hoffset := Pointer.offset_ofInt32 (Int.not_lt.mp hpositive)
    have hnull : (Pointer.ofInt32 raw).isNull = true ↔ (Pointer.ofInt32 raw).offset = 0 := by
      rw [Pointer.isNull, beq_iff_eq, ← UInt32.toNat_inj]
      rfl
    rw [if_neg hraw]
    dsimp only
    congr 1
    simp only [Bool.and_eq_true, Bool.not_eq_true', decide_eq_true_eq, eq_iff_iff,
      ← Bool.not_eq_true, hnull]
    omega

/-- What becomes of a request for slots when the guest's allocator has ended. -/
def answered (slots : Nat) :
    EStateM.Result Trap (Session σ) Int32 → EStateM.Result BridgeError (Session σ) Pointer
  | .error trap t => .error trap.toBridgeError t
  | .ok raw t =>
    if Grants t.arena.size slots raw then .ok (.ofInt32 raw) t
    else .error (.allocationFailed slots raw) t

/-- The guest is asked once, and only for what it can be asked for. -/
theorem allocate_eq (malloc : Int32 → Action Trap σ Int32) (slots : Nat) (s : Session σ) :
    allocate malloc slots s =
      if maxSlots < slots then .error (.allocationFailed slots 0) s
      else answered slots (malloc (Int32.ofNat slots) s) := by
  unfold allocate
  by_cases hmax : maxSlots < slots
  · rw [if_pos hmax, if_pos hmax]
    rfl
  · rw [if_neg hmax, if_neg hmax, Outcome.bind_apply]
    unfold Action.mapError
    cases malloc (Int32.ofNat slots) s with
    | error trap t => rfl
    | ok raw t =>
      have hget : (get : Action BridgeError σ (Session σ)) t = .ok t t := rfl
      dsimp only
      rw [Outcome.bind_apply, hget]
      dsimp only [answered]
      rw [granted?_eq]
      by_cases hgrants : Grants t.arena.size slots raw
      · rw [if_pos hgrants, if_pos hgrants]
        rfl
      · rw [if_neg hgrants, if_neg hgrants]
        rfl

/-- A request for slots that the guest's allocator answers with a block. -/
structure Granted (malloc : Int32 → Action Trap σ Int32) (slots : Nat) (s : Session σ) (raw : Int32)
    (p : Pointer) (t : Session σ) : Prop where
  asked : slots ≤ maxSlots
  answer : malloc (Int32.ofNat slots) s = .ok raw t
  grants : Grants t.arena.size slots raw
  offset : p.offset = raw.toInt

/-- A request for slots that ends without a block: the guest is not asked, traps, or answers with
none. -/
inductive Refused (malloc : Int32 → Action Trap σ Int32) (slots : Nat) (s : Session σ) :
    BridgeError → Session σ → Prop
  | tooMany (slots_lt : maxSlots < slots) : Refused malloc slots s (.allocationFailed slots 0) s
  | trapped {trap : Trap} {t : Session σ} (asked : slots ≤ maxSlots)
      (answer : malloc (Int32.ofNat slots) s = .error trap t) :
      Refused malloc slots s trap.toBridgeError t
  | ungranted {raw : Int32} {t : Session σ} (asked : slots ≤ maxSlots)
      (answer : malloc (Int32.ofNat slots) s = .ok raw t)
      (none : ¬ Grants t.arena.size slots raw) :
      Refused malloc slots s (.allocationFailed slots raw) t

/-- A request for slots succeeds exactly if the allocator answers with a block that lies in the
arena. -/
theorem allocate_eq_ok_iff :
    allocate malloc slots s = .ok p t ↔ ∃ raw, Granted malloc slots s raw p t := by
  rw [allocate_eq]
  constructor
  · intro h
    split at h
    · cases h
    · next hmax =>
      cases hanswer : malloc (Int32.ofNat slots) s with
      | error trap u =>
        rw [hanswer] at h
        cases h
      | ok raw u =>
        rw [hanswer, answered] at h
        split at h
        · next hgrants =>
          cases h
          exact ⟨raw, Nat.le_of_not_lt hmax, hanswer, hgrants,
            Pointer.offset_ofInt32 hgrants.1.le⟩
        · cases h
  · rintro ⟨raw, hgranted⟩
    have hoffset := Pointer.offset_ofInt32 hgranted.grants.1.le
    -- the pointer is determined by the address that was answered
    have hp : Pointer.ofInt32 raw = p :=
      Pointer.offset_injective (Int.ofNat_inj.mp (hoffset.trans hgranted.offset.symm))
    rw [if_neg (Nat.not_lt.mpr hgranted.asked), hgranted.answer, answered,
      if_pos hgranted.grants, hp]

/-- The ways in which a request for slots fails. -/
theorem allocate_eq_error_iff {e : BridgeError} :
    allocate malloc slots s = .error e t ↔ Refused malloc slots s e t := by
  rw [allocate_eq]
  constructor
  · intro h
    split at h
    · next hmax =>
      cases h
      exact .tooMany hmax
    · next hmax =>
      have hasked := Nat.le_of_not_lt hmax
      -- The guest is asked, and its answer is a trap or no block.
      cases hanswer : malloc (Int32.ofNat slots) s with
      | error trap u =>
        rw [hanswer] at h
        cases h
        exact .trapped hasked hanswer
      | ok raw u =>
        rw [hanswer, answered] at h
        split at h
        · cases h
        · next hnone =>
          cases h
          exact .ungranted hasked hanswer hnone
  · intro hrefused
    cases hrefused with
    | tooMany hmax => rw [if_pos hmax]
    | trapped asked answer => rw [if_neg (Nat.not_lt.mpr asked), answer, answered]
    | ungranted asked answer none =>
      rw [if_neg (Nat.not_lt.mpr asked), answer, answered, if_neg none]

/-- A block that is granted lies in the arena as the allocator left it. -/
theorem Granted.fits {raw : Int32} (h : Granted malloc slots s raw p t) :
    p.offset + Slots.slotBytes * slots ≤ t.arena.size := by
  have hfits := h.grants.2
  have hoffset := h.offset
  omega

theorem fits_of_allocate (h : allocate malloc slots s = .ok p t) :
    p.offset + Slots.slotBytes * slots ≤ t.arena.size := by
  obtain ⟨raw, hgranted⟩ := allocate_eq_ok_iff.mp h
  exact hgranted.fits

/-- What is written into a fresh block fits. -/
theorem writeMemory_of_allocate (h : allocate malloc slots s = .ok p t) {bytes : List UInt8}
    (hlength : bytes.length = Slots.slotBytes * slots) :
    Action.writeMemory p bytes t = .ok () (t.stored p bytes) :=
  Session.writeMemory_of_fits (hlength ▸ fits_of_allocate h)

/-- A fresh block that is filled. -/
theorem fill_of_allocate (h : allocate malloc slots s = .ok p t) {bytes : Pointer → List UInt8}
    (hlength : (bytes p).length = Slots.slotBytes * slots) :
    (do
      let p ← allocate malloc slots
      Action.writeMemory p (bytes p)
      return p : Action BridgeError σ Pointer) s = .ok p (t.stored p (bytes p)) := by
  rw [Outcome.bind_apply, h]
  dsimp only
  rw [Outcome.bind_apply, writeMemory_of_allocate h hlength]
  rfl

end Allocation

end GuestBridge
