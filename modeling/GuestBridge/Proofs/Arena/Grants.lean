import GuestBridge.Proofs.Arena.Blocks
import GuestBridge.Proofs.Wire.Texts
import Mathlib.Data.List.TakeWhile
/-!
# Texts fill blocks that the guest granted

The host never chooses where it writes. It asks the guest's allocator for a block, checks the answer
against the arena as the allocator left it, and fills the block. The answer is any number: negative,
zero, an address at which the block would end behind the arena. The crux is that the check is exact,
so that what it lets through can always be written, and that nothing is written where it does not.

The allocator is a parameter of all statements, and may do anything to the session before it
answers: write, let the arena grow, call the host.

## Main statement

* **`text_fills_granted_block`** — when a text is placed, where, what the arena is then, and what
  else can come of it.
-/

namespace GuestBridge.Allocation

variable {σ : Type} {malloc : Int32 → Action Trap σ Int32} {s t u : Session σ} {p : Pointer}
  {text : String}

/-- What placing a text makes of the session in which its block was granted. -/
structure Filled (text : String) (p : Pointer) (u t : Session σ) : Prop where
  /-- Nothing but the memory changes. -/
  only : t = { u with arena.memory := t.arena.memory }
  size : t.arena.size = u.arena.size
  outside : ∀ i, ¬ (Block.granted p (Slots.count text)).Contains i →
    t.arena.memory.byteAt i = u.arena.memory.byteAt i
  /-- The slots of the block are the code points in order and a zero. -/
  inside : t.arena.memory.slots p.offset (Slots.count text) = text.toList.map Char.toNat ++ [0]
  /-- The text is read by its length. -/
  byLength : t.arena.readText p (Slots.count text - 1) = .ok text
  /-- A text without zeros is read up to the first zero. -/
  byZero : Char.ofNat 0 ∉ text.toList →
    t.arena.memory.textAt? t.arena.size p.offset = some text.toList

/-- A block that was granted and then filled with a text. -/
theorem filled_stored (hfits : p.offset + Slots.slotBytes * Slots.count text ≤ u.arena.size) :
    Filled text p u (u.stored p (Slots.encode text)) := by
  have hsize := u.size_stored p (Slots.encode text)
  have hread := u.read_stored p (Slots.encode text)
  have hslots := Slots.slots_of_read hread
  have hheld : p.offset + Slots.slotBytes * Slots.count text ≤
      (u.stored p (Slots.encode text)).arena.memory.size := hfits.trans hsize.ge
  have hcount : Slots.count text = text.toList.length + 1 := by
    rw [String.length_toList, Slots.count]
  refine ⟨rfl, hsize, fun i hi => ?_, hslots, ?_, fun hzero => ?_⟩
  · apply u.byteAt_stored_of_outside
    -- the bytes of the text are as many as the block has
    rwa [Slots.length_encode]
  · -- Read by its length, the text comes back as it was encoded.
    have hdecode := Slots.decode_of_read hheld hread
    show (Slots.decode _ p text.length).mapError BridgeError.codec = .ok text
    rw [hdecode]
    rfl
  · -- Read up to a zero, it ends at the zero behind it, since none of its own characters is one.
    rw [hcount] at hheld hslots
    have hlength : text.toList.length < (u.stored p (Slots.encode text)).arena.size := by
      unfold Slots.slotBytes at hheld
      exact Nat.lt_of_lt_of_le (by omega) hheld
    rw [Memory.textAt?_eq hlength hheld hslots, List.takeWhile_eq_self_iff.mpr]
    intro c hc
    simp only [bne_iff_ne, ne_eq]
    intro hnull
    have hc0 : c = Char.ofNat 0 := Char.toNat_inj.mp hnull
    exact hzero (hc0 ▸ hc)

/-- Once a block is granted, filling it succeeds: a text is placed, or refused, as its block is. -/
theorem writeText_eq (malloc : Int32 → Action Trap σ Int32) (text : String) (s : Session σ) :
    writeText malloc text s =
      match allocate malloc (Slots.count text) s with
      | .ok p u => .ok p (u.stored p (Slots.encode text))
      | .error e t => .error e t := by
  cases hblock : allocate malloc (Slots.count text) s with
  | ok p u => exact fill_of_allocate hblock (Slots.length_encode text)
  | error e t =>
    unfold writeText
    rw [Outcome.bind_apply, hblock]

/-- A text is placed exactly if the allocator grants a block for its slots. -/
theorem writeText_eq_ok_iff :
    writeText malloc text s = .ok p t ↔
      ∃ raw u, Granted malloc (Slots.count text) s raw p u ∧
        t = u.stored p (Slots.encode text) := by
  rw [writeText_eq]
  constructor
  · intro h
    cases hblock : allocate malloc (Slots.count text) s with
    | ok q u =>
      rw [hblock] at h
      cases h
      obtain ⟨raw, hgranted⟩ := allocate_eq_ok_iff.mp hblock
      exact ⟨raw, u, hgranted, rfl⟩
    | error e u =>
      rw [hblock] at h
      cases h
  · rintro ⟨raw, u, hgranted, ht⟩
    rw [allocate_eq_ok_iff.mpr ⟨raw, hgranted⟩, ht]

/-- A text is refused exactly as its block is, so with the same error and session. -/
theorem writeText_eq_error_iff {e : BridgeError} :
    writeText malloc text s = .error e t ↔ Refused malloc (Slots.count text) s e t := by
  rw [writeText_eq, ← allocate_eq_error_iff]
  cases allocate malloc (Slots.count text) s with
  | ok q u => simp only [reduceCtorEq]
  | error e' u => rfl

/-- A text is placed exactly when the guest's allocator can be asked for its slots and answers with
a positive address at which they end within the arena, as large as it then is. The text is placed at
that address, in the arena as the allocator left it. In every other case the host writes nothing, and
the error says which case it is. What fits a granted block can always be written to it. -/
theorem text_fills_granted_block (malloc : Int32 → Action Trap σ Int32) (text : String)
    (s : Session σ) :
    (∀ p t, writeText malloc text s = .ok p t ↔
      ∃ raw u, Granted malloc (Slots.count text) s raw p u ∧
        t = u.stored p (Slots.encode text)) ∧
    (∀ e t, writeText malloc text s = .error e t ↔ Refused malloc (Slots.count text) s e t) ∧
    (∀ raw p u, Granted malloc (Slots.count text) s raw p u →
      Filled text p u (u.stored p (Slots.encode text))) ∧
    ∀ slots,
      (∀ p t, allocate malloc slots s = .ok p t ↔ ∃ raw, Granted malloc slots s raw p t) ∧
      (∀ e t, allocate malloc slots s = .error e t ↔ Refused malloc slots s e t) ∧
      ∀ raw p t, Granted malloc slots s raw p t →
        ∀ bytes, bytes.length ≤ Slots.slotBytes * slots →
          Action.writeMemory p bytes t = .ok () (t.stored p bytes) := by
  refine ⟨fun p t => writeText_eq_ok_iff, fun e t => writeText_eq_error_iff, ?filled, ?blocks⟩
  case filled =>
    intro raw p u hgranted
    exact filled_stored hgranted.fits
  case blocks =>
    intro slots
    refine ⟨fun p t => allocate_eq_ok_iff, fun e t => allocate_eq_error_iff, ?_⟩
    -- what is written into the block may be shorter than the block
    intro raw p t hgranted bytes hlength
    have hfits := hgranted.fits
    exact Session.writeMemory_of_fits (by omega)

end GuestBridge.Allocation
