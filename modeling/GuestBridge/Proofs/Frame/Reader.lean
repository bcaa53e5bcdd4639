import GuestBridge.Proofs.Outcome
import GuestBridge.Proofs.Word
import GuestBridge.Wire.Frame
/-!
# What a frame reader delivers

A reader succeeds exactly when the words that it needs lie in the frame and hold what it looks
for. Each law below gives that condition for one reader, over the signed and unsigned numbers that
the bytes of memory spell (`Memory.signedWord`, `Memory.word`):

* **`next_eq_ok_iff`** — one word of the frame, whatever it holds;
* **`readTag_eq_ok_iff`** — the wire number of a tag;
* **`readPayload_eq_ok_iff`** — the payload words of a value, which denote it (`Denotes`).

The position after a success is always the one behind the last word that was needed.
-/

namespace GuestBridge

namespace Memory

/-- The signed 64-bit number that the bytes at an offset spell, in two's complement. -/
def signedWord (m : Memory) (offset : Nat) : Int :=
  (m.word offset wordBytes : Int).bmod (2 ^ 64)

/-- Eight bytes spell a number below `2 ^ 64`. -/
theorem word_lt (m : Memory) (offset : Nat) : m.word offset wordBytes < 2 ^ 64 := by
  have h := Word.ofBytes_lt (m.read offset wordBytes)
  rwa [length_read, show 256 ^ wordBytes = 2 ^ 64 from rfl] at h

/-- A word is read as a signed number by its two's complement. -/
theorem toInt_word (m : Memory) (offset : Nat) :
    (UInt64.ofNat (m.word offset wordBytes)).toInt64.toInt = m.signedWord offset := by
  rw [UInt64.toInt64_ofNat', Int64.toInt_ofNat']
  rfl

theorem toNat_word (m : Memory) (offset : Nat) :
    (UInt64.ofNat (m.word offset wordBytes)).toNat = m.word offset wordBytes := by
  rw [UInt64.toNat_ofNat', Nat.mod_eq_of_lt (m.word_lt offset)]

/-- Below the sign bit the two's complement of a number is the number itself. -/
theorem bmod_eq_natCast_iff {w n : Nat} (hw : w < 2 ^ 64) (hn : n < 2 ^ 63) :
    (w : Int).bmod (2 ^ 64) = n ↔ w = n := by
  rw [Int.bmod_def]
  push_cast
  split <;> omega

/-- Below the sign bit, a word spells the same signed and unsigned. -/
theorem signedWord_eq_iff (m : Memory) (offset : Nat) {n : Nat} (hn : n < 2 ^ 63) :
    m.signedWord offset = n ↔ m.word offset wordBytes = n :=
  bmod_eq_natCast_iff (m.word_lt offset) hn

end Memory

/-! ## Text slots -/

namespace Slots

/-- A character is read exactly where its code point stands. -/
theorem charAt_eq_ok_iff {m : Memory} {offset index : Nat} {c : Char} :
    charAt m offset index = .ok c ↔
      m.word (offset + slotBytes * index) slotBytes = c.toNat := by
  unfold charAt
  by_cases h : (m.word (offset + slotBytes * index) slotBytes).isValidChar
  · rw [dif_pos h, Except.ok.injEq, ← Char.toNat_inj]
    rfl
  · -- a slot that is no scalar value is the code point of no character
    rw [dif_neg h]
    simp only [reduceCtorEq, false_iff]
    intro hc
    exact h (hc ▸ c.valid)

/-- A text is read exactly when its range lies in the memory and each slot holds the code point of
its character. -/
theorem decode_eq_ok_iff {m : Memory} {p : Pointer} {length : Nat} {text : String} :
    decode m p length = .ok text ↔
      text.length = length ∧ p.offset + slotBytes * length ≤ m.size ∧
        ∀ i c, text.toList[i]? = some c →
          m.word (p.offset + slotBytes * i) slotBytes = c.toNat := by
  have hchars : textFrom m p.offset 0 length "" = .ok text ↔
      text.length = length ∧ ∀ i c, text.toList[i]? = some c →
        m.word (p.offset + slotBytes * i) slotBytes = c.toNat := by
    -- the text starts out empty, so the characters that are read are all of it
    rw [textFrom_eq_ok_iff]
    refine ⟨fun h => ?_, fun h => ?_⟩
    · obtain ⟨cs, hlength, htext, hslots⟩ := h
      rw [String.toList_empty, List.nil_append] at htext
      rw [← String.length_toList, htext]
      refine ⟨hlength, fun i c hc => ?_⟩
      have hslot := charAt_eq_ok_iff.mp (hslots i c hc)
      rwa [Nat.zero_add] at hslot
    · obtain ⟨hlength, hslots⟩ := h
      refine ⟨text.toList, by rw [String.length_toList, hlength], ?_, fun i c hc => ?_⟩
      · rw [String.toList_empty, List.nil_append]
      · rw [charAt_eq_ok_iff, Nat.zero_add]
        exact hslots i c hc
  unfold decode checkRange
  by_cases h : m.holds p.offset (slotBytes * length)
  · have hin : p.offset + slotBytes * length ≤ m.size := of_decide_eq_true h
    rw [if_pos h]
    exact hchars.trans ⟨fun ⟨hl, hs⟩ => ⟨hl, hin, hs⟩, fun ⟨hl, _, hs⟩ => ⟨hl, hs⟩⟩
  · have hout : ¬ p.offset + slotBytes * length ≤ m.size := fun hin => h (decide_eq_true hin)
    rw [if_neg h]
    refine ⟨fun hd => ?_, fun hd => ?_⟩
    · cases hd
    · exact absurd hd.2.1 hout

end Slots

namespace Frame

variable {α : Type} {f : Frame} {i j : Nat}

/-! ## Words of the frame -/

/-- The address of the word with a given index. -/
def address (f : Frame) (index : Nat) : Nat := f.start + wordBytes * index

theorem address_succ (f : Frame) (index : Nat) :
    f.address (index + 1) = f.address index + wordBytes := by
  rw [address, address, Nat.mul_succ, Nat.add_assoc]

/-- A reader that starts with the next word succeeds exactly when there is one and the rest
succeeds on it, one word further. -/
theorem next_bind_eq_ok_iff {g : UInt64 → Reader α} {a : α} :
    (f.next >>= g) i = .ok a j ↔
      i < f.words ∧
        g (UInt64.ofNat (f.memory.word (f.address i) wordBytes)) (i + 1) = .ok a j := by
  rw [Outcome.bind_apply, next, word]
  by_cases h : i < f.words
  · rw [if_pos h]
    exact (and_iff_right h).symm
  · rw [if_neg h]
    simp only [reduceCtorEq, h, false_and]

theorem lift_eq_ok_iff {r : Except Fault α} {a : α} :
    (lift r : Reader α) i = .ok a j ↔ r = .ok a ∧ j = i := by
  cases r with
  | ok b =>
    rw [lift, Outcome.pure_eq_ok_iff, Except.ok.injEq, eq_comm]
  | error e =>
    simp only [lift, reduceCtorEq, false_and, iff_false]
    exact Outcome.throw_ne_ok

/-- A count is any number that is not negative. -/
theorem countOf_eq_ok_iff {raw : Int64} {n : Nat} : countOf raw = .ok n ↔ raw.toInt = n := by
  have hneg : raw < 0 ↔ raw.toInt < 0 := by
    rw [Int64.lt_iff_toInt_lt, Int64.toInt_zero]
  unfold countOf
  by_cases h : raw < 0
  · rw [if_pos h]
    rw [hneg] at h
    simp only [reduceCtorEq, false_iff]
    omega
  · rw [if_neg h, Except.ok.injEq]
    rw [hneg] at h
    omega

/-! ## Single values -/

/-- A tag is known by its number on the wire. -/
theorem ofWire?_eq_some_iff_toInt {raw : Int64} {t : Tag} :
    Tag.ofWire? raw = some t ↔ raw.toInt = t.wire := by
  have hwire : (Int64.ofNat t.wire).toInt = t.wire := by
    cases t <;> decide
  rw [Tag.ofWire?_eq_some_iff, ← Int64.toInt_inj, hwire]

/-- A tag is read exactly where its wire number stands. -/
theorem readTag_eq_ok_iff {t : Tag} :
    f.readTag i = .ok t j ↔
      i < f.words ∧ f.memory.signedWord (f.address i) = t.wire ∧ j = i + 1 := by
  rw [readTag, next_bind_eq_ok_iff, ← Memory.toInt_word, ← ofWire?_eq_some_iff_toInt]
  apply and_congr_right
  intro _
  cases Tag.ofWire? (UInt64.ofNat (f.memory.word (f.address i) wordBytes)).toInt64 with
  | some t' => rw [Outcome.pure_eq_ok_iff, Option.some.injEq, eq_comm]
  | none =>
    -- no tag has this number, so the reader throws
    simp only [reduceCtorEq, false_and, iff_false]
    exact Outcome.throw_ne_ok

/-- A 64-bit number is an integer of 32 bits exactly when it survives the way there and back. -/
theorem toInt32_roundtrip_iff {raw : Int64} {v : Int32} :
    raw.toInt32.toInt64 = raw ∧ v = raw.toInt32 ↔ raw.toInt = v.toInt := by
  refine ⟨fun h => ?_, fun h => ?_⟩
  · obtain ⟨hraw, rfl⟩ := h
    rw [← Int32.toInt_toInt64, hraw]
  · -- the number fits 32 bits, so truncating it loses nothing
    have hv : v = raw.toInt32 := by
      rw [← Int32.toInt_inj, Int64.toInt_toInt32, h]
      exact (Int32.toInt_bmod_size v).symm
    exact ⟨by rw [← Int64.toInt_inj, Int32.toInt_toInt64, ← hv, h], hv⟩

/-- An integer is read exactly where the word spells it. -/
theorem readInt_eq_ok_iff {v : Int32} :
    f.readInt i = .ok v j ↔
      i < f.words ∧ f.memory.signedWord (f.address i) = v.toInt ∧ j = i + 1 := by
  rw [readInt, next_bind_eq_ok_iff, ← Memory.toInt_word, ← toInt32_roundtrip_iff, and_assoc]
  apply and_congr_right
  intro _
  generalize (UInt64.ofNat (f.memory.word (f.address i) wordBytes)).toInt64 = raw
  -- A word that spells a number outside of 32 bits spells no integer, so the range check is part of
  -- the condition.
  by_cases h : raw.toInt32.toInt64 = raw
  · rw [if_pos h, Outcome.pure_eq_ok_iff, and_iff_right h]
  · rw [if_neg h]
    simp only [h, false_and, iff_false]
    exact Outcome.throw_ne_ok

/-- A double is any word: the bits are taken over as they are. -/
theorem readReal_eq_ok_iff {v : Double} :
    f.readReal i = .ok v j ↔
      i < f.words ∧ f.memory.word (f.address i) wordBytes = v.bits.toNat ∧ j = i + 1 := by
  rw [readReal, next_bind_eq_ok_iff]
  apply and_congr_right
  intro _
  have hword := f.memory.toNat_word (f.address i)
  generalize UInt64.ofNat (f.memory.word (f.address i) wordBytes) = w at hword ⊢
  rw [Outcome.pure_eq_ok_iff, ← hword, UInt64.toNat_inj]
  refine ⟨fun h => ?_, fun h => ?_⟩
  · obtain ⟨rfl, hj⟩ := h
    exact ⟨rfl, hj⟩
  · obtain ⟨rfl, hj⟩ := h
    exact ⟨rfl, hj⟩

/-! ## Payloads -/

/-- The payload words from an address on denote a value: an integer by its signed number, a double
by its bits, a text by its length and the 32-bit offset at which its code points stand. -/
def Denotes (m : Memory) (address : Nat) : Value → Prop
  | .int v => m.signedWord address = v.toInt
  | .real v => m.word address wordBytes = v.bits.toNat
  | .string text =>
    m.signedWord address = text.length ∧
      ∃ p : Pointer, m.signedWord (address + wordBytes) = p.offset ∧
        p.offset + Slots.slotBytes * text.length ≤ m.size ∧
        ∀ i c, text.toList[i]? = some c →
          m.word (p.offset + Slots.slotBytes * i) Slots.slotBytes = c.toNat

/-- A pointer is read from a word exactly when the word spells its offset. -/
theorem pointer_word_iff {m : Memory} {address : Nat} {p : Pointer} :
    (m.word address wordBytes < UInt32.size ∧
        p = ⟨(UInt64.ofNat (m.word address wordBytes)).toUInt32⟩) ↔
      m.signedWord address = p.offset := by
  have hp : p.offset < 2 ^ 32 := UInt32.toNat_lt p.address
  -- An offset is far below the sign bit, so the signed reading of the word is the unsigned one.
  rw [m.signedWord_eq_iff address (by omega)]
  refine ⟨fun h => ?_, fun h => ?_⟩
  · obtain ⟨hlt, rfl⟩ := h
    rw [Pointer.offset, UInt64.toNat_toUInt32, Memory.toNat_word]
    exact (Nat.mod_eq_of_lt hlt).symm
  · rw [h, UInt64.toUInt32_ofNat', Pointer.offset, UInt32.ofNat_toNat]
    exact ⟨hp, rfl⟩

/-- A text is read exactly where a length and a pointer stand and the slots there spell it. -/
theorem readString_eq_ok_iff {text : String} :
    f.readString i = .ok text j ↔
      i + 1 < f.words ∧ Denotes f.memory (f.address i) (.string text) ∧ j = i + 2 := by
  rw [readString, next_bind_eq_ok_iff, next_bind_eq_ok_iff, Outcome.bind_eq_ok_iff, Denotes,
    ← address_succ]
  -- Both words are taken before either is judged, so a success always moves past two words.
  refine ⟨fun h => ?_, fun h => ?_⟩
  · obtain ⟨-, hi, length, k, hlength, hread⟩ := h
    obtain ⟨hcount, rfl⟩ := lift_eq_ok_iff.mp hlength
    rw [countOf_eq_ok_iff, Memory.toInt_word] at hcount
    rw [Memory.toNat_word] at hread
    split at hread
    · next hp =>
      obtain ⟨hdecode, hj⟩ := lift_eq_ok_iff.mp hread
      obtain ⟨rfl, hin, hslots⟩ := Slots.decode_eq_ok_iff.mp hdecode
      exact ⟨hi, ⟨hcount, _, pointer_word_iff.mp ⟨hp, rfl⟩, hin, hslots⟩, hj⟩
    · exact absurd hread Outcome.throw_ne_ok
  · obtain ⟨hi, ⟨hcount, p, hp, hin, hslots⟩, hj⟩ := h
    obtain ⟨hlt, rfl⟩ := pointer_word_iff.mpr hp
    refine ⟨by omega, hi, text.length, i + 2, lift_eq_ok_iff.mpr ⟨?_, rfl⟩, ?_⟩
    · rw [countOf_eq_ok_iff, Memory.toInt_word, hcount]
    · rw [Memory.toNat_word, if_pos hlt]
      exact lift_eq_ok_iff.mpr ⟨Slots.decode_eq_ok_iff.mpr ⟨rfl, hin, hslots⟩, hj⟩

/-- A payload is read exactly when it lies in the frame and denotes a value of the tag. -/
theorem readPayload_eq_ok_iff {t : Tag} {v : Value} :
    f.readPayload t i = .ok v j ↔
      v.tag = t ∧ i + t.payloadWords ≤ f.words ∧
        Denotes f.memory (f.address i) v ∧ j = i + t.payloadWords := by
  refine ⟨fun h => ?_, fun h => ?_⟩
  · cases t with
    | int =>
      obtain ⟨w, k, hw, hv⟩ := Outcome.bind_eq_ok_iff.mp h
      obtain ⟨rfl, rfl⟩ := Outcome.pure_eq_ok_iff.mp hv
      exact ⟨rfl, readInt_eq_ok_iff.mp hw⟩
    | real =>
      obtain ⟨w, k, hw, hv⟩ := Outcome.bind_eq_ok_iff.mp h
      obtain ⟨rfl, rfl⟩ := Outcome.pure_eq_ok_iff.mp hv
      exact ⟨rfl, readReal_eq_ok_iff.mp hw⟩
    | string =>
      obtain ⟨w, k, hw, hv⟩ := Outcome.bind_eq_ok_iff.mp h
      obtain ⟨rfl, rfl⟩ := Outcome.pure_eq_ok_iff.mp hv
      exact ⟨rfl, readString_eq_ok_iff.mp hw⟩
    | array =>
      -- no payload is read for an array, as no value has that tag
      exact absurd h Outcome.throw_ne_ok
  · obtain ⟨rfl, h⟩ := h
    -- a value has the tag by which it is read, and no value is an array
    cases v with
    | int v => exact Outcome.bind_eq_ok_iff.mpr ⟨v, j, readInt_eq_ok_iff.mpr h, rfl⟩
    | real v => exact Outcome.bind_eq_ok_iff.mpr ⟨v, j, readReal_eq_ok_iff.mpr h, rfl⟩
    | string v => exact Outcome.bind_eq_ok_iff.mpr ⟨v, j, readString_eq_ok_iff.mpr h, rfl⟩

end Frame

end GuestBridge
