import GuestBridge.Memory
import GuestBridge.Wire.Pointer
/-!
# Text in guest memory

A text stands in memory as one 32-bit little-endian slot per code point, closed by a zero slot. It
is read back by length, so the zero slot is never consulted and zeros inside a text are kept.
-/

namespace GuestBridge.Slots

def slotBytes : Nat := 4

/-- The slots of a text without the closing one. -/
def encodeChars (cs : List Char) : List UInt8 := cs.flatMap fun c => Word.toBytes 4 c.toNat

/-- The slots of a text and the closing zero slot. -/
def encode (text : String) : List UInt8 := encodeChars text.toList ++ Word.toBytes 4 0

/-- How many slots a text takes, the closing one included. -/
def count (text : String) : Nat := text.length + 1

/-- Refuses a range that leaves the memory. -/
def checkRange (m : Memory) (offset length : Nat) : Except Fault Unit :=
  if m.holds offset length then .ok ()
  else .error (.outOfBounds offset (min length maxByteCount) m.size)

/-- The character of the slot with a given index. -/
def charAt (m : Memory) (offset index : Nat) : Except Fault Char :=
  let n := m.word (offset + slotBytes * index) slotBytes
  if h : n.isValidChar then .ok (Char.ofNatAux n h)
  else .error (.invalidCodePoint index (UInt32.ofNat n))

/-- Reads `remaining` slots from the one with a given index on, behind the text read before them. It
ends at the first slot that is no character, so a long range costs nothing past its first fault. -/
def textFrom (m : Memory) (offset : Nat) : (index remaining : Nat) → String → Except Fault String
  | _, 0, before => .ok before
  | index, remaining + 1, before =>
    match charAt m offset index with
    | .ok c => textFrom m offset (index + 1) remaining (before.push c)
    | .error fault => .error fault

/-- Reads a text of `length` slots. The first slot that is no Unicode scalar value is the fault. -/
def decode (m : Memory) (p : Pointer) (length : Nat) : Except Fault String := do
  checkRange m p.offset (slotBytes * length)
  textFrom m p.offset 0 length ""

@[simp] theorem length_encodeChars (cs : List Char) : (encodeChars cs).length = 4 * cs.length := by
  induction cs with
  | nil => rfl
  | cons c rest ih => simp [encodeChars] at *; omega

/-- A text fills its slots exactly. -/
theorem length_encode (text : String) : (encode text).length = slotBytes * count text := by
  simp only [encode, count, slotBytes, List.length_append, length_encodeChars,
    Word.length_toBytes, String.length_toList]
  omega

/-! ## Reading slot by slot -/

/-- A text is read exactly when each slot of the range is a character; it is those characters in
order, behind the text before them. -/
theorem textFrom_eq_ok_iff {m : Memory} {offset index remaining : Nat} {before text : String} :
    textFrom m offset index remaining before = .ok text ↔
      ∃ cs : List Char, cs.length = remaining ∧ text.toList = before.toList ++ cs ∧
        ∀ i c, cs[i]? = some c → charAt m offset (index + i) = .ok c := by
  fun_induction textFrom m offset index remaining before with
  | case1 index before =>
    constructor
    · intro h
      cases h
      exact ⟨[], rfl, (List.append_nil _).symm, nofun⟩
    · rintro ⟨cs, hlength, htext, -⟩
      rw [List.eq_nil_of_length_eq_zero hlength, List.append_nil] at htext
      rw [String.toList_injective htext]
  | case2 index n before c hc ih =>
    rw [ih, String.toList_push]
    constructor
    · rintro ⟨cs, hlength, htext, hslots⟩
      refine ⟨c :: cs, congrArg (· + 1) hlength, ?_, fun i d hd => ?_⟩
      · rw [htext, List.append_assoc, List.singleton_append]
      · cases i with
        | zero => cases hd; exact hc
        | succ i =>
          rw [Nat.add_comm i 1, ← Nat.add_assoc]
          exact hslots i d hd
    · rintro ⟨cs, hlength, htext, hslots⟩
      cases cs with
      | nil => cases hlength
      | cons d ds =>
        obtain rfl : c = d := Except.ok.inj (hc.symm.trans (hslots 0 d rfl))
        refine ⟨ds, Nat.succ.inj hlength, ?_, fun i e he => ?_⟩
        · rw [htext, List.append_assoc, List.singleton_append]
        · rw [Nat.add_assoc, Nat.add_comm 1 i]
          exact hslots (i + 1) e he
  | case3 index n before fault hfault =>
    constructor
    · intro h
      cases h
    · rintro ⟨cs, hlength, -, hslots⟩
      cases cs with
      | nil => cases hlength
      | cons d ds => cases hfault.symm.trans (hslots 0 d rfl)

/-- The fault of a text is that of its first slot that is no character. -/
theorem textFrom_eq_error_iff {m : Memory} {offset index remaining : Nat} {before : String}
    {fault : Fault} :
    textFrom m offset index remaining before = .error fault ↔
      ∃ i < remaining, charAt m offset (index + i) = .error fault ∧
        ∀ j < i, ∃ c, charAt m offset (index + j) = .ok c := by
  fun_induction textFrom m offset index remaining before with
  | case1 index before =>
    constructor
    · intro h
      cases h
    · rintro ⟨i, h, -⟩
      exact absurd h (Nat.not_lt_zero i)
  | case2 index n before c hc ih =>
    rw [ih]
    constructor
    · rintro ⟨i, hi, hfault, hbefore⟩
      refine ⟨i + 1, Nat.succ_lt_succ hi, ?_, fun j hj => ?_⟩
      · rwa [Nat.add_comm i 1, ← Nat.add_assoc]
      · cases j with
        | zero => exact ⟨c, hc⟩
        | succ j =>
          rw [Nat.add_comm j 1, ← Nat.add_assoc]
          exact hbefore j (Nat.lt_of_succ_lt_succ hj)
    · rintro ⟨i, hi, hfault, hbefore⟩
      cases i with
      | zero => cases hc.symm.trans hfault
      | succ i =>
        refine ⟨i, Nat.lt_of_succ_lt_succ hi, ?_, fun j hj => ?_⟩
        · rwa [Nat.add_assoc, Nat.add_comm 1 i]
        · rw [Nat.add_assoc, Nat.add_comm 1 j]
          exact hbefore (j + 1) (Nat.succ_lt_succ hj)
  | case3 index n before first hfirst =>
    constructor
    · intro h
      cases h
      exact ⟨0, Nat.succ_pos n, hfirst, fun j hj => absurd hj (Nat.not_lt_zero j)⟩
    · rintro ⟨i, hi, hfault, hbefore⟩
      cases i with
      | zero => cases hfirst.symm.trans hfault; rfl
      | succ i =>
        obtain ⟨c, hc⟩ := hbefore 0 (Nat.succ_pos i)
        cases hfirst.symm.trans hc

end GuestBridge.Slots
