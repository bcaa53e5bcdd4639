import GuestBridge.Proofs.Wire.Descriptors
/-!
# Reading a text undoes writing it

A text is written as its code points and read by a length, so reading has three outcomes: the text
whose slots these are, a range that leaves the memory, or a slot that is the code point of no
character. The crux is that they exclude each other and leave nothing out, over every memory: a
range that ends with the memory, a length of zero at any pointer, a length whose byte count does not
fit a machine word, a surrogate behind a valid slot.

The bytes of a text are compared slot by slot (`read_eq_encodeChars_iff`): a slot holds a code point
exactly when its four bytes are those that the writer makes of it.

## Main statement

* **`decode_undoes_encode`** — when each outcome occurs, and with which report.
-/

namespace GuestBridge

namespace Memory

/-- What a memory was made of is read where it stands. -/
theorem read_ofBytes (before middle after : List UInt8) :
    (ofBytes (before ++ middle ++ after)).read before.length middle.length = middle := by
  refine List.ext_getElem (length_read ..) fun i hi hmiddle => ?_
  have hbyte : (before ++ middle ++ after)[before.length + i]? = middle[i]? := by
    rw [List.append_assoc, List.getElem?_append_right (Nat.le_add_right ..),
      Nat.add_sub_cancel_left, List.getElem?_append_left hmiddle]
  simp only [read, List.getElem_map, List.getElem_range, byteAt_ofBytes, List.getD_eq_getElem?_getD,
    hbyte, List.getElem?_eq_getElem hmiddle, Option.getD_some]

/-- The bytes of a word are those that spell its number. -/
theorem read_eq_toBytes_iff {m : Memory} {offset width n : Nat} (hn : n < 256 ^ width) :
    m.read offset width = Word.toBytes width n ↔ m.word offset width = n := by
  constructor
  · intro h
    rw [word, h]
    exact Word.ofBytes_toBytes hn
  · intro h
    have hbytes := Word.toBytes_ofBytes (m.read offset width)
    rw [length_read] at hbytes
    rw [← h]
    exact hbytes.symm

end Memory

namespace Slots

/-! ## Slots that are no characters -/

/-- The number is a surrogate, or lies beyond the last code point. -/
def NoCharacter (n : Nat) : Prop := 0xD800 ≤ n ∧ n ≤ 0xDFFF ∨ 0x10FFFF < n

instance (n : Nat) : Decidable (NoCharacter n) := by
  unfold NoCharacter
  infer_instance

/-- The numbers that are no characters are those that are no valid code points. -/
theorem noCharacter_iff {n : Nat} : NoCharacter n ↔ ¬ n.isValidChar := by
  unfold NoCharacter Nat.isValidChar
  omega

variable {m : Memory} {p : Pointer} {offset index length : Nat}

/-- A slot is read as a character unless it is the code point of none. -/
theorem exists_charAt_iff :
    (∃ c, charAt m offset index = .ok c) ↔
      ¬ NoCharacter (m.word (offset + slotBytes * index) slotBytes) := by
  rw [noCharacter_iff, not_not]
  unfold charAt
  by_cases h : (m.word (offset + slotBytes * index) slotBytes).isValidChar
  · rw [dif_pos h]
    exact iff_of_true ⟨_, rfl⟩ h
  · rw [dif_neg h]
    refine iff_of_false ?_ h
    rintro ⟨c, hc⟩
    cases hc

theorem charAt_eq_error_iff {fault : Fault} :
    charAt m offset index = .error fault ↔
      ∃ value : UInt32, m.word (offset + slotBytes * index) slotBytes = value.toNat ∧
        NoCharacter value.toNat ∧ fault = .invalidCodePoint index value := by
  -- A slot has four bytes, so what it holds is a 32-bit number.
  have hlt : m.word (offset + slotBytes * index) slotBytes < 2 ^ 32 := by
    have h := Word.ofBytes_lt (m.read (offset + slotBytes * index) slotBytes)
    rwa [Memory.length_read, show 256 ^ slotBytes = 2 ^ 32 from rfl] at h
  unfold charAt
  generalize m.word (offset + slotBytes * index) slotBytes = n at hlt
  have hvalue : (UInt32.ofNat n).toNat = n := by
    rw [UInt32.toNat_ofNat']
    exact Nat.mod_eq_of_lt hlt
  by_cases h : n.isValidChar
  · -- a character raises no fault
    rw [dif_pos h]
    constructor
    · intro hok
      cases hok
    · rintro ⟨value, rfl, hnone, -⟩
      exact absurd h (noCharacter_iff.mp hnone)
  · rw [dif_neg h, Except.error.injEq]
    constructor
    · rintro rfl
      exact ⟨UInt32.ofNat n, hvalue.symm, hvalue.symm ▸ noCharacter_iff.mpr h, rfl⟩
    · rintro ⟨value, rfl, -, rfl⟩
      rw [UInt32.ofNat_toNat]

/-! ## The bytes of a text -/

/-- The bytes from an offset on are those of some characters exactly when each slot holds the code
point of its character. -/
theorem read_eq_encodeChars_iff {cs : List Char} :
    m.read offset (slotBytes * cs.length) = encodeChars cs ↔
      ∀ i c, cs[i]? = some c → m.word (offset + slotBytes * i) slotBytes = c.toNat := by
  -- Induction on the characters: the first slot is four bytes, the others stand behind it.
  induction cs generalizing offset with
  | nil => simp [encodeChars, Memory.read]
  | cons c rest ih =>
    have hcode : c.toNat < 256 ^ slotBytes := c.val.toNat_lt
    have hlength : slotBytes * (c :: rest).length = slotBytes + slotBytes * rest.length := by
      rw [List.length_cons, Nat.mul_succ, Nat.add_comm]
    have hsplit : m.read offset (slotBytes * (c :: rest).length) = encodeChars (c :: rest) ↔
        m.read offset slotBytes = Word.toBytes slotBytes c.toNat ∧
          m.read (offset + slotBytes) (slotBytes * rest.length) = encodeChars rest := by
      rw [hlength, Memory.read_append]
      constructor
      · intro h
        exact List.append_inj h (by simp [slotBytes])
      · rintro ⟨hfirst, hrest⟩
        rw [hfirst, hrest]
        rfl
    have hnext (i : Nat) : offset + slotBytes + slotBytes * i = offset + slotBytes * (i + 1) := by
      rw [Nat.mul_succ]
      omega
    rw [hsplit, Memory.read_eq_toBytes_iff hcode, ih]
    constructor
    · rintro ⟨hfirst, hrest⟩ i d hd
      cases i with
      | zero =>
        obtain rfl : c = d := Option.some.inj hd
        exact hfirst
      | succ i =>
        rw [← hnext]
        exact hrest i d hd
    · intro h
      refine ⟨h 0 c rfl, fun i d hd => ?_⟩
      rw [hnext]
      exact h (i + 1) d hd

theorem length_encodeChars_toList (text : String) :
    (encodeChars text.toList).length = slotBytes * text.length := by
  rw [length_encodeChars, String.length_toList]
  rfl

/-- A written text is its characters and a closing zero slot. -/
theorem encode_eq_append (text : String) :
    encode text = encodeChars text.toList ++ Word.toBytes slotBytes 0 := rfl

/-! ## The outcomes of reading -/

/-- A text is read exactly when its range lies in the memory and holds its bytes. -/
theorem decode_eq_ok_iff_encode {text : String} :
    decode m p length = .ok text ↔
      text.length = length ∧ p.offset + slotBytes * length ≤ m.size ∧
        m.read p.offset (slotBytes * length) ++ Word.toBytes slotBytes 0 = encode text := by
  rw [decode_eq_ok_iff, encode_eq_append, List.append_left_inj]
  apply and_congr_right
  rintro rfl
  rw [← String.length_toList, read_eq_encodeChars_iff]

/-- What is wrong with the range of a text. Of the slots that hold no character the first one is
named. -/
inductive Defect (m : Memory) (p : Pointer) (length : Nat) : Fault → Prop
  | range (outside : m.size < p.offset + slotBytes * length) :
      Defect m p length (.outOfBounds p.offset (min (slotBytes * length) maxByteCount) m.size)
  | slot {index : Nat} {value : UInt32} (inside : p.offset + slotBytes * length ≤ m.size)
      (inText : index < length)
      (held : m.word (p.offset + slotBytes * index) slotBytes = value.toNat)
      (none : NoCharacter value.toNat)
      (first : ∀ i < index, ¬ NoCharacter (m.word (p.offset + slotBytes * i) slotBytes)) :
      Defect m p length (.invalidCodePoint index value)

/-- Reading fails at the range, or at the first slot in it that is no character. -/
theorem decode_eq_error_iff {fault : Fault} :
    decode m p length = .error fault ↔ Defect m p length fault := by
  unfold decode checkRange Memory.holds
  by_cases h : p.offset + slotBytes * length ≤ m.size
  · rw [if_pos (decide_eq_true h)]
    -- Inside the memory, decoding reads slot by slot and stops at the first fault.
    have hread : (Except.ok () >>= fun _ => textFrom m p.offset 0 length "") = .error fault ↔
        ∃ index < length, charAt m p.offset index = .error fault ∧
          ∀ i < index, ∃ c, charAt m p.offset i = .ok c := by
      refine Iff.trans textFrom_eq_error_iff ?_
      simp only [Nat.zero_add]
    simp only [hread, charAt_eq_error_iff, exists_charAt_iff]
    constructor
    · rintro ⟨index, hlt, ⟨value, hvalue, hnone, rfl⟩, hbefore⟩
      exact .slot h hlt hvalue hnone hbefore
    · intro hdefect
      cases hdefect with
      | range outside => exact absurd h (Nat.not_le.mpr outside)
      | slot _ inText held none first => exact ⟨_, inText, ⟨_, held, none, rfl⟩, first⟩
  · have hrefused : ¬ decide (p.offset + slotBytes * length ≤ m.size) = true := by simp [h]
    rw [if_neg hrefused]
    constructor
    · intro herror
      cases herror
      exact .range (Nat.lt_of_not_le h)
    · intro hdefect
      cases hdefect with
      | range _ => rfl
      | slot inside => exact absurd inside h

/-- Where the bytes of a text stand, its slots do and a zero behind them. -/
theorem read_encode_iff {text : String} :
    m.read offset (encode text).length = encode text ↔
      m.read offset (slotBytes * text.length) = encodeChars text.toList ∧
        m.word (offset + slotBytes * text.length) slotBytes = 0 := by
  have hlength : (encode text).length = slotBytes * text.length + slotBytes := by
    rw [length_encode, count, Nat.mul_succ]
  have hchars : (m.read offset (slotBytes * text.length)).length =
      (encodeChars text.toList).length := by
    rw [Memory.length_read, length_encodeChars_toList]
  have hzero : 0 < 256 ^ slotBytes := by decide
  -- The closing slot is a word of its own behind the characters.
  rw [hlength, Memory.read_append, encode_eq_append, ← Memory.read_eq_toBytes_iff hzero]
  constructor
  · intro h
    exact List.append_inj h hchars
  · rintro ⟨hfirst, hlast⟩
    rw [hfirst, hlast]

/-- A text is read from the bytes that were written for it. -/
theorem decode_of_read {text : String} (hfits : p.offset + slotBytes * count text ≤ m.size)
    (hread : m.read p.offset (encode text).length = encode text) :
    decode m p text.length = .ok text := by
  have hcount : slotBytes * count text = slotBytes * text.length + slotBytes := by
    rw [count, Nat.mul_succ]
  obtain ⟨hchars, -⟩ := read_encode_iff.mp hread
  refine decode_eq_ok_iff_encode.mpr ⟨rfl, by omega, ?_⟩
  rw [hchars, encode_eq_append]

/-- A text that stands in a memory is read there, whatever stands around it. -/
theorem decode_ofBytes (before after : List UInt8) (text : String)
    (hbefore : before.length < 2 ^ 32) :
    decode (.ofBytes (before ++ encode text ++ after)) ⟨UInt32.ofNat before.length⟩ text.length =
      .ok text := by
  have hoffset : Pointer.offset ⟨UInt32.ofNat before.length⟩ = before.length := by
    show (UInt32.ofNat before.length).toNat = before.length
    rw [UInt32.toNat_ofNat']
    exact Nat.mod_eq_of_lt hbefore
  rw [encode_eq_append, List.append_assoc, List.append_assoc, ← List.append_assoc before,
    decode_eq_ok_iff_encode, hoffset, ← length_encodeChars_toList]
  refine ⟨rfl, ?_, ?_⟩
  · simp only [Memory.size_ofBytes, List.length_append]
    omega
  · rw [Memory.read_ofBytes, encode_eq_append]

/-- **Reading a text undoes writing it.** Reading `length` slots at a pointer
* delivers a text exactly when the text has that length, its slots lie in the memory, and their
  bytes followed by a closing zero slot are the text as it is written;
* is out of bounds exactly when the number of bytes fits no machine word or they leave the memory;
* finds an invalid code point exactly when the slots lie in the memory and this is the first one
  that holds the code point of no character;
* and has no other outcome.

In particular every text is read wherever it was written. The size of a memory is a machine word. -/
theorem decode_undoes_encode (m : Memory) (p : Pointer) (length : Nat)
    (hm : m.size < UInt64.size) :
    (∀ text, decode m p length = .ok text ↔
      text.length = length ∧ p.offset + slotBytes * length ≤ m.size ∧
        m.read p.offset (slotBytes * length) ++ Word.toBytes slotBytes 0 = encode text) ∧
    (∀ offset bytes limit, decode m p length = .error (.outOfBounds offset bytes limit) ↔
      (UInt64.size ≤ slotBytes * length ∨ m.size < p.offset + slotBytes * length) ∧
        offset = p.offset ∧ bytes = min (slotBytes * length) maxByteCount ∧ limit = m.size) ∧
    (∀ index value, decode m p length = .error (.invalidCodePoint index value) ↔
      p.offset + slotBytes * length ≤ m.size ∧ index < length ∧
        m.word (p.offset + slotBytes * index) slotBytes = value.toNat ∧
        NoCharacter value.toNat ∧
        ∀ i < index, ¬ NoCharacter (m.word (p.offset + slotBytes * i) slotBytes)) ∧
    (∀ fault, decode m p length = .error fault →
      (∃ offset bytes limit, fault = .outOfBounds offset bytes limit) ∨
        ∃ index value, fault = .invalidCodePoint index value) ∧
    ∀ before after text, before.length < 2 ^ 32 →
      decode (.ofBytes (before ++ encode text ++ after)) ⟨UInt32.ofNat before.length⟩ text.length =
        .ok text := by
  refine ⟨fun text => decode_eq_ok_iff_encode, fun offset bytes limit => ?_, fun index value => ?_,
    fun fault hfault => ?_, decode_ofBytes⟩
  · -- a count of bytes that fits no machine word leaves every memory
    have hwide : UInt64.size ≤ slotBytes * length → m.size < p.offset + slotBytes * length := by
      intro h
      omega
    rw [decode_eq_error_iff, or_iff_right_of_imp hwide]
    constructor
    · intro hdefect
      cases hdefect with
      | range outside => exact ⟨outside, rfl, rfl, rfl⟩
    · rintro ⟨houtside, rfl, rfl, rfl⟩
      exact .range houtside
  · rw [decode_eq_error_iff]
    constructor
    · intro hdefect
      cases hdefect with
      | slot inside inText held none first => exact ⟨inside, inText, held, none, first⟩
    · rintro ⟨hinside, hlt, hvalue, hnone, hbefore⟩
      exact .slot hinside hlt hvalue hnone hbefore
  · cases decode_eq_error_iff.mp hfault with
    | range _ => exact .inl ⟨_, _, _, rfl⟩
    | slot _ _ _ _ _ => exact .inr ⟨_, _, rfl⟩

/-- A text with a zero and a character of a higher plane, followed by its closing slot and a
surrogate: three slots are the text, and five reach the surrogate. -/
theorem decode_undoes_encode_surrogate :
    let m := Memory.ofBytes ([7] ++ encode "n\x00😀" ++ [0x00, 0xD8, 0x00, 0x00])
    m.size < UInt64.size ∧ decode m ⟨1⟩ 3 = .ok "n\x00😀" ∧
      decode m ⟨1⟩ 5 = .error (.invalidCodePoint 4 0xD800) ∧
      decode m ⟨1⟩ 6 = .error (.outOfBounds 1 24 21) := by
  intro m
  have hsize : m.size = 21 := by decide +kernel
  have hm : m.size < UInt64.size := by
    rw [hsize]
    decide
  obtain ⟨-, -, -, -, hplaced⟩ := decode_undoes_encode m ⟨1⟩ 3 hm
  obtain ⟨-, -, hinvalid, -⟩ := decode_undoes_encode m ⟨1⟩ 5 hm
  obtain ⟨-, houtside, -⟩ := decode_undoes_encode m ⟨1⟩ 6 hm
  refine ⟨hm, hplaced [7] _ _ (by decide), (hinvalid 4 0xD800).mpr ?_, (houtside 1 24 21).mpr ?_⟩
  · decide +kernel
  · rw [hsize]
    decide

end Slots

end GuestBridge
