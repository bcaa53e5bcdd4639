import GuestBridge.Proofs.Frame.Cursor
/-!
# Frames without expectations

A frame names the tags of its values, so it can be read without knowing them: one value after the
other, each by the tag that stands before it. Decoding reads the same words against the tags that a
function was registered with. The two agree. Values that are read in a row are spelled by the words
(`readValues_eq_ok_iff`), and these are what decoding accepts, too; the position at which reading
ends counts the words that the values take.

## Main statement

* **`decode_agrees_with_readValues`** — what is read in a row is decoded against its own tags, and
  what is decoded is read in a row, up to the position behind its last word.
-/

namespace GuestBridge

namespace Frame

/-- Reads a number of values, one after the other. -/
def readValues (f : Frame) : (n : Nat) → Reader (List Value)
  | 0 => pure []
  | n + 1 => do
    let v ← f.readValue
    return v :: (← readValues f n)

end Frame

namespace Arguments

variable {f : Frame} {i j : Nat}

/-- One value is read where one is spelled. -/
theorem readValue_eq_ok_iff_spellsValue {v : Value} :
    f.readValue i = .ok v j ↔
      SpellsValue f.memory f.start f.words i v.tag v ∧ j = i + 1 + v.tag.payloadWords := by
  rw [Frame.readValue_eq_ok_iff, Frame.readTag_eq_ok_iff, Frame.readPayload_eq_ok_iff]
  constructor
  · intro h
    obtain ⟨⟨-, held, -⟩, -, inFrame, payload, hj⟩ := h
    exact ⟨⟨held, rfl, inFrame, payload⟩, hj⟩
  · intro h
    obtain ⟨hvalue, hj⟩ := h
    have hinFrame := hvalue.inFrame
    have hlt : i < f.words := by omega
    exact ⟨⟨hlt, hvalue.held, rfl⟩, rfl, hinFrame, hvalue.payload, hj⟩

/-- Values are read in a row where the words spell them, and reading ends behind these words. -/
theorem readValues_eq_ok_iff {n : Nat} {values : List Value} :
    f.readValues n i = .ok values j ↔
      values.length = n ∧
        Spells f.memory f.start f.words i (values.map Value.tag) values ∧
        j = i + wordCount (values.map Value.tag) := by
  -- Induction on the number of values. The first one moves the position by its own words, which is
  -- where the grammar has the rest.
  induction n generalizing values i with
  | zero =>
    rw [Frame.readValues, Outcome.pure_eq_ok_iff, List.length_eq_zero_iff]
    constructor
    · intro h
      obtain ⟨rfl, rfl⟩ := h
      exact ⟨rfl, .nil _, rfl⟩
    · intro h
      obtain ⟨rfl, -, hj⟩ := h
      exact ⟨rfl, hj⟩
  | succ n ih =>
    rw [Frame.readValues, Outcome.bind_eq_ok_iff]
    constructor
    · intro h
      obtain ⟨v, k, hv, h⟩ := h
      obtain ⟨rest, k', hrest, h⟩ := Outcome.bind_eq_ok_iff.mp h
      obtain ⟨rfl, rfl⟩ := Outcome.pure_eq_ok_iff.mp h
      obtain ⟨hvalue, rfl⟩ := readValue_eq_ok_iff_spellsValue.mp hv
      obtain ⟨hlength, hspells, hj⟩ := ih.mp hrest
      refine ⟨congrArg (· + 1) hlength, ?_, ?_⟩
      · exact .cons hvalue.held rfl hvalue.inFrame hvalue.payload hspells
      · rw [List.map_cons, wordCount_cons, hj]
        omega
    · intro h
      obtain ⟨hlength, hspells, hj⟩ := h
      cases values with
      | nil => cases hlength
      | cons v rest =>
        rw [List.map_cons] at hspells hj
        rw [wordCount_cons] at hj
        cases hspells with
        | cons held kind inFrame payload hspells =>
          refine ⟨v, _, readValue_eq_ok_iff_spellsValue.mpr
            ⟨⟨held, kind, inFrame, payload⟩, rfl⟩, ?_⟩
          have hbehind : j = i + 1 + v.tag.payloadWords + wordCount (rest.map Value.tag) := by
            omega
          have hrest := ih.mpr ⟨Nat.succ.inj hlength, hspells, hbehind⟩
          exact Outcome.bind_eq_ok_iff.mpr ⟨rest, j, hrest, rfl⟩

/-- **Reading with and without the tags agrees.** In a frame that could be opened:
* as many values as the count says, read in a row, are what decoding against their tags delivers;
* and what decoding delivers against any tags are as many values as the count says, of these tags,
  which are also read in a row. Reading then ends behind the header and the words of the values. -/
theorem decode_agrees_with_readValues (function : String) (m : Memory) (p : Pointer) (words : Nat)
    (f : Frame) (opened : Frame.at? m p words = .ok f) :
    (∀ n values j, f.count = .ok n → f.readValues n Frame.firstPosition = .ok values j →
      decode function (values.map Value.tag) m p words = .ok values) ∧
    (∀ expected values, decode function expected m p words = .ok values →
      f.count = .ok expected.length ∧
      f.readValues expected.length Frame.firstPosition =
        .ok values (1 + (values.map fun v => 1 + v.tag.payloadWords).sum) ∧
      values.map Value.tag = expected) := by
  refine ⟨fun n values j hcount hread => ?_, fun expected values hdecode => ?_⟩
  · obtain ⟨rfl, hspells, -⟩ := readValues_eq_ok_iff.mp hread
    rw [decode_eq_ok_iff_exists]
    refine ⟨f, opened, ?_, hspells⟩
    rw [List.length_map]
    exact hcount
  · obtain ⟨f', hf', hcount, hspells⟩ := decode_eq_ok_iff_exists.mp hdecode
    obtain rfl : f = f' := Except.ok.inj (opened.symm.trans hf')
    have htags := hspells.map_tag
    subst htags
    refine ⟨hcount, ?_, rfl⟩
    rw [readValues_eq_ok_iff, List.length_map, wordCount, List.map_map]
    exact ⟨rfl, hspells, rfl⟩

/-- A frame of two values, minus forty-two and three and a half, behind sixteen bytes. -/
def pairFrame : Frame where
  memory := .ofBytes (List.replicate 16 0 ++
    [2, 1, 2 ^ 64 - 42, 2, 0x400C000000000000].flatMap (Word.toBytes wordBytes))
  start := 16
  words := 5
  inBounds := by decide +kernel

/-- Both values are decoded against their tags, and read without them. -/
theorem decode_agrees_with_readValues_pair :
    let values : List Value := [.int (-42), .real ⟨0x400C000000000000⟩]
    Frame.at? pairFrame.memory ⟨16⟩ 5 = .ok pairFrame ∧
    decode "F" [.int, .real] pairFrame.memory ⟨16⟩ 5 = .ok values ∧
    pairFrame.count = .ok 2 ∧
    pairFrame.readValues 2 Frame.firstPosition = .ok values 5 ∧
    decode "G" (values.map Value.tag) pairFrame.memory ⟨16⟩ 5 = .ok values := by
  intro values
  have opened : Frame.at? pairFrame.memory ⟨16⟩ 5 = .ok pairFrame :=
    at?_eq_ok_iff.mpr ⟨pairFrame.inBounds, rfl⟩
  have hdecode : decode "F" [.int, .real] pairFrame.memory ⟨16⟩ 5 = .ok values := by
    decide +kernel
  obtain ⟨-, htyped⟩ := decode_agrees_with_readValues "F" _ _ _ _ opened
  obtain ⟨huntyped, -⟩ := decode_agrees_with_readValues "G" _ _ _ _ opened
  obtain ⟨hcount, hread, -⟩ := htyped _ _ hdecode
  exact ⟨opened, hdecode, hcount, hread, huntyped _ _ _ hcount hread⟩

end Arguments

end GuestBridge
