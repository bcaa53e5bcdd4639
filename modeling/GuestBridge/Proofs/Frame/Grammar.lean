import GuestBridge.Bridge.Arguments
import GuestBridge.Proofs.Frame.Reader
/-!
# The grammar of argument frames

An argument frame spells a list of values: a count, then for each value the wire number of its tag
and the words of its payload. `Spells` states this over the bytes of memory, without a reader and
without a position that moves. The crux is that values have different widths and that a text stands
outside of the frame, so one wrong bound shows only on rare frames; the grammar therefore names
every word that it looks at and bounds each of them by the declared frame.

## Main statements

* **`readAll_eq_ok_iff`** — reading against a list of tags succeeds exactly where the words spell
  values of those tags. Induction on the tags; one word of the tag and one payload per step.
* **`decode_eq_ok_iff_spells`** — decoding accepts exactly the argument frames, with the values that
  they spell, and never a list of tags with an array in it.
-/

namespace GuestBridge.Arguments

/-! ## The grammar -/

/-- The words of a frame from an index on spell the values of the given tags, in order. Words behind
the last value are not looked at. -/
inductive Spells (m : Memory) (start words : Nat) : Nat → List Tag → List Value → Prop
  | nil (index : Nat) : Spells m start words index [] []
  | cons {index : Nat} {tag : Tag} {value : Value} {tags : List Tag} {values : List Value}
      (tagWord : m.signedWord (start + wordBytes * index) = tag.wire)
      (kind : value.tag = tag)
      (inFrame : index + 1 + tag.payloadWords ≤ words)
      (payload : Frame.Denotes m (start + wordBytes * (index + 1)) value)
      (rest : Spells m start words (index + 1 + tag.payloadWords) tags values) :
      Spells m start words index (tag :: tags) (value :: values)

/-- What is spelled are values of the tags. -/
theorem Spells.map_tag {m : Memory} {start words index : Nat} {tags : List Tag}
    {values : List Value} (h : Spells m start words index tags values) :
    values.map Value.tag = tags := by
  induction h with
  | nil _ => rfl
  | cons _ kind _ _ _ ih => rw [List.map_cons, kind, ih]

/-- No value is an array, so nothing spells a list of tags that has one. -/
theorem Spells.array_notMem {m : Memory} {start words index : Nat} {tags : List Tag}
    {values : List Value} (h : Spells m start words index tags values) : .array ∉ tags := by
  rw [← h.map_tag, List.mem_map]
  intro harray
  obtain ⟨v, -, hv⟩ := harray
  -- every kind of value has another tag
  cases v <;> cases hv

/-! ## Reading against the tags -/

/-- The name of a function matters for errors only. -/
theorem reading_eq_ok_iff {α : Type} {function : String} {r : Frame.Reader α} {i j : Nat} {a : α} :
    reading function r i = .ok a j ↔ r i = .ok a j := by
  unfold reading
  cases r i with
  | ok b k => simp only [EStateM.Result.ok.injEq]
  | error e k => simp only [reduceCtorEq]

/-- Reading against the tags delivers what the words spell. -/
theorem readAll_eq_ok_iff {f : Frame} {function : String} {tags : List Tag}
    {values : List Value} {position i : Nat} :
    (∃ j, readAll f function position tags i = .ok values j) ↔
      Spells f.memory f.start f.words i tags values := by
  -- Induction on the tags: one word of the tag and one payload per step. The reader's position is
  -- the index of the grammar, so both sides of the step leave the same index to the rest.
  induction tags generalizing values position i with
  | nil =>
    refine ⟨fun h => ?_, fun h => ?_⟩
    · obtain ⟨j, h⟩ := h
      obtain ⟨rfl, -⟩ := Outcome.pure_eq_ok_iff.mp h
      exact .nil i
    · cases h
      exact ⟨i, rfl⟩
  | cons tag rest ih =>
    refine ⟨fun h => ?_, fun h => ?_⟩
    · obtain ⟨j, h⟩ := h
      obtain ⟨found, k, hfound, h⟩ := Outcome.bind_eq_ok_iff.mp h
      obtain ⟨-, htag, rfl⟩ := Frame.readTag_eq_ok_iff.mp (reading_eq_ok_iff.mp hfound)
      split at h
      · next hsame =>
        subst hsame
        obtain ⟨value, k, hvalue, h⟩ := Outcome.bind_eq_ok_iff.mp h
        obtain ⟨hkind, hin, hpayload, rfl⟩ :=
          Frame.readPayload_eq_ok_iff.mp (reading_eq_ok_iff.mp hvalue)
        obtain ⟨others, k, hothers, h⟩ := Outcome.bind_eq_ok_iff.mp h
        obtain ⟨rfl, -⟩ := Outcome.pure_eq_ok_iff.mp h
        exact .cons htag hkind hin hpayload (ih.mp ⟨k, hothers⟩)
      · exact absurd h Outcome.throw_ne_ok
    · cases h with
      | @cons _ _ value _ values htag hkind hin hpayload hrest =>
        obtain ⟨j, hothers⟩ := (@ih values (position + 1) _).mpr hrest
        -- the payload lies in the frame, and the word of the tag stands before it
        have hlt : i < f.words := by omega
        refine ⟨j, Outcome.bind_eq_ok_iff.mpr ⟨tag, i + 1, ?_, ?_⟩⟩
        · exact reading_eq_ok_iff.mpr (Frame.readTag_eq_ok_iff.mpr ⟨hlt, htag, rfl⟩)
        rw [if_pos rfl]
        refine Outcome.bind_eq_ok_iff.mpr ⟨value, i + 1 + tag.payloadWords, ?_, ?_⟩
        · exact reading_eq_ok_iff.mpr
            (Frame.readPayload_eq_ok_iff.mpr ⟨hkind, hin, hpayload, rfl⟩)
        · exact Outcome.bind_eq_ok_iff.mpr ⟨values, j, hothers, rfl⟩

/-! ## Decoding -/

/-- A frame is opened as it is declared, and only when its words lie in the memory. -/
theorem at?_eq_ok_iff {m : Memory} {p : Pointer} {words : Nat} {f : Frame} :
    Frame.at? m p words = .ok f ↔
      if p.isNull ∨ words = 0 then f = Frame.empty m
      else ∃ h : p.offset + wordBytes * words ≤ m.size, f = ⟨m, p.offset, words, h⟩ := by
  unfold Frame.at?
  by_cases hnone : p.isNull ∨ words = 0
  · have hb : (p.isNull || words == 0) = true := by simpa using hnone
    rw [if_pos hb, if_pos hnone, Except.ok.injEq, eq_comm]
  · have hb : ¬ (p.isNull || words == 0) = true := by simpa using hnone
    rw [if_neg hb, if_neg hnone]
    by_cases hin : p.offset + wordBytes * words ≤ m.size
    · rw [dif_pos hin, Except.ok.injEq, eq_comm]
      exact ⟨fun h => ⟨hin, h⟩, fun ⟨_, h⟩ => h⟩
    · rw [dif_neg hin]
      simp only [reduceCtorEq, hin, false_iff]
      rintro ⟨h, -⟩
      exact h

/-- The count of a frame without words is zero, and otherwise the number in its first word. -/
theorem count_eq_ok_iff {f : Frame} {n : Nat} :
    f.count = .ok n ↔
      if f.words = 0 then n = 0 else f.memory.signedWord f.start = n := by
  unfold Frame.count
  by_cases hzero : f.words = 0
  · rw [if_pos hzero, if_pos hzero, Except.ok.injEq, eq_comm]
  · -- the frame has a word, so the first one can be read
    have hfirst : f.word 0 = .ok (UInt64.ofNat (f.memory.word f.start wordBytes)) := by
      rw [Frame.word, if_pos (Nat.pos_of_ne_zero hzero), Nat.mul_zero, Nat.add_zero]
    rw [if_neg hzero, if_neg hzero, Outcome.except_bind_eq_ok_iff, ← Memory.toInt_word,
      ← Frame.countOf_eq_ok_iff, hfirst]
    refine ⟨fun h => ?_, fun h => ⟨_, rfl, h⟩⟩
    obtain ⟨w, hw, h⟩ := h
    rw [Except.ok.injEq] at hw
    rwa [hw]

/-- What is read against the tags is what is spelled, wherever reading ends. -/
theorem readAll_result_eq_ok_iff {f : Frame} {function : String} {expected : List Tag}
    {values : List Value} :
    (match readAll f function 0 expected Frame.firstPosition with
      | .ok values _ => (.ok values : Except BridgeError (List Value))
      | .error e _ => .error e) = .ok values ↔
      Spells f.memory f.start f.words Frame.firstPosition expected values := by
  rw [← @readAll_eq_ok_iff f function expected values 0]
  cases readAll f function 0 expected Frame.firstPosition with
  | ok others j => simp only [Except.ok.injEq, EStateM.Result.ok.injEq, exists_and_left,
      exists_eq', and_true]
  | error e j => simp only [reduceCtorEq, exists_false]

/-- Decoding opens the frame, compares its count and reads it against the tags. -/
theorem decode_eq_ok_iff_exists {function : String} {expected : List Tag} {m : Memory}
    {p : Pointer} {words : Nat} {values : List Value} :
    decode function expected m p words = .ok values ↔
      ∃ f, Frame.at? m p words = .ok f ∧ f.count = .ok expected.length ∧
        Spells f.memory f.start f.words Frame.firstPosition expected values := by
  rw [decode, Outcome.except_bind_eq_ok_iff]
  apply exists_congr
  intro f
  rw [ofFrame, Outcome.mapError_eq_ok_iff, Outcome.except_bind_eq_ok_iff]
  apply and_congr_right
  intro _
  refine ⟨fun h => ?_, fun h => ?_⟩
  · obtain ⟨found, hcount, h⟩ := h
    rw [ofFrame, Outcome.mapError_eq_ok_iff] at hcount
    split at h
    · next hsame => exact ⟨hsame ▸ hcount, readAll_result_eq_ok_iff.mp h⟩
    · cases h
  · obtain ⟨hcount, h⟩ := h
    refine ⟨expected.length, by rw [ofFrame, Outcome.mapError_eq_ok_iff, hcount], ?_⟩
    rw [if_pos rfl]
    exact readAll_result_eq_ok_iff.mpr h

/-- **Decoding accepts exactly the argument frames.** It delivers `values` when no frame is declared
and no argument expected; or when a frame is declared, its words lie in the memory, the first one
holds the number of expected tags, and the ones behind it spell `values`. A list of tags with an
array in it is never accepted. -/
theorem decode_eq_ok_iff_spells (function : String) (expected : List Tag) (m : Memory)
    (p : Pointer) (words : Nat) (values : List Value) :
    (decode function expected m p words = .ok values ↔
      (p.isNull ∨ words = 0) ∧ expected = [] ∧ values = [] ∨
      ¬ (p.isNull ∨ words = 0) ∧
        p.offset + wordBytes * words ≤ m.size ∧
        m.signedWord p.offset = expected.length ∧
        Spells m p.offset words Frame.firstPosition expected values) ∧
    (.array ∈ expected → decode function expected m p words ≠ .ok values) := by
  rw [Ne, decode_eq_ok_iff_exists]
  refine ⟨?_, fun harray haccepted => ?_⟩
  · by_cases hnone : p.isNull ∨ words = 0
    · -- no word is declared: the count is zero, and nothing is spelled but the empty list
      simp only [at?_eq_ok_iff, hnone, if_true, true_and, not_true, false_and, or_false]
      refine ⟨fun h => ?_, fun h => ?_⟩
      · obtain ⟨f, rfl, hcount, hspells⟩ := h
        have hlength : expected.length = 0 := by
          rw [count_eq_ok_iff] at hcount
          exact hcount
        obtain rfl := List.eq_nil_of_length_eq_zero hlength
        cases hspells
        exact ⟨rfl, rfl⟩
      · obtain ⟨rfl, rfl⟩ := h
        exact ⟨_, rfl, rfl, .nil _⟩
    · -- words are declared: the frame that is opened is the declared one
      have hwords : words ≠ 0 := fun h => hnone (.inr h)
      simp only [at?_eq_ok_iff, hnone, if_false, false_and, false_or, not_false_eq_true, true_and]
      refine ⟨fun h => ?_, fun h => ?_⟩
      · obtain ⟨f, ⟨hin, rfl⟩, hcount, hspells⟩ := h
        rw [count_eq_ok_iff, if_neg hwords] at hcount
        exact ⟨hin, hcount, hspells⟩
      · obtain ⟨hin, hcount, hspells⟩ := h
        refine ⟨_, ⟨hin, rfl⟩, ?_, hspells⟩
        rw [count_eq_ok_iff, if_neg hwords]
        exact hcount
  · obtain ⟨f, -, -, hspells⟩ := haccepted
    exact hspells.array_notMem harray

/-- A fault is passed on with the name of the function. -/
theorem reading_eq_error_iff {α : Type} {function : String} {r : Frame.Reader α} {i j : Nat}
    {e : BridgeError} :
    reading function r i = .error e j ↔
      ∃ fault, r i = .error fault j ∧ .frame function fault = e := by
  unfold reading
  cases r i with
  | ok a k => simp only [reduceCtorEq, false_and, exists_false]
  | error fault k => simp only [EStateM.Result.error.injEq, and_assoc, exists_and_left,
      exists_eq_left', and_comm]

end GuestBridge.Arguments
