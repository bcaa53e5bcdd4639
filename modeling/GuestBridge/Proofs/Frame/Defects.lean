import GuestBridge.Proofs.Frame.Grammar
import GuestBridge.Proofs.Wire.Texts
/-!
# A refused frame names its first fault

Several things can be wrong with an argument frame at once: the declared words, the count, tags and
payloads at several positions, texts outside of the frame. The refusal names the first of them in
the order in which a guest wrote them. `Refusal` states which one that is over the bytes of memory,
like the grammar of the frames that are accepted (`Spells`): everything before the fault is as the
grammar has it, and the fault itself is described by what stands there.

The crux is the position that moves. A reader asks for one word after the other, so it runs out of
words at the first one that is missing, whose index is the declared number of words. That is what
`index ≤ words` carries through the induction: behind a value that lies in the frame the next index
is again at most the number of words.

## The bricks

* **`Frame.readPayload_fails_iff`** — what is wrong with a payload (`PayloadDefect`), one
  constructor a cause;
* **`readAll_fails_iff`** — reading against the tags fails at the first value at fault. Induction on
  the tags.

## Main statement

* **`refusal_names_first_fault`** — decoding fails with an error exactly when it is the one that
  `Refusal` names, and no value could have been read where that one puts the fault.
-/

namespace GuestBridge

namespace Frame

/-! ## Computations that give up -/

section Fails

variable {ε α β : Type}

/-- A computation that starts at the word with a given index ends with an error. -/
def Fails (r : EStateM ε Nat α) (index : Nat) (e : ε) : Prop := ∃ j, r index = .error e j

variable {r : EStateM ε Nat α} {g : α → EStateM ε Nat β} {i : Nat} {e : ε}

/-- A sequence fails where its first part does, or the rest behind it. -/
theorem fails_bind_iff :
    Fails (r >>= g) i e ↔ Fails r i e ∨ ∃ a k, r i = .ok a k ∧ Fails (g a) k e := by
  unfold Fails
  simp only [Outcome.bind_eq_error_iff]
  constructor
  · rintro ⟨j, hfirst | ⟨a, k, ha, hrest⟩⟩
    · exact .inl ⟨j, hfirst⟩
    · exact .inr ⟨a, k, ha, j, hrest⟩
  · rintro (⟨j, hfirst⟩ | ⟨a, k, ha, j, hrest⟩)
    · exact ⟨j, .inl hfirst⟩
    · exact ⟨j, .inr ⟨a, k, ha, hrest⟩⟩

theorem not_fails_pure (a : α) : ¬ Fails (pure a : EStateM ε Nat α) i e := by
  rintro ⟨j, h⟩
  cases h

theorem fails_throw_iff {e' : ε} : Fails (throw e' : EStateM ε Nat α) i e ↔ e = e' := by
  constructor
  · rintro ⟨j, h⟩
    cases h
    rfl
  · rintro rfl
    exact ⟨i, rfl⟩

/-- What only renames the result fails where its part does. -/
theorem fails_bind_pure_iff (f : α → β) : Fails (r >>= fun a => pure (f a)) i e ↔ Fails r i e := by
  rw [fails_bind_iff]
  constructor
  · rintro (h | ⟨a, k, -, h⟩)
    · exact h
    · exact absurd h (not_fails_pure _)
  · exact .inl

end Fails

variable {α : Type} {f : Frame} {i : Nat} {fault : Fault}

theorem lift_fails_iff {r : Except Fault α} : Fails (lift r) i fault ↔ r = .error fault := by
  cases r with
  | ok a =>
    simp only [lift, reduceCtorEq, iff_false]
    exact not_fails_pure a
  | error e =>
    rw [lift, fails_throw_iff, Except.error.injEq, eq_comm]

/-- A reader that starts with the next word gives up when there is none, or where the rest gives up
on that word. -/
theorem next_bind_fails_iff {g : UInt64 → Reader α} (hi : i ≤ f.words) :
    Fails (f.next >>= g) i fault ↔
      i = f.words ∧ fault = .frameTooShort f.words f.words ∨
        i < f.words ∧
          Fails (g (UInt64.ofNat (f.memory.word (f.address i) wordBytes))) (i + 1) fault := by
  by_cases h : i < f.words
  · have hword : f.next i = .ok (UInt64.ofNat (f.memory.word (f.address i) wordBytes)) (i + 1) := by
      rw [next, word, if_pos h]
      rfl
    unfold Fails
    rw [Outcome.bind_apply, hword]
    simp [h, Nat.ne_of_lt h]
  · -- no word at this index, which is then the number of words
    obtain rfl : i = f.words := Nat.le_antisymm hi (Nat.le_of_not_lt h)
    have hword : f.next f.words = .error (.frameTooShort f.words f.words) f.words := by
      rw [next, word, if_neg h]
    unfold Fails
    rw [Outcome.bind_apply, hword]
    simp [eq_comm]

/-- A count is refused when it is negative. -/
theorem countOf_eq_error_iff {raw : Int64} :
    countOf raw = .error fault ↔ raw.toInt < 0 ∧ fault = .invalidCount raw := by
  have hneg : raw < 0 ↔ raw.toInt < 0 := by
    rw [Int64.lt_iff_toInt_lt, Int64.toInt_zero]
  unfold countOf
  by_cases h : raw < 0
  · rw [if_pos h, Except.error.injEq, eq_comm]
    simp [hneg.mp h]
  · rw [if_neg h]
    simp [mt hneg.mpr h]

/-! ## Tags -/

/-- A signed word is one number, so what is said of it is said of that one. -/
theorem exists_raw_iff {m : Memory} {offset : Nat} {q : Int64 → Prop} :
    (∃ raw : Int64, m.signedWord offset = raw.toInt ∧ q raw) ↔
      q (UInt64.ofNat (m.word offset wordBytes)).toInt64 := by
  rw [← Memory.toInt_word]
  constructor
  · rintro ⟨raw, hraw, hq⟩
    obtain rfl := Int64.toInt_inj.mp hraw
    exact hq
  · exact fun hq => ⟨_, rfl, hq⟩

/-- A tag is refused when its word is missing or holds the number of no tag. -/
theorem readTag_fails_iff (hi : i ≤ f.words) :
    Fails f.readTag i fault ↔
      i = f.words ∧ fault = .frameTooShort f.words f.words ∨
        i < f.words ∧ ∃ raw : Int64, f.memory.signedWord (f.address i) = raw.toInt ∧
          (∀ t : Tag, raw.toInt ≠ t.wire) ∧ fault = .invalidTag raw := by
  rw [readTag, next_bind_fails_iff hi]
  apply or_congr_right
  apply and_congr_right
  intro _
  rw [exists_raw_iff]
  generalize (UInt64.ofNat (f.memory.word (f.address i) wordBytes)).toInt64 = raw
  dsimp only
  cases htag : Tag.ofWire? raw with
  | some t =>
    -- the number of a tag raises no fault
    have hwire := ofWire?_eq_some_iff_toInt.mp htag
    simp only [not_fails_pure, false_iff, not_and]
    intro hnone
    exact absurd hwire (hnone t)
  | none =>
    have hnone (t : Tag) : raw.toInt ≠ t.wire := by
      intro hwire
      rw [ofWire?_eq_some_iff_toInt.mpr hwire] at htag
      cases htag
    rw [fails_throw_iff]
    simp [hnone]

/-! ## Payloads -/

/-- What is wrong with the payload of a tag whose first word has a given index. A missing word comes
before all else, as both words of a text are taken before either is judged. -/
inductive PayloadDefect (m : Memory) (start words index : Nat) : Tag → Fault → Prop
  | missing {tag : Tag} (short : words < index + tag.payloadWords) :
      PayloadDefect m start words index tag (.frameTooShort words words)
  | int {raw : Int64} (inFrame : index < words)
      (held : m.signedWord (start + wordBytes * index) = raw.toInt)
      (wide : raw.toInt < -2 ^ 31 ∨ 2 ^ 31 ≤ raw.toInt) :
      PayloadDefect m start words index .int (.intOutOfRange raw)
  | length {raw : Int64} (inFrame : index + 1 < words)
      (held : m.signedWord (start + wordBytes * index) = raw.toInt) (negative : raw.toInt < 0) :
      PayloadDefect m start words index .string (.invalidCount raw)
  | pointer {length : Nat} (inFrame : index + 1 < words)
      (held : m.signedWord (start + wordBytes * index) = length)
      (wide : UInt32.size ≤ m.word (start + wordBytes * (index + 1)) wordBytes) :
      PayloadDefect m start words index .string
        (.outOfBounds (m.word (start + wordBytes * (index + 1)) wordBytes) length m.size)
  | text {length : Nat} {p : Pointer} {fault : Fault} (inFrame : index + 1 < words)
      (held : m.signedWord (start + wordBytes * index) = length)
      (stands : m.signedWord (start + wordBytes * (index + 1)) = p.offset)
      (defect : Slots.Defect m p length fault) :
      PayloadDefect m start words index .string fault
  | array : PayloadDefect m start words index .array (.unsupported .array)

/-- A number fits 32 bits unless it survives the way there and back. -/
theorem toInt32_overflow_iff {raw : Int64} :
    raw.toInt32.toInt64 ≠ raw ↔ raw.toInt < -2 ^ 31 ∨ 2 ^ 31 ≤ raw.toInt := by
  constructor
  · intro hraw
    by_contra hfits
    have hint : (Int32.ofInt raw.toInt).toInt = raw.toInt := by
      rw [Int32.toInt_ofInt]
      have hsize : (Int32.size : Int) = 2 ^ 32 := rfl
      exact Int.bmod_eq_of_le_mul_two (by omega) (by omega)
    exact hraw (toInt32_roundtrip_iff.mpr hint.symm).1
  · intro hwide hraw
    have hint := toInt32_roundtrip_iff.mp ⟨hraw, rfl⟩
    have hlow := raw.toInt32.le_toInt
    have hhigh := raw.toInt32.toInt_lt
    omega

/-- An integer is refused when its word is missing or too wide. -/
theorem readInt_fails_iff (hi : i ≤ f.words) :
    Fails f.readInt i fault ↔ PayloadDefect f.memory f.start f.words i .int fault := by
  rw [readInt, next_bind_fails_iff hi]
  constructor
  · rintro (⟨rfl, rfl⟩ | ⟨hlt, hfails⟩)
    · exact .missing (Nat.lt_succ_self _)
    · dsimp only at hfails
      split at hfails
      · exact absurd hfails (not_fails_pure _)
      · next hwide =>
        obtain rfl := fails_throw_iff.mp hfails
        exact .int hlt (Memory.toInt_word ..).symm (toInt32_overflow_iff.mp hwide)
  · intro hdefect
    cases hdefect with
    | missing short =>
      have hshort : f.words < i + 1 := short
      exact .inl ⟨by omega, rfl⟩
    | int inFrame held wide =>
      obtain rfl := Int64.toInt_inj.mp ((Memory.toInt_word f.memory (f.address i)).trans held)
      refine .inr ⟨inFrame, ?_⟩
      dsimp only
      rw [if_neg (toInt32_overflow_iff.mpr wide)]
      exact fails_throw_iff.mpr rfl

/-- A double is refused only when its word is missing. -/
theorem readReal_fails_iff (hi : i ≤ f.words) :
    Fails f.readReal i fault ↔ PayloadDefect f.memory f.start f.words i .real fault := by
  rw [readReal, next_bind_fails_iff hi]
  simp only [not_fails_pure, and_false, or_false]
  constructor
  · rintro ⟨rfl, rfl⟩
    exact .missing (Nat.lt_succ_self _)
  · intro hdefect
    cases hdefect with
    | missing short =>
      have hshort : f.words < i + 1 := short
      exact ⟨by omega, rfl⟩

/-- A text whose words are there fails for its length, its pointer or what stands at it. -/
theorem readString_fails_iff (hi : i ≤ f.words) :
    Fails f.readString i fault ↔ PayloadDefect f.memory f.start f.words i .string fault := by
  have hlength := Memory.toInt_word f.memory (f.address i)
  have hpointer := Memory.toNat_word f.memory (f.address (i + 1))
  rw [readString, next_bind_fails_iff hi]
  constructor
  · rintro (⟨rfl, rfl⟩ | ⟨hfirst, hfails⟩)
    · exact .missing (Nat.lt_add_of_pos_right (by decide))
    -- In the order in which the reader judges: the second word, the length, the pointer, the text.
    rcases (next_bind_fails_iff hfirst).mp hfails with ⟨hi', rfl⟩ | ⟨hsecond, hfails⟩
    · refine .missing ?_
      show f.words < i + 2
      omega
    rcases fails_bind_iff.mp hfails with hcount | ⟨length, k, hcount, hfails⟩
    · obtain ⟨hnegative, rfl⟩ := countOf_eq_error_iff.mp (lift_fails_iff.mp hcount)
      exact .length hsecond hlength.symm hnegative
    obtain ⟨hok, -⟩ := lift_eq_ok_iff.mp hcount
    have hheld := hlength.symm.trans (countOf_eq_ok_iff.mp hok)
    rw [hpointer] at hfails
    split at hfails
    · next hnarrow =>
      have hdefect := Slots.decode_eq_error_iff.mp (lift_fails_iff.mp hfails)
      exact .text hsecond hheld (pointer_word_iff.mp ⟨hnarrow, rfl⟩) hdefect
    · next hwide =>
      obtain rfl := fails_throw_iff.mp hfails
      exact .pointer hsecond hheld (Nat.le_of_not_lt hwide)
  · intro hdefect
    -- the first word is missing, or the second, or both are there and the rest is judged
    by_cases hfirst : i < f.words
    · refine .inr ⟨hfirst, (next_bind_fails_iff hfirst).mpr ?_⟩
      by_cases hsecond : i + 1 < f.words
      · refine .inr ⟨hsecond, fails_bind_iff.mpr ?_⟩
        rw [hpointer]
        have hcount {n : Nat} (hheld : f.memory.signedWord (f.address i) = n) :
            (lift (countOf (UInt64.ofNat (f.memory.word (f.address i) wordBytes)).toInt64) :
              Reader Nat) (i + 1 + 1) = .ok n (i + 1 + 1) :=
          lift_eq_ok_iff.mpr ⟨countOf_eq_ok_iff.mpr (hlength.trans hheld), rfl⟩
        cases hdefect with
        | missing short =>
          have hshort : f.words < i + 2 := short
          omega
        | length _ held negative =>
          obtain rfl := Int64.toInt_inj.mp (hlength.trans held)
          exact .inl (lift_fails_iff.mpr (countOf_eq_error_iff.mpr ⟨negative, rfl⟩))
        | pointer _ held wide =>
          have hwide : ¬ f.memory.word (f.address (i + 1)) wordBytes < UInt32.size :=
            Nat.not_lt.mpr wide
          refine .inr ⟨_, _, hcount held, ?_⟩
          rw [if_neg hwide]
          exact fails_throw_iff.mpr rfl
        | @text length p _ _ held stands defect =>
          have hstands : f.memory.signedWord (f.address (i + 1)) = p.offset := stands
          obtain ⟨hnarrow, rfl⟩ := pointer_word_iff.mpr hstands
          refine .inr ⟨_, _, hcount held, ?_⟩
          rw [if_pos hnarrow]
          exact lift_fails_iff.mpr (Slots.decode_eq_error_iff.mpr defect)
      · cases hdefect with
        | missing short => exact .inl ⟨by omega, rfl⟩
        | length inFrame | pointer inFrame | text inFrame => exact absurd inFrame hsecond
    · cases hdefect with
      | missing short => exact .inl ⟨by omega, rfl⟩
      | length inFrame | pointer inFrame | text inFrame => omega

/-- A payload is refused for what is wrong with it. -/
theorem readPayload_fails_iff {tag : Tag} (hi : i ≤ f.words) :
    Fails (f.readPayload tag) i fault ↔ PayloadDefect f.memory f.start f.words i tag fault := by
  cases tag with
  | int => exact (fails_bind_pure_iff Value.int).trans (readInt_fails_iff hi)
  | real => exact (fails_bind_pure_iff Value.real).trans (readReal_fails_iff hi)
  | string => exact (fails_bind_pure_iff Value.string).trans (readString_fails_iff hi)
  | array =>
    refine fails_throw_iff.trans ⟨?_, fun hdefect => ?_⟩
    · rintro rfl
      exact .array
    · cases hdefect with
      | missing short =>
        have hshort : f.words < i := short
        omega
      | array => rfl

end Frame

namespace Arguments

/-! ## Values -/

/-- How many words the values of some tags take. -/
def wordCount (tags : List Tag) : Nat := (tags.map fun tag => 1 + tag.payloadWords).sum

/-- What is wrong with the value at a position, whose tag word has a given index. -/
inductive ValueDefect (function : String) (m : Memory) (start words index position : Nat)
    (tag : Tag) : BridgeError → Prop
  | missing (short : words ≤ index) :
      ValueDefect function m start words index position tag
        (.frame function (.frameTooShort words words))
  | noTag {raw : Int64} (inFrame : index < words)
      (held : m.signedWord (start + wordBytes * index) = raw.toInt)
      (none : ∀ t : Tag, raw.toInt ≠ t.wire) :
      ValueDefect function m start words index position tag (.frame function (.invalidTag raw))
  | otherTag {found : Tag} (inFrame : index < words)
      (held : m.signedWord (start + wordBytes * index) = found.wire) (other : found ≠ tag) :
      ValueDefect function m start words index position tag
        (.tagMismatch function position tag found)
  | payload {fault : Fault} (inFrame : index < words)
      (held : m.signedWord (start + wordBytes * index) = tag.wire)
      (defect : Frame.PayloadDefect m start words (index + 1) tag fault) :
      ValueDefect function m start words index position tag (.frame function fault)

/-- The words at an index spell a value of a tag, and lie in the frame. -/
structure SpellsValue (m : Memory) (start words index : Nat) (tag : Tag) (value : Value) :
    Prop where
  held : m.signedWord (start + wordBytes * index) = tag.wire
  kind : value.tag = tag
  inFrame : index + 1 + tag.payloadWords ≤ words
  payload : Frame.Denotes m (start + wordBytes * (index + 1)) value

/-- The first value at fault: the values before it are spelled as the grammar has them. -/
def FirstDefect (function : String) (m : Memory) (start words index position : Nat)
    (tags : List Tag) (e : BridgeError) : Prop :=
  ∃ before tag after values, tags = before ++ tag :: after ∧
    Spells m start words index before values ∧
    ValueDefect function m start words (index + wordCount before) (position + before.length) tag e

theorem wordCount_cons (tag : Tag) (tags : List Tag) :
    wordCount (tag :: tags) = 1 + tag.payloadWords + wordCount tags := by
  simp only [wordCount, List.map_cons, List.sum_cons]

/-- The first value of several is at fault, or it is spelled and the fault is behind it. -/
theorem firstDefect_cons_iff {function : String} {m : Memory} {start words index position : Nat}
    {tag : Tag} {rest : List Tag} {e : BridgeError} :
    FirstDefect function m start words index position (tag :: rest) e ↔
      ValueDefect function m start words index position tag e ∨
        ∃ value, SpellsValue m start words index tag value ∧
          FirstDefect function m start words (index + 1 + tag.payloadWords) (position + 1) rest
            e := by
  have hindex (before : List Tag) : index + wordCount (tag :: before) =
      index + 1 + tag.payloadWords + wordCount before := by
    rw [wordCount_cons]
    omega
  have hposition (before : List Tag) : position + (tag :: before).length =
      position + 1 + before.length := by
    rw [List.length_cons]
    omega
  constructor
  · rintro ⟨before, wrong, after, values, hsplit, hspells, hdefect⟩
    -- The values before the fault are none, or the first one and those before it in the rest.
    cases before with
    | nil =>
      cases hsplit
      exact .inl hdefect
    | cons first before =>
      cases hsplit
      rw [hindex, hposition] at hdefect
      cases hspells with
      | cons held kind inFrame payload hspells =>
        exact .inr ⟨_, ⟨held, kind, inFrame, payload⟩, before, wrong, after, _, rfl, hspells,
          hdefect⟩
  · rintro (hdefect | ⟨value, hvalue, before, wrong, after, values, rfl, hspells, hdefect⟩)
    · exact ⟨[], tag, rest, [], rfl, .nil index, hdefect⟩
    · rw [← hindex, ← hposition] at hdefect
      exact ⟨tag :: before, wrong, after, value :: values, rfl,
        .cons hvalue.held hvalue.kind hvalue.inFrame hvalue.payload hspells, hdefect⟩

variable {f : Frame} {function : String} {e : BridgeError}

/-- A reader of the frame of a function fails with the fault and the name of the function. -/
theorem reading_fails_iff {α : Type} {r : Frame.Reader α} {i : Nat} :
    Frame.Fails (reading function r) i e ↔
      ∃ fault, Frame.Fails r i fault ∧ e = .frame function fault := by
  unfold Frame.Fails
  simp only [reading_eq_error_iff]
  constructor
  · rintro ⟨j, fault, hfault, rfl⟩
    exact ⟨fault, ⟨j, hfault⟩, rfl⟩
  · rintro ⟨fault, ⟨j, hfault⟩, rfl⟩
    exact ⟨j, fault, hfault, rfl⟩

/-- Reading fails at the first value, or it delivers that one and fails behind it. -/
theorem readAll_cons_fails_iff {tag : Tag} {rest : List Tag} {position i : Nat}
    (hi : i ≤ f.words) :
    Frame.Fails (readAll f function position (tag :: rest)) i e ↔
      ValueDefect function f.memory f.start f.words i position tag e ∨
        ∃ value, SpellsValue f.memory f.start f.words i tag value ∧
          Frame.Fails (readAll f function (position + 1) rest) (i + 1 + tag.payloadWords) e := by
  rw [readAll, Frame.fails_bind_iff, reading_fails_iff]
  simp only [reading_eq_ok_iff, Frame.readTag_eq_ok_iff, Frame.readTag_fails_iff hi]
  constructor
  · rintro (⟨fault, ⟨rfl, rfl⟩ | ⟨hlt, raw, held, none, rfl⟩, rfl⟩ |
      ⟨found, k, ⟨hlt, held, rfl⟩, hfails⟩)
    · exact .inl (.missing (Nat.le_refl _))
    · exact .inl (.noTag hlt held none)
    split at hfails
    · next hsame =>
      -- the tag is the expected one, so the payload is at fault or the rest behind it
      subst hsame
      rcases Frame.fails_bind_iff.mp hfails with hpayload | ⟨value, k, hvalue, hfails⟩
      · obtain ⟨fault, hfault, rfl⟩ := reading_fails_iff.mp hpayload
        exact .inl (.payload hlt held ((Frame.readPayload_fails_iff hlt).mp hfault))
      · obtain ⟨kind, inFrame, payload, rfl⟩ :=
          Frame.readPayload_eq_ok_iff.mp (reading_eq_ok_iff.mp hvalue)
        exact .inr ⟨value, ⟨held, kind, inFrame, payload⟩,
          (Frame.fails_bind_pure_iff (value :: ·)).mp hfails⟩
    · next hother =>
      obtain rfl := Frame.fails_throw_iff.mp hfails
      exact .inl (.otherTag hlt held hother)
  · rintro (hdefect | ⟨value, ⟨held, kind, inFrame, payload⟩, hfails⟩)
    · cases hdefect with
      | missing short =>
        exact .inl ⟨_, .inl ⟨Nat.le_antisymm hi short, rfl⟩, rfl⟩
      | noTag inFrame held none => exact .inl ⟨_, .inr ⟨inFrame, _, held, none, rfl⟩, rfl⟩
      | otherTag inFrame held other =>
        refine .inr ⟨_, _, ⟨inFrame, held, rfl⟩, ?_⟩
        rw [if_neg other]
        exact Frame.fails_throw_iff.mpr rfl
      | payload inFrame held defect =>
        refine .inr ⟨_, _, ⟨inFrame, held, rfl⟩, ?_⟩
        rw [if_pos rfl, Frame.fails_bind_iff, reading_fails_iff]
        exact .inl ⟨_, (Frame.readPayload_fails_iff inFrame).mpr defect, rfl⟩
    · have hlt : i < f.words := by omega
      refine .inr ⟨_, _, ⟨hlt, held, rfl⟩, ?_⟩
      rw [if_pos rfl, Frame.fails_bind_iff]
      refine .inr ⟨value, _, reading_eq_ok_iff.mpr
        (Frame.readPayload_eq_ok_iff.mpr ⟨kind, inFrame, payload, rfl⟩), ?_⟩
      exact (Frame.fails_bind_pure_iff (value :: ·)).mpr hfails

/-- Reading against the tags fails at the first value at fault. -/
theorem readAll_fails_iff {tags : List Tag} {position i : Nat} (hi : i ≤ f.words) :
    Frame.Fails (readAll f function position tags) i e ↔
      FirstDefect function f.memory f.start f.words i position tags e := by
  -- Induction on the tags: behind a value that is spelled the next index is in the frame again.
  induction tags generalizing position i with
  | nil =>
    constructor
    · intro h
      exact absurd h (Frame.not_fails_pure [])
    · rintro ⟨before, tag, after, values, hsplit, -⟩
      simp at hsplit
  | cons tag rest ih =>
    rw [readAll_cons_fails_iff hi, firstDefect_cons_iff]
    apply or_congr_right
    apply exists_congr
    intro value
    apply and_congr_right
    intro hvalue
    exact ih hvalue.inFrame

/-! ## Decoding -/

/-- What a frame declares as its number of values: none where no words are declared, and otherwise
the number in the first of its words, which lie in the memory. -/
def Declares (m : Memory) (p : Pointer) (words : Nat) (count : Int) : Prop :=
  if p.isNull ∨ words = 0 then count = 0
  else p.offset + wordBytes * words ≤ m.size ∧ m.signedWord p.offset = count

/-- Why an argument frame is refused, with the error that says so. -/
inductive Refusal (function : String) (expected : List Tag) (m : Memory) (p : Pointer)
    (words : Nat) : BridgeError → Prop
  | outside (declared : ¬ (p.isNull ∨ words = 0))
      (outside : m.size < p.offset + wordBytes * words) :
      Refusal function expected m p words
        (.frame function (.outOfBounds p.offset (min (wordBytes * words) maxByteCount) m.size))
  | count {raw : Int64} (held : Declares m p words raw.toInt) (negative : raw.toInt < 0) :
      Refusal function expected m p words (.frame function (.invalidCount raw))
  | arity {found : Nat} (held : Declares m p words found) (other : found ≠ expected.length) :
      Refusal function expected m p words (.arityMismatch function expected.length found)
  | value {e : BridgeError} (held : Declares m p words expected.length)
      (first : FirstDefect function m p.offset words Frame.firstPosition 0 expected e) :
      Refusal function expected m p words e

variable {m : Memory} {p : Pointer} {words : Nat} {fault : Fault}

/-- A frame is refused as such only when its words leave the memory. -/
theorem at?_eq_error_iff :
    Frame.at? m p words = .error fault ↔
      ¬ (p.isNull ∨ words = 0) ∧ m.size < p.offset + wordBytes * words ∧
        fault = .outOfBounds p.offset (min (wordBytes * words) maxByteCount) m.size := by
  unfold Frame.at?
  by_cases hnone : p.isNull ∨ words = 0
  · have hb : (p.isNull || words == 0) = true := by simpa using hnone
    rw [if_pos hb]
    simp only [reduceCtorEq, hnone, not_true, false_and]
  · have hb : ¬ (p.isNull || words == 0) = true := by simpa using hnone
    rw [if_neg hb]
    by_cases hin : p.offset + wordBytes * words ≤ m.size
    · rw [dif_pos hin]
      simp only [reduceCtorEq, Nat.not_lt.mpr hin, false_and, and_false]
    · rw [dif_neg hin, Except.error.injEq, eq_comm]
      simp only [hnone, not_false_eq_true, Nat.lt_of_not_le hin, true_and]

/-- A count is refused when it is negative. -/
theorem count_eq_error_iff :
    f.count = .error fault ↔
      f.words ≠ 0 ∧ ∃ raw : Int64, f.memory.signedWord f.start = raw.toInt ∧ raw.toInt < 0 ∧
        fault = .invalidCount raw := by
  unfold Frame.count
  by_cases hzero : f.words = 0
  · rw [if_pos hzero]
    simp only [reduceCtorEq, hzero, ne_eq, not_true, false_and]
  · -- the frame has a word, so its first one is judged
    have hfirst : f.word 0 = .ok (UInt64.ofNat (f.memory.word f.start wordBytes)) := by
      rw [Frame.word, if_pos (Nat.pos_of_ne_zero hzero), Nat.mul_zero, Nat.add_zero]
    rw [if_neg hzero, Outcome.except_bind_eq_error_iff, hfirst, Frame.exists_raw_iff]
    simp only [reduceCtorEq, false_or, Except.ok.injEq, exists_eq_left', Frame.countOf_eq_error_iff,
      ne_eq, hzero, not_false_eq_true, true_and]

/-- Decoding fails when the frame cannot be opened, when its count is refused or another, or where
reading against the tags fails. -/
theorem decode_eq_error_iff_exists {expected : List Tag} :
    decode function expected m p words = .error e ↔
      (∃ fault, Frame.at? m p words = .error fault ∧ e = .frame function fault) ∨
        ∃ f, Frame.at? m p words = .ok f ∧
          ((∃ fault, f.count = .error fault ∧ e = .frame function fault) ∨
            (∃ found, f.count = .ok found ∧ found ≠ expected.length ∧
              e = .arityMismatch function expected.length found) ∨
            f.count = .ok expected.length ∧
              Frame.Fails (readAll f function 0 expected) Frame.firstPosition e) := by
  simp only [decode, ofFrame, Outcome.except_bind_eq_error_iff, Outcome.mapError_eq_error_iff,
    Outcome.mapError_eq_ok_iff]
  apply or_congr
  · exact exists_congr fun _ => and_congr_right fun _ => eq_comm
  · apply exists_congr
    intro f
    apply and_congr_right
    intro _
    apply or_congr
    · exact exists_congr fun _ => and_congr_right fun _ => eq_comm
    · constructor
      · rintro ⟨found, hcount, h⟩
        split at h
        · next hsame =>
          right
          refine ⟨hsame ▸ hcount, ?_⟩
          -- where reading ends is not part of the error
          cases hread : readAll f function 0 expected Frame.firstPosition with
          | ok values j =>
            rw [hread] at h
            cases h
          | error e' j =>
            rw [hread] at h
            cases h
            exact ⟨j, hread⟩
        · next hother => exact .inl ⟨found, hcount, hother, (Except.error.inj h).symm⟩
      · rintro (⟨found, hcount, hother, rfl⟩ | ⟨hcount, j, hread⟩)
        · exact ⟨found, hcount, by rw [if_neg hother]⟩
        · refine ⟨_, hcount, ?_⟩
          rw [if_pos rfl, hread]

section Opened

variable (hf : Frame.at? m p words = .ok f)
include hf

/-- The frame that is opened has the declared count. -/
theorem count_of_opened {count : Nat} : f.count = .ok count ↔ Declares m p words count := by
  rw [at?_eq_ok_iff] at hf
  rw [count_eq_ok_iff, Declares]
  by_cases hnone : p.isNull ∨ words = 0
  · rw [if_pos hnone] at hf ⊢
    subst hf
    rw [if_pos (show (Frame.empty m).words = 0 from rfl)]
    omega
  · rw [if_neg hnone] at hf ⊢
    obtain ⟨hin, rfl⟩ := hf
    have hwords : words ≠ 0 := fun h => hnone (.inr h)
    rw [if_neg hwords, and_iff_right hin]

/-- A count is refused only where one is declared, and is negative. -/
theorem count_refused_of_opened :
    f.count = .error fault ↔
      ∃ raw : Int64, Declares m p words raw.toInt ∧ raw.toInt < 0 ∧ fault = .invalidCount raw := by
  rw [at?_eq_ok_iff] at hf
  rw [count_eq_error_iff]
  by_cases hnone : p.isNull ∨ words = 0
  · -- no count that is declared is negative
    rw [if_pos hnone] at hf
    have hdeclares (count : Int) : Declares m p words count ↔ count = 0 := by
      rw [Declares, if_pos hnone]
    subst hf
    simp only [hdeclares, ne_eq, show (Frame.empty m).words = 0 from rfl, not_true, false_and,
      false_iff, not_exists, not_and]
    intro raw hzero hnegative
    omega
  · rw [if_neg hnone] at hf
    obtain ⟨hin, rfl⟩ := hf
    have hwords : words ≠ 0 := fun h => hnone (.inr h)
    have hdeclares (count : Int) : Declares m p words count ↔ m.signedWord p.offset = count := by
      rw [Declares, if_neg hnone, and_iff_right hin]
    simp only [hdeclares, ne_eq, hwords, not_false_eq_true, true_and]

/-- Where as many values are declared as expected, reading fails at the first value at fault. -/
theorem readAll_of_opened {expected : List Tag} (hcount : Declares m p words expected.length) :
    Frame.Fails (readAll f function 0 expected) Frame.firstPosition e ↔
      FirstDefect function m p.offset words Frame.firstPosition 0 expected e := by
  rw [at?_eq_ok_iff] at hf
  unfold Declares at hcount
  by_cases hnone : p.isNull ∨ words = 0
  · -- nothing is expected, so there is nothing to be at fault
    rw [if_pos hnone] at hcount
    obtain rfl : expected = [] := List.eq_nil_of_length_eq_zero (by omega)
    constructor
    · intro h
      exact absurd h (Frame.not_fails_pure [])
    · rintro ⟨before, tag, after, values, hsplit, -⟩
      simp at hsplit
  · rw [if_neg hnone] at hf
    obtain ⟨hin, rfl⟩ := hf
    have hwords : words ≠ 0 := fun h => hnone (.inr h)
    exact readAll_fails_iff (show 1 ≤ words by omega)

end Opened

/-- A frame that declares a count can be opened. -/
theorem Declares.opened {count : Int} (h : Declares m p words count) :
    ∃ f, Frame.at? m p words = .ok f := by
  unfold Declares at h
  simp only [at?_eq_ok_iff]
  by_cases hnone : p.isNull ∨ words = 0
  · simp only [hnone, if_true]
    exact ⟨_, rfl⟩
  · rw [if_neg hnone] at h
    simp only [hnone, if_false]
    exact ⟨_, h.1, rfl⟩

/-- Decoding fails with what is refused. -/
theorem decode_eq_error_iff {expected : List Tag} :
    decode function expected m p words = .error e ↔ Refusal function expected m p words e := by
  rw [decode_eq_error_iff_exists]
  constructor
  -- In the order of the decoder: the frame, its count, the number of arguments, the values.
  · rintro (⟨fault, hclosed, rfl⟩ | ⟨f, hf, ⟨fault, hcount, rfl⟩ | ⟨found, hcount, hother, rfl⟩ |
      ⟨hcount, hfails⟩⟩)
    · obtain ⟨hdeclared, houtside, rfl⟩ := at?_eq_error_iff.mp hclosed
      exact .outside hdeclared houtside
    · obtain ⟨raw, hheld, hnegative, rfl⟩ := (count_refused_of_opened hf).mp hcount
      exact .count hheld hnegative
    · exact .arity ((count_of_opened hf).mp hcount) hother
    · have hheld := (count_of_opened hf).mp hcount
      exact .value hheld ((readAll_of_opened hf hheld).mp hfails)
  · intro hrefusal
    cases hrefusal with
    | outside declared outside =>
      exact .inl ⟨_, at?_eq_error_iff.mpr ⟨declared, outside, rfl⟩, rfl⟩
    | count held negative =>
      -- What a frame declares or holds can only be read from an opened one.
      obtain ⟨f, hf⟩ := held.opened
      exact .inr ⟨f, hf, .inl ⟨_, (count_refused_of_opened hf).mpr ⟨_, held, negative, rfl⟩, rfl⟩⟩
    | arity held other =>
      obtain ⟨f, hf⟩ := held.opened
      exact .inr ⟨f, hf, .inr (.inl ⟨_, (count_of_opened hf).mpr held, other, rfl⟩)⟩
    | value held first =>
      obtain ⟨f, hf⟩ := held.opened
      exact .inr ⟨f, hf, .inr (.inr
        ⟨(count_of_opened hf).mpr held, (readAll_of_opened hf held).mpr first⟩)⟩

/-- A value at fault is not spelled. -/
theorem ValueDefect.not_spells {start index position : Nat} {tag : Tag}
    (hin : start + wordBytes * words ≤ m.size)
    (h : ValueDefect function m start words index position tag e) (value : Value) :
    ¬ SpellsValue m start words index tag value := by
  -- a reader at this index would both fail and deliver the value
  intro hvalue
  have hindex : index ≤ words := by
    have hinFrame := hvalue.inFrame
    omega
  let f : Frame := ⟨m, start, words, hin⟩
  have hfails : Frame.Fails (readAll f function position [tag]) index e :=
    (readAll_cons_fails_iff hindex).mpr (.inl h)
  have hspells : Spells m start words index [tag] [value] :=
    .cons hvalue.held hvalue.kind hvalue.inFrame hvalue.payload (.nil _)
  obtain ⟨j, hok⟩ := (readAll_eq_ok_iff (f := f)).mpr hspells
  obtain ⟨k, herror⟩ := hfails
  cases hok.symm.trans herror

/-- **A refused frame names its first fault.** Decoding fails exactly with the error that `Refusal`
gives for what stands in memory:
* the declared words leave the memory, or the count in the first of them is negative;
* the count is not the number of expected tags, whatever stands behind it;
* or as many values are declared as expected, the values before a position are spelled as the
  grammar has them, and the value at that position is at fault: its tag word is missing, holds the
  number of no tag or that of another tag, or its payload is at fault. A word is missing at the
  index that is the declared number of words.

The position is the first one of its kind, since a value at fault is never spelled. -/
theorem refusal_names_first_fault (function : String) (expected : List Tag) (m : Memory)
    (p : Pointer) (words : Nat) (e : BridgeError) :
    (decode function expected m p words = .error e ↔ Refusal function expected m p words e) ∧
    (p.offset + wordBytes * words ≤ m.size → ∀ index position tag,
      ValueDefect function m p.offset words index position tag e →
        ∀ value, ¬ SpellsValue m p.offset words index tag value) :=
  ⟨decode_eq_error_iff, fun hin _ _ _ h value => h.not_spells hin value⟩

/-- An integer that is too wide, before a tag that is none and a frame that is too short. -/
example :
    decode "F" [.int, .string]
      (.ofBytes (List.replicate 8 0 ++ [2, 1, 2 ^ 40, 9].flatMap (Word.toBytes wordBytes))) ⟨8⟩ 4 =
      .error (.frame "F" (.intOutOfRange (2 ^ 40))) := by decide +kernel

end Arguments

end GuestBridge
