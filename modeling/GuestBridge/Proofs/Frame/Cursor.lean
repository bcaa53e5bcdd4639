import GuestBridge.Proofs.Frame.Defects
/-!
# Where a reader stands

A reader moves past each word that it was given, also when that word is refused afterwards, so a
reading can fail with some of its words taken: behind the tag, behind the length of a text, behind
an integer that is too wide. `Takes` covers all of these at once. It says of a reading that asks for
a number of words that it ends behind the last of them, or behind the last word of the frame if that
comes first, and that it falls short exactly in the second case. Whether the words are accepted does
not matter to it.

## The bricks

* **`Takes.next`** — a reading that begins with a word takes that word and what the rest takes;
* **`Reading.takes`** — each reading takes the words that its kind has (`Reading.wordCount`);
* **`positionAfter_inside`** — a reader stays inside, however it is used. Induction on the readings.

## Main statement

* **`cursor_moves_over_delivered_words`** — where a reader stands after any readings, when it falls
  short, and that it does so from then on.
-/

namespace GuestBridge.Frame

variable {α β : Type} {f : Frame} {i n : Nat}

/-! ## Readings -/

/-- The position behind the last word. In a frame without words it is the first one. -/
def limit (f : Frame) : Nat := max firstPosition f.words

/-- What a reader can be asked for, at any time. -/
inductive Reading
  | count
  | tag
  | payload (tag : Tag)
  | value
  deriving DecidableEq, Repr

/-- What a reader delivers. -/
inductive Item
  | count (n : Nat)
  | tag (t : Tag)
  | value (v : Value)
  deriving DecidableEq, Repr

/-- The tag whose number the word at a position holds. -/
def tagAt? (f : Frame) (i : Nat) : Option Tag :=
  if i < f.words then
    Tag.ofWire? (UInt64.ofNat (f.memory.word (f.address i) wordBytes)).toInt64
  else none

namespace Reading

/-- Asks a reader for an item. -/
def perform (f : Frame) : Reading → Reader Item
  | .count => Item.count <$> lift f.count
  | .tag => Item.tag <$> f.readTag
  | .payload t => Item.value <$> f.readPayload t
  | .value => Item.value <$> f.readValue

/-- How many words a reading needs from a position on: a tag one, a payload those of its kind, and a
value the word of its tag and, if that is a tag, the payload words of this one. The count is not
read from the position. -/
def wordCount (f : Frame) (i : Nat) : Reading → Nat
  | .count => 0
  | .tag => 1
  | .payload t => t.payloadWords
  | .value => ((f.tagAt? i).map Tag.payloadWords).getD 0 + 1

/-- The indices of the words that a reading needs. -/
def needs (f : Frame) (i : Nat) (r : Reading) : List Nat := List.range' i (r.wordCount f i)

end Reading

/-- Where a reader stands after some readings, of which any may have failed. -/
def positionAfter (f : Frame) (readings : List Reading) (i : Nat) : Nat :=
  readings.foldl (fun j r => Outcome.state (r.perform f j)) i

/-! ## Taking words -/

/-- A position that a reader of the frame can have. -/
def Inside (f : Frame) (i : Nat) : Prop := firstPosition ≤ i ∧ i ≤ f.limit

/-- A reader begins inside, also in a frame without words. -/
theorem inside_firstPosition (f : Frame) : f.Inside firstPosition :=
  ⟨Nat.le_refl _, Nat.le_max_left ..⟩

/-- At the limit there is no word, and before it there is. -/
theorem Inside.lt_words_iff (hi : f.Inside i) : i < f.words ↔ i < f.limit := by
  obtain ⟨hfirst, -⟩ := hi
  unfold firstPosition at hfirst
  unfold limit firstPosition
  omega

theorem Inside.succ (hi : f.Inside i) (hlt : i < f.words) : f.Inside (i + 1) :=
  ⟨Nat.le_succ_of_le hi.1, hi.lt_words_iff.mp hlt⟩

/-- An outcome of a reading that began at a position and needed a number of words. It moved past
these, or up to the limit if that came first, and falls short exactly then. -/
structure Takes (f : Frame) (i n : Nat) (r : EStateM.Result Fault Nat α) : Prop where
  state : Outcome.state r = min (i + n) f.limit
  short : ∀ index total,
    (∃ j, r = .error (.frameTooShort index total) j) ↔
      f.limit < i + n ∧ index = f.limit ∧ total = f.words

/-- A computation that stays in its place, and does not fall short. -/
theorem Takes.nothing {r : EStateM.Result Fault Nat α} (hi : f.Inside i)
    (hstate : Outcome.state r = i)
    (hlong : ∀ index total j, r ≠ .error (.frameTooShort index total) j) : Takes f i 0 r where
  state := by
    rw [hstate, Nat.add_zero, Nat.min_eq_left hi.2]
  short index total := by
    have hin : ¬ f.limit < i + 0 := Nat.not_lt.mpr hi.2
    simp only [hin, false_and, iff_false, not_exists]
    exact hlong index total

theorem takes_pure (hi : f.Inside i) (a : α) : Takes f i 0 ((pure a : Reader α) i) :=
  .nothing hi rfl fun _ _ _ h => by cases h

theorem takes_throw (hi : f.Inside i) {e : Fault}
    (he : ∀ index total, e ≠ .frameTooShort index total) :
    Takes f i 0 ((throw e : Reader α) i) :=
  .nothing hi rfl fun index total _ h => he index total (by cases h; rfl)

/-- A computation that does not read leaves the cursor where it is. -/
theorem takes_lift (hi : f.Inside i) {r : Except Fault α}
    (hr : ∀ index total, r ≠ .error (.frameTooShort index total)) : Takes f i 0 (lift r i) := by
  cases r with
  | ok a => exact takes_pure hi a
  | error e => exact takes_throw hi fun index total he => hr index total (congrArg _ he)

/-- What is done with a value takes no words. -/
theorem Takes.map {r : Reader α} (h : Takes f i n (r i)) (g : α → β) :
    Takes f i n ((g <$> r) i) where
  state := by
    rw [Outcome.state_map, h.state]
  short index total := by
    rw [← h.short index total]
    exact exists_congr fun _ => Outcome.map_eq_error_iff

/-- The words behind a first one, and that one. -/
theorem Takes.behind {r : EStateM.Result Fault Nat α} (h : Takes f (i + 1) n r) :
    Takes f i (n + 1) r := by
  have hsum : i + 1 + n = i + (n + 1) := by omega
  exact ⟨hsum ▸ h.state, fun index total => hsum ▸ h.short index total⟩

/-- A reading that begins with a word takes that word and what the rest takes behind it. Without a
word it falls short in its place, however much the rest would have taken. -/
theorem Takes.next {g : UInt64 → Reader α} (hi : f.Inside i)
    (hrest : i < f.words →
      Takes f (i + 1) n
        (g (UInt64.ofNat (f.memory.word (f.address i) wordBytes)) (i + 1))) :
    Takes f i (n + 1) ((f.next >>= g) i) := by
  by_cases hlt : i < f.words
  · have hrun : (f.next >>= g) i =
        g (UInt64.ofNat (f.memory.word (f.address i) wordBytes)) (i + 1) := by
      rw [Outcome.bind_apply, Frame.next, word, if_pos hlt]
      rfl
    rw [hrun]
    exact (hrest hlt).behind
  · -- without a word here, this is the limit
    have hlimit : f.limit = i :=
      Nat.le_antisymm (Nat.not_lt.mp (mt hi.lt_words_iff.mpr hlt)) hi.2
    have hrun : (f.next >>= g) i = .error (.frameTooShort i f.words) i := by
      rw [Outcome.bind_apply, Frame.next, word, if_neg hlt]
    have hbehind : i < i + (n + 1) := by omega
    rw [hrun]
    constructor
    · rw [hlimit, Nat.min_eq_right (Nat.le_of_lt hbehind)]
      rfl
    · intro index total
      rw [Outcome.exists_error_iff, Fault.frameTooShort.injEq, hlimit, and_iff_right hbehind,
        eq_comm, @eq_comm _ f.words]

/-! ## What each reading takes -/

/-- A tag takes one word, known or not. -/
theorem readTag_takes (hi : f.Inside i) : Takes f i 1 (f.readTag i) := by
  refine Takes.next hi fun hlt => ?_
  generalize UInt64.ofNat (f.memory.word (f.address i) wordBytes) = w
  cases htag : Tag.ofWire? w.toInt64 with
  | some t => exact takes_pure (hi.succ hlt) t
  | none => exact takes_throw (hi.succ hlt) (by simp)

/-- An integer takes one word, whether or not it fits. -/
theorem readInt_takes (hi : f.Inside i) : Takes f i 1 (f.readInt i) := by
  refine Takes.next hi fun hlt => ?_
  generalize UInt64.ofNat (f.memory.word (f.address i) wordBytes) = w
  by_cases hfits : w.toInt64.toInt32.toInt64 = w.toInt64
  · simp only [hfits, if_true]
    exact takes_pure (hi.succ hlt) _
  · simp only [hfits, if_false]
    exact takes_throw (hi.succ hlt) (by simp)

theorem readReal_takes (hi : f.Inside i) : Takes f i 1 (f.readReal i) :=
  Takes.next hi fun hlt => takes_pure (hi.succ hlt) _

/-- A count is refused for its sign only. -/
theorem countOf_ne_tooShort (raw : Int64) (index total : Nat) :
    countOf raw ≠ .error (.frameTooShort index total) := by
  unfold countOf
  split <;> simp

/-- Both words of a text are taken before either is judged. -/
theorem readString_takes (hi : f.Inside i) : Takes f i 2 (f.readString i) := by
  refine Takes.next hi fun hfirst => ?_
  refine Takes.next (hi.succ hfirst) fun hsecond => ?_
  have hbehind : f.Inside (i + 1 + 1) := (hi.succ hfirst).succ hsecond
  generalize (UInt64.ofNat (f.memory.word (f.address i) wordBytes)).toInt64 = rawLength
  generalize UInt64.ofNat (f.memory.word (f.address (i + 1)) wordBytes) = rawPointer
  cases hcount : countOf rawLength with
  | error e =>
    exact takes_throw hbehind fun index total he =>
      countOf_ne_tooShort rawLength index total (he ▸ hcount)
  | ok length =>
    show Takes f (i + 1 + 1) 0
      ((if rawPointer.toNat < UInt32.size then
        lift (Slots.decode f.memory ⟨rawPointer.toUInt32⟩ length)
        else throw (.outOfBounds rawPointer.toNat length f.memory.size) : Reader String)
          (i + 1 + 1))
    split
    · refine takes_lift hbehind fun index total hdecode => ?_
      -- a text is refused for its range or for a slot
      cases Slots.decode_eq_error_iff.mp hdecode
    · exact takes_throw hbehind (by simp)

/-- A payload takes the words of its kind, whether or not they hold a value. -/
theorem readPayload_takes (hi : f.Inside i) (t : Tag) :
    Takes f i t.payloadWords (f.readPayload t i) := by
  cases t with
  | int => exact (readInt_takes hi).map Value.int
  | real => exact (readReal_takes hi).map Value.real
  | string => exact (readString_takes hi).map Value.string
  | array => exact takes_throw hi (by simp)

/-- A tag is read exactly if the word at the position holds one. -/
theorem readTag_eq_ok_iff_tagAt? {t : Tag} {j : Nat} :
    f.readTag i = .ok t j ↔ f.tagAt? i = some t ∧ j = i + 1 := by
  rw [readTag_eq_ok_iff, tagAt?, ← and_assoc]
  apply and_congr_left
  intro _
  rw [← Memory.toInt_word, ← ofWire?_eq_some_iff_toInt]
  by_cases hlt : i < f.words
  · rw [if_pos hlt, and_iff_right hlt]
  · rw [if_neg hlt]
    simp [hlt]

/-- A value takes the word of its tag and, if that word is a tag, the words of the payload. -/
theorem readValue_takes (hi : f.Inside i) :
    Takes f i (((f.tagAt? i).map Tag.payloadWords).getD 0 + 1) (f.readValue i) := by
  have htag := readTag_takes hi
  rw [readValue, Outcome.bind_apply]
  cases hread : f.readTag i with
  | ok t j =>
    -- the word is a tag, and its payload is read behind it
    obtain ⟨hat, rfl⟩ := readTag_eq_ok_iff_tagAt?.mp hread
    have hlt : i < f.words := (readTag_eq_ok_iff.mp hread).1
    rw [hat, Option.map_some, Option.getD_some]
    exact (readPayload_takes (hi.succ hlt) t).behind
  | error e j =>
    -- the word is missing or no tag, and nothing is read behind it
    have hnone : f.tagAt? i = none := by
      cases hat : f.tagAt? i with
      | none => rfl
      | some t => cases hread.symm.trans (readTag_eq_ok_iff_tagAt?.mpr ⟨hat, rfl⟩)
    rw [hnone]
    rw [hread] at htag
    refine ⟨htag.state, fun index total => ?_⟩
    refine Iff.trans ?_ (htag.short index total)
    simp only [EStateM.Result.error.injEq]

/-- **Each reading takes the words that it needs.** -/
theorem Reading.takes (hi : f.Inside i) (r : Reading) :
    Takes f i (r.wordCount f i) (r.perform f i) := by
  cases r with
  | count =>
    refine (takes_lift hi fun index total hcount => ?_).map Item.count
    -- the first word is there, so a count is refused only for what the word holds
    obtain ⟨-, raw, -, -, hraw⟩ := Arguments.count_eq_error_iff.mp hcount
    cases hraw
  | tag => exact (readTag_takes hi).map Item.tag
  | payload t => exact (readPayload_takes hi t).map Item.value
  | value => exact (readValue_takes hi).map Item.value

/-! ## Any readings -/

/-- A reading never moves back, and never out of the frame. -/
theorem Inside.perform (hi : f.Inside i) (r : Reading) :
    i ≤ Outcome.state (r.perform f i) ∧ f.Inside (Outcome.state (r.perform f i)) := by
  have hlimit := hi.2
  rw [(r.takes hi).state]
  have hforward : i ≤ min (i + r.wordCount f i) f.limit := by omega
  exact ⟨hforward, Nat.le_trans hi.1 hforward, Nat.min_le_right ..⟩

/-- However many readings there were, and whether they failed or not, a reader is inside and not in
front of where it began. -/
theorem positionAfter_inside (hi : f.Inside i) (readings : List Reading) :
    i ≤ positionAfter f readings i ∧ f.Inside (positionAfter f readings i) := by
  -- Induction on the readings: each keeps the reader inside.
  induction readings generalizing i with
  | nil => exact ⟨Nat.le_refl i, hi⟩
  | cons r rest ih =>
    obtain ⟨hforward, hinside⟩ := hi.perform r
    obtain ⟨hrest, hlast⟩ := ih hinside
    exact ⟨Nat.le_trans hforward hrest, hlast⟩

/-- A reader that has come to the limit stays there. -/
theorem positionAfter_limit (f : Frame) (readings : List Reading) :
    positionAfter f readings f.limit = f.limit := by
  have hlimit : f.Inside f.limit := ⟨Nat.le_max_left .., Nat.le_refl _⟩
  obtain ⟨hforward, hinside⟩ := positionAfter_inside hlimit readings
  exact Nat.le_antisymm hinside.2 hforward

/-- A reading falls short exactly when it needs the word at the limit. It ends there, and names this
index. -/
theorem Reading.tooShort_iff (hi : f.Inside i) (r : Reading) {index total j : Nat} :
    r.perform f i = .error (.frameTooShort index total) j ↔
      f.limit ∈ r.needs f i ∧ index = f.limit ∧ total = f.words ∧ j = f.limit := by
  have htakes := r.takes hi
  have hneeds : f.limit ∈ r.needs f i ↔ f.limit < i + r.wordCount f i := by
    rw [needs, List.mem_range'_1, and_iff_right hi.2]
  rw [hneeds]
  constructor
  · intro h
    obtain ⟨hbehind, hindex, htotal⟩ := (htakes.short index total).mp ⟨j, h⟩
    have hstate := htakes.state
    rw [h, Nat.min_eq_right (Nat.le_of_lt hbehind)] at hstate
    exact ⟨hbehind, hindex, htotal, hstate⟩
  · rintro ⟨hbehind, rfl, rfl, rfl⟩
    -- it falls short somewhere, and where it moved to is the limit
    obtain ⟨j, h⟩ := (htakes.short _ _).mpr ⟨hbehind, rfl, rfl⟩
    have hstate := htakes.state
    rw [h, Nat.min_eq_right (Nat.le_of_lt hbehind)] at hstate
    obtain rfl : j = f.limit := hstate
    exact h

/-- At the limit the next word is missing for every reading that needs one. -/
theorem Reading.limit_mem_needs {r : Reading} (h : r.needs f f.limit ≠ []) :
    f.limit ∈ r.needs f f.limit := by
  rw [needs, List.mem_range'_1]
  rw [needs, Ne, List.range'_eq_nil_iff] at h
  omega

/-- A value that is read takes the word of its tag and its payload. -/
theorem readValue_eq_ok_iff {v : Value} {j : Nat} :
    f.readValue i = .ok v j ↔
      f.readTag i = .ok v.tag (i + 1) ∧ f.readPayload v.tag (i + 1) = .ok v j := by
  rw [readValue, Outcome.bind_eq_ok_iff]
  constructor
  · rintro ⟨t, k, htag, hpayload⟩
    obtain ⟨-, -, rfl⟩ := readTag_eq_ok_iff.mp htag
    obtain ⟨rfl, -, -, -⟩ := readPayload_eq_ok_iff.mp hpayload
    exact ⟨htag, hpayload⟩
  · rintro ⟨htag, hpayload⟩
    exact ⟨v.tag, i + 1, htag, hpayload⟩

theorem memory_of_opened {m : Memory} {p : Pointer} {words : Nat}
    (opened : at? m p words = .ok f) : f.memory = m := by
  rw [Arguments.at?_eq_ok_iff] at opened
  split at opened
  · rw [opened]
    rfl
  · obtain ⟨-, rfl⟩ := opened
    rfl

/-- **The cursor stays in the frame and moves only over words that it delivered.** A frame is opened
and read in any way, where readings may have failed. Then, for the next reading:
* its position is at least one, never moves back, and is never behind the limit;
* every word between the positions before and after it is one of the frame and lies in the memory,
  and in a memory whose size fits a signed 64-bit number no offset that it computes overflows;
* a value that is read moves the position by its tag word and the payload words of its tag;
* the reading finds the frame too short exactly when it needs the word at the limit. It says so with
  this index and the number of words, and stands at the limit;
* and then every later reading that needs a word fails in the same way;
* the count is the same at every position, and does not move it. -/
theorem cursor_moves_over_delivered_words (m : Memory) (p : Pointer) (words : Nat) (f : Frame)
    (opened : at? m p words = .ok f) (past : List Reading) (r : Reading) :
    let i := positionAfter f past firstPosition
    let j := Outcome.state (r.perform f i)
    (1 ≤ i ∧ i ≤ j ∧ j ≤ max 1 f.words) ∧
    (∀ k, i ≤ k → k < j → (∃ w, f.word k = .ok w) ∧ f.address k + wordBytes ≤ m.size) ∧
    (m.size < 2 ^ 63 → ∀ k ≤ j, wordBytes * k + wordBytes < UInt64.size) ∧
    (∀ v k, f.readValue i = .ok v k → k = i + (1 + v.tag.payloadWords)) ∧
    (∀ index total k, r.perform f i = .error (.frameTooShort index total) k ↔
      f.limit ∈ r.needs f i ∧ index = f.limit ∧ total = f.words ∧ k = f.limit) ∧
    (f.limit ∈ r.needs f i → ∀ (later : List Reading) (next : Reading),
      next.needs f (positionAfter f later j) ≠ [] →
        next.perform f (positionAfter f later j) =
          .error (.frameTooShort f.limit f.words) f.limit) ∧
    Reading.count.perform f i =
      match f.count with
      | .ok n => .ok (.count n) i
      | .error e => .error e i := by
  intro i j
  have hi : f.Inside i := (positionAfter_inside (inside_firstPosition f) past).2
  obtain ⟨hforward, hj⟩ := hi.perform r
  have hmemory := memory_of_opened opened
  have hbounds : f.start + 8 * f.words ≤ m.size := hmemory ▸ f.inBounds
  have hfirst : 1 ≤ i := hi.1
  have hlimit : f.limit = max 1 f.words := rfl
  refine ⟨⟨hfirst, hforward, hj.2⟩, fun k hik hkj => ?_, fun hsize k hk => ?_, fun v k hv => ?_,
    fun index total k => r.tooShort_iff hi, fun hneeds later next hnext => ?_, ?_⟩
  · have hk : k < f.words := by
      have hle : j ≤ f.limit := hj.2
      omega
    refine ⟨⟨_, if_pos hk⟩, ?_⟩
    show f.start + 8 * k + 8 ≤ m.size
    omega
  · have hle : j ≤ f.limit := hj.2
    show 8 * k + 8 < 2 ^ 64
    omega
  · obtain ⟨-, hpayload⟩ := readValue_eq_ok_iff.mp hv
    obtain ⟨-, -, -, rfl⟩ := readPayload_eq_ok_iff.mp hpayload
    omega
  · -- the reader has come to the limit, where every later one finds it
    have hshort := (r.tooShort_iff hi).mpr ⟨hneeds, rfl, rfl, rfl⟩
    have hstay : j = f.limit := congrArg Outcome.state hshort
    rw [hstay, positionAfter_limit] at hnext ⊢
    have hinside : f.Inside f.limit := hstay ▸ hj
    exact (next.tooShort_iff hinside).mpr ⟨Reading.limit_mem_needs hnext, rfl, rfl, rfl⟩
  · show (Item.count <$> (lift f.count : Reader Nat)) i = _
    cases f.count with
    | ok n => rfl
    | error e => rfl

/-- A frame of two words, a count and a tag. -/
def shortFrame : Frame where
  memory := .ofBytes (List.replicate 8 0 ++ [1, 1, 7, 99].flatMap (Word.toBytes wordBytes))
  start := 8
  words := 2
  inBounds := by decide +kernel

/-- Behind its tag no value is left, also when something else is asked for in between. -/
theorem cursor_moves_over_delivered_words_short :
    at? shortFrame.memory ⟨8⟩ 2 = .ok shortFrame ∧
    positionAfter shortFrame [.tag] firstPosition = 2 ∧
    Reading.value.perform shortFrame 2 = .error (.frameTooShort 2 2) 2 ∧
    ∀ later, Reading.tag.perform shortFrame (positionAfter shortFrame later 2) =
      .error (.frameTooShort 2 2) 2 := by
  have opened : at? shortFrame.memory ⟨8⟩ 2 = .ok shortFrame :=
    Arguments.at?_eq_ok_iff.mpr ⟨shortFrame.inBounds, rfl⟩
  have hposition : positionAfter shortFrame [.tag] firstPosition = 2 := by decide +kernel
  obtain ⟨-, -, -, -, hshort, hstays, -⟩ :=
    cursor_moves_over_delivered_words _ _ _ _ opened [.tag] .value
  rw [hposition] at hshort hstays
  have hneeds : shortFrame.limit ∈ Reading.value.needs shortFrame 2 := by decide +kernel
  have hvalue : Reading.value.perform shortFrame 2 = .error (.frameTooShort 2 2) 2 :=
    (hshort 2 2 2).mpr ⟨hneeds, rfl, rfl, rfl⟩
  refine ⟨opened, hposition, hvalue, fun later => ?_⟩
  have hlater := hstays hneeds later .tag (List.cons_ne_nil _ _)
  rwa [hvalue] at hlater

end GuestBridge.Frame
