import GuestBridge.Proofs.Wire.Descriptors
/-!
# Descriptors say where they end

Behind the three slots of its header a descriptor is as long as two of them say, so a reader needs
no more than its beginning. The readers here take what they read off the front of a byte string and
leave the rest. Each of them succeeds exactly on what the writer makes of its result, whatever
follows: `slot_eq_some_iff`, `tags_eq_some_iff` and, for the whole, `read_eq_some_iff`. A reader has
one result, so two descriptors never begin the same byte string (`encode_append_inj`), although one
may be longer than the other.

The tags of the arguments and of the returns stand back to back, so only the counts tell them apart,
and a count keeps its 32 low bits. A signature with a longer list is not told from a shorter one:
4294967296 arguments are announced as none (`encode_of_wrapped_count`). What is said here is said of
signatures whose counts fit (`CountsFit`).

## Main statements

* **`Descriptor.read_eq_some_iff`** — reading undoes writing, and accepts nothing else;
* **`Memory.descriptorAt?_eq_some_iff`** — what is read at an address is the descriptor whose bytes
  stand there.
-/

namespace GuestBridge

namespace Descriptor

/-- Takes its result off the front of a byte string and leaves what follows. -/
abbrev Reader := StateT (List UInt8) Option

/-- Reads the number of a slot. -/
def slot : Reader Nat := fun bytes =>
  if Slots.slotBytes ≤ bytes.length then
    some (Word.ofBytes (bytes.take Slots.slotBytes), bytes.drop Slots.slotBytes)
  else none

/-- Reads a tag, which has a slot of its own. -/
def tag : Reader Tag := do
  let raw ← slot
  Tag.ofWire? (Int64.ofNat raw)

/-- Reads as many tags as the header announced. -/
def tags : (count : Nat) → Reader (List Tag)
  | 0 => pure []
  | count + 1 => do
    let t ← tag
    return t :: (← tags count)

/-- Reads a descriptor: the pointer to the name, and the signature. -/
def read : Reader (Pointer × Signature) := do
  let name ← slot
  let args ← slot
  let rets ← slot
  return (⟨UInt32.ofNat name⟩, ⟨← tags args, ← tags rets⟩)

/-- Both lists of a signature are short enough for their counts. -/
structure CountsFit (s : Signature) : Prop where
  args : s.args.length < 2 ^ 32
  rets : s.rets.length < 2 ^ 32

/-- The slots of the tags of a list. -/
def encodeTags (ts : List Tag) : List UInt8 :=
  ts.flatMap fun t => Word.toBytes Slots.slotBytes t.wire

theorem encodeTags_cons (t : Tag) (ts : List Tag) :
    encodeTags (t :: ts) = Word.toBytes Slots.slotBytes t.wire ++ encodeTags ts := rfl

/-! ## Readers -/

section Readers

variable {α β : Type} {bytes rest : List UInt8}

/-- The second reader goes on where the first one stopped. -/
theorem bind_eq_some_iff {r : Reader α} {f : α → Reader β} {b : β} :
    (r >>= f) bytes = some (b, rest) ↔
      ∃ a middle, r bytes = some (a, middle) ∧ f a middle = some (b, rest) := by
  refine Option.bind_eq_some_iff.trans ?_
  rw [Prod.exists]

theorem pure_eq_some_iff {a b : α} :
    (pure a : Reader α) bytes = some (b, rest) ↔ b = a ∧ rest = bytes := by
  refine Option.some_inj.trans ?_
  rw [Prod.mk.injEq, eq_comm, @eq_comm _ bytes]

theorem lift_eq_some_iff {x : Option α} {a : α} :
    (liftM x : Reader α) bytes = some (a, rest) ↔ x = some a ∧ rest = bytes := by
  cases x with
  | none => exact iff_of_false nofun nofun
  | some b => exact pure_eq_some_iff.trans (by rw [Option.some.injEq, eq_comm])

/-- A slot is read exactly where the bytes of its number stand. -/
theorem slot_eq_some_iff {n : Nat} :
    slot bytes = some (n, rest) ↔ n < 2 ^ 32 ∧ bytes = Word.toBytes Slots.slotBytes n ++ rest := by
  unfold slot
  constructor
  · intro h
    split at h
    · next henough =>
      obtain ⟨rfl, rfl⟩ := Prod.mk.inj (Option.some.inj h)
      have hlength : (bytes.take Slots.slotBytes).length = Slots.slotBytes :=
        List.length_take_of_le henough
      have hlt := Word.ofBytes_lt (bytes.take Slots.slotBytes)
      have hfront := Word.toBytes_ofBytes (bytes.take Slots.slotBytes)
      rw [hlength] at hlt hfront
      exact ⟨hlt, by rw [hfront, List.take_append_drop]⟩
    · cases h
  · rintro ⟨hn, rfl⟩
    have hlength : (Word.toBytes Slots.slotBytes n).length = Slots.slotBytes :=
      Word.length_toBytes ..
    have henough : Slots.slotBytes ≤ (Word.toBytes Slots.slotBytes n ++ rest).length := by
      rw [List.length_append, hlength]
      exact Nat.le_add_right ..
    rw [if_pos henough, List.take_left' hlength, List.drop_left' hlength, Word.ofBytes_toBytes hn]

/-- A tag is read from its own wire number only. -/
theorem ofWire?_ofNat_eq_some_iff {n : Nat} {t : Tag} (hn : n < 2 ^ 32) :
    Tag.ofWire? (Int64.ofNat n) = some t ↔ n = t.wire := by
  rw [Frame.ofWire?_eq_some_iff_toInt, Int64.toInt_ofNat_of_lt (by omega), Int.ofNat_inj]

/-- A tag is read exactly where its slot stands. -/
theorem tag_eq_some_iff {t : Tag} :
    tag bytes = some (t, rest) ↔ bytes = Word.toBytes Slots.slotBytes t.wire ++ rest := by
  refine bind_eq_some_iff.trans ?_
  constructor
  · rintro ⟨raw, middle, hslot, htag⟩
    obtain ⟨hraw, rfl⟩ := slot_eq_some_iff.mp hslot
    obtain ⟨hwire, rfl⟩ := lift_eq_some_iff.mp htag
    rw [(ofWire?_ofNat_eq_some_iff hraw).mp hwire]
  · intro h
    have hwire := (ofWire?_ofNat_eq_some_iff t.wire_lt).mpr rfl
    exact ⟨t.wire, rest, slot_eq_some_iff.mpr ⟨t.wire_lt, h⟩, lift_eq_some_iff.mpr ⟨hwire, rfl⟩⟩

/-- As many tags as were counted are read where their bytes stand. -/
theorem tags_eq_some_iff {count : Nat} {ts : List Tag} :
    tags count bytes = some (ts, rest) ↔ ts.length = count ∧ bytes = encodeTags ts ++ rest := by
  -- Induction on the count: the first tag is one slot, the others are read behind it.
  induction count generalizing bytes ts with
  | zero =>
    rw [tags, pure_eq_some_iff, List.length_eq_zero_iff]
    apply and_congr_right
    rintro rfl
    exact eq_comm
  | succ count ih =>
    rw [tags, bind_eq_some_iff]
    constructor
    · rintro ⟨t, middle, htag, hrest⟩
      obtain ⟨others, last, hothers, hlist⟩ := bind_eq_some_iff.mp hrest
      obtain ⟨rfl, rfl⟩ := pure_eq_some_iff.mp hlist
      obtain ⟨hlength, rfl⟩ := ih.mp hothers
      refine ⟨congrArg (· + 1) hlength, ?_⟩
      rw [tag_eq_some_iff.mp htag, encodeTags_cons, List.append_assoc]
    · rintro ⟨hlength, rfl⟩
      cases ts with
      | nil => cases hlength
      | cons t others =>
        refine ⟨t, encodeTags others ++ rest, tag_eq_some_iff.mpr ?_, bind_eq_some_iff.mpr
          ⟨others, rest, ih.mpr ⟨Nat.succ.inj hlength, rfl⟩, rfl⟩⟩
        rw [encodeTags_cons, List.append_assoc]

end Readers

/-! ## Descriptors -/

variable {bytes rest rest' : List UInt8} {name name' : Pointer} {s s' : Signature}

/-- A written descriptor, taken apart as the reader finds it. -/
theorem encode_append_eq :
    encode name s ++ rest =
      Word.toBytes Slots.slotBytes name.offset ++ (Word.toBytes Slots.slotBytes s.args.length ++
        (Word.toBytes Slots.slotBytes s.rets.length ++
          (encodeTags s.args ++ (encodeTags s.rets ++ rest)))) := by
  simp only [encode, encodeTags, Slots.slotBytes, List.flatMap_append, List.append_assoc]

/-- A descriptor is read exactly where one is written, and what follows it is left. -/
theorem read_eq_some_iff :
    read bytes = some ((name, s), rest) ↔ CountsFit s ∧ bytes = encode name s ++ rest := by
  rw [encode_append_eq]
  constructor
  · intro h
    obtain ⟨offset, behindName, hname, h⟩ := bind_eq_some_iff.mp h
    obtain ⟨args, behindArgs, hargs, h⟩ := bind_eq_some_iff.mp h
    obtain ⟨rets, behindRets, hrets, h⟩ := bind_eq_some_iff.mp h
    obtain ⟨argTags, behindArgTags, hargTags, h⟩ := bind_eq_some_iff.mp h
    obtain ⟨retTags, last, hretTags, h⟩ := bind_eq_some_iff.mp h
    obtain ⟨hread, rfl⟩ := pure_eq_some_iff.mp h
    obtain ⟨rfl, rfl⟩ := Prod.mk.inj hread
    obtain ⟨hoffset, rfl⟩ := slot_eq_some_iff.mp hname
    obtain ⟨hfitArgs, rfl⟩ := slot_eq_some_iff.mp hargs
    obtain ⟨hfitRets, rfl⟩ := slot_eq_some_iff.mp hrets
    obtain ⟨rfl, rfl⟩ := tags_eq_some_iff.mp hargTags
    obtain ⟨rfl, rfl⟩ := tags_eq_some_iff.mp hretTags
    have hname : Pointer.offset ⟨UInt32.ofNat offset⟩ = offset :=
      UInt32.toNat_ofNat_of_lt' hoffset
    exact ⟨⟨hfitArgs, hfitRets⟩, by rw [hname]⟩
  · -- each reader finds what it delivers at the front of what the one before left
    rintro ⟨hfit, rfl⟩
    refine bind_eq_some_iff.mpr ⟨_, _, slot_eq_some_iff.mpr ⟨name.address.toNat_lt, rfl⟩, ?_⟩
    refine bind_eq_some_iff.mpr ⟨_, _, slot_eq_some_iff.mpr ⟨hfit.args, rfl⟩, ?_⟩
    refine bind_eq_some_iff.mpr ⟨_, _, slot_eq_some_iff.mpr ⟨hfit.rets, rfl⟩, ?_⟩
    refine bind_eq_some_iff.mpr ⟨_, _, tags_eq_some_iff.mpr ⟨rfl, rfl⟩, ?_⟩
    refine bind_eq_some_iff.mpr ⟨_, _, tags_eq_some_iff.mpr ⟨rfl, rfl⟩, ?_⟩
    exact pure_eq_some_iff.mpr ⟨by rw [UInt32.ofNat_toNat], rfl⟩

/-- At most one descriptor is the beginning of a byte string. -/
theorem encode_append_inj (hs : CountsFit s) (hs' : CountsFit s')
    (h : encode name s ++ rest = encode name' s' ++ rest') :
    name = name' ∧ s = s' ∧ rest = rest' := by
  have hread : read (encode name s ++ rest) = some ((name, s), rest) :=
    read_eq_some_iff.mpr ⟨hs, rfl⟩
  rw [h, read_eq_some_iff.mpr ⟨hs', rfl⟩] at hread
  obtain ⟨hvalue, rfl⟩ := Prod.mk.inj (Option.some.inj hread)
  obtain ⟨rfl, rfl⟩ := Prod.mk.inj hvalue
  exact ⟨rfl, rfl, rfl⟩

/-- A count that does not fit is cut off: the tags of so many arguments stand behind a descriptor
without any. -/
theorem encode_of_wrapped_count {ts : List Tag} (h : ts.length = 2 ^ 32) :
    encode name ⟨ts, []⟩ = encode name ⟨[], []⟩ ++ encodeTags ts := by
  have hwrapped : Word.toBytes 4 (2 ^ 32) = Word.toBytes 4 0 := rfl
  simp only [encode, encodeTags, Slots.slotBytes, h, hwrapped, List.append_nil, List.length_nil,
    List.flatMap_nil]

end Descriptor

/-! ## Addresses -/

namespace Memory

/-- Reads the descriptor at an address. The reader is given what stands there, up to the end of the
memory. -/
def descriptorAt? (m : Memory) (p : Pointer) : Option (Pointer × Signature) :=
  Descriptor.read.run' (m.read p.offset (m.size - p.offset))

/-- What is read at an address is the descriptor whose bytes stand there, inside the memory. -/
theorem descriptorAt?_eq_some_iff {m : Memory} {p name : Pointer} {s : Signature} :
    m.descriptorAt? p = some (name, s) ↔
      Descriptor.CountsFit s ∧ p.offset + Slots.slotBytes * Descriptor.slots s ≤ m.size ∧
        m.read p.offset (Slots.slotBytes * Descriptor.slots s) = Descriptor.encode name s := by
  have hlength : (Descriptor.encode name s).length = Slots.slotBytes * Descriptor.slots s :=
    Descriptor.length_encode name s
  have hread : m.descriptorAt? p = some (name, s) ↔ ∃ rest, Descriptor.CountsFit s ∧
      m.read p.offset (m.size - p.offset) = Descriptor.encode name s ++ rest := by
    constructor
    · intro h
      obtain ⟨⟨_, rest⟩, hread, rfl⟩ := Option.map_eq_some_iff.mp h
      exact ⟨rest, Descriptor.read_eq_some_iff.mp hread⟩
    · rintro ⟨rest, h⟩
      exact Option.map_eq_some_iff.mpr ⟨_, Descriptor.read_eq_some_iff.mpr h, rfl⟩
  rw [hread]
  constructor
  · rintro ⟨rest, hfit, hbytes⟩
    have hwhole := congrArg List.length hbytes
    rw [length_read, List.length_append, hlength] at hwhole
    -- The reader was given the descriptor and more; only its front is compared.
    rw [hwhole, read_append] at hbytes
    obtain ⟨hfront, -⟩ := List.append_inj hbytes (by rw [length_read, hlength])
    refine ⟨hfit, ?_, hfront⟩
    -- A descriptor is never empty, so where one was read the address lies in the memory.
    have hpositive : 0 < Slots.slotBytes * Descriptor.slots s := by
      unfold Slots.slotBytes Descriptor.slots Descriptor.headerSlots
      omega
    omega
  · rintro ⟨hfit, hinside, hbytes⟩
    obtain ⟨more, hmore⟩ := Nat.exists_eq_add_of_le (Nat.le_sub_of_add_le' hinside)
    exact ⟨_, hfit, by rw [hmore, read_append, hbytes]⟩

end Memory

end GuestBridge
