import GuestBridge.Bridge.Function
import GuestBridge.Proofs.Frame.Reader
import GuestBridge.Wire.Descriptor
/-!
# Descriptors and names as a reader finds them

Descriptors and texts are runs of 32-bit slots. `Memory.slots` is the view of such a run as numbers:
what was written there as slots is found there as the same numbers, as long as each fits
(`slots_eq_of_read`).

`Memory.functionAt?` reads a function from its descriptor as a guest does: it knows the layout, but
not the signature or the length of the name, for which it looks for a closing zero.

## Main statements

* **`Descriptor.slots_of_read`**, **`Slots.slots_of_read`** — the numbers of a descriptor and of a
  text;
* **`Memory.Describes.functionAt?_eq`** — a reader recovers the signature and the name.
-/

namespace GuestBridge

namespace Memory

variable {m : Memory} {offset : Nat}

/-! ## Reading back bytes -/

/-- A range is read in two parts that follow each other. -/
theorem read_append (m : Memory) (offset a b : Nat) :
    m.read offset (a + b) = m.read offset a ++ m.read (offset + a) b := by
  simp only [read, List.range_add, List.map_append, List.map_map, Function.comp_def, Nat.add_assoc]

/-- What was just written is read back. -/
theorem read_write_self (m : Memory) (offset : Nat) (bytes : List UInt8) :
    (m.write offset bytes).read offset bytes.length = bytes := by
  refine List.ext_getElem (length_read ..) fun i hi hi' => ?_
  have hinside : offset ≤ offset + i ∧ offset + i < offset + bytes.length := by omega
  simp only [read, List.getElem_map, List.getElem_range, byteAt_write, if_pos hinside,
    Nat.add_sub_cancel_left]
  simp [hi']

/-- Reading depends on the bytes of its range only. -/
theorem read_congr {m' : Memory} {length : Nat}
    (h : ∀ i, offset ≤ i → i < offset + length → m'.byteAt i = m.byteAt i) :
    m'.read offset length = m.read offset length := by
  refine List.map_congr_left fun i hi => ?_
  have hlt : i < length := List.mem_range.mp hi
  exact h (offset + i) (by omega) (by omega)

/-! ## Slots -/

/-- The numbers in a run of slots. -/
def slots (m : Memory) (offset count : Nat) : List Nat :=
  (List.range count).map fun i => m.word (offset + Slots.slotBytes * i) Slots.slotBytes

theorem slots_succ (m : Memory) (offset count : Nat) :
    m.slots offset (count + 1) =
      m.word offset Slots.slotBytes :: m.slots (offset + Slots.slotBytes) count := by
  rw [slots, List.range_succ_eq_map, List.map_cons, List.map_map]
  refine congrArg _ (List.map_congr_left fun i _ => ?_)
  have hnext : offset + Slots.slotBytes * (i + 1) = offset + Slots.slotBytes + Slots.slotBytes * i := by
    rw [Slots.slotBytes]
    omega
  show m.word (offset + Slots.slotBytes * (i + 1)) _ = _
  rw [hnext]

theorem slots_add (m : Memory) (offset a b : Nat) :
    m.slots offset (a + b) = m.slots offset a ++ m.slots (offset + Slots.slotBytes * a) b := by
  simp only [slots, List.range_add, List.map_append, List.map_map, Function.comp_def, Nat.mul_add,
    Nat.add_assoc]

/-- Numbers that were written as slots are found there. -/
theorem slots_eq_of_read {numbers : List Nat} (hfit : ∀ n ∈ numbers, n < 2 ^ 32)
    (hread : m.read offset (Slots.slotBytes * numbers.length) =
      numbers.flatMap (Word.toBytes Slots.slotBytes)) :
    m.slots offset numbers.length = numbers := by
  induction numbers generalizing offset with
  | nil => rfl
  | cons n rest ih =>
    have hlength : Slots.slotBytes * (n :: rest).length =
        Slots.slotBytes + Slots.slotBytes * rest.length := by
      rw [List.length_cons, Nat.mul_succ, Nat.add_comm]
    rw [hlength, read_append, List.flatMap_cons] at hread
    -- both sides begin with the four bytes of the first number
    obtain ⟨hfirst, hrest⟩ := List.append_inj hread (by simp)
    have hn : m.word offset Slots.slotBytes = n := by
      rw [word, hfirst]
      exact Word.ofBytes_toBytes (hfit n (List.mem_cons_self ..))
    rw [List.length_cons, slots_succ, hn,
      ih (fun k hk => hfit k (List.mem_cons_of_mem _ hk)) hrest]

end Memory

/-! ## What is written -/

/-- The numbers of a descriptor. -/
def Descriptor.numbers (name : Pointer) (s : Signature) : List Nat :=
  name.offset :: s.args.length :: s.rets.length :: (s.args.map Tag.wire ++ s.rets.map Tag.wire)

/-- The numbers of a text, closed by zero. -/
def Slots.numbers (text : String) : List Nat := text.toList.map Char.toNat ++ [0]

theorem Descriptor.length_numbers (name : Pointer) (s : Signature) :
    (numbers name s).length = slots s := by
  simp only [numbers, slots, headerSlots, List.length_cons, List.length_append, List.length_map]
  omega

theorem Slots.length_numbers (text : String) : (numbers text).length = count text := by
  simp only [numbers, count, List.length_append, List.length_map, List.length_singleton,
    String.length_toList]

/-- A descriptor is written as its numbers, one slot each. -/
theorem Descriptor.encode_eq (name : Pointer) (s : Signature) :
    encode name s = (numbers name s).flatMap (Word.toBytes Slots.slotBytes) := by
  simp only [encode, numbers, Slots.slotBytes, List.flatMap_cons, List.flatMap_append,
    List.flatMap_map, List.append_assoc]

/-- A text is written as its code points and a zero, one slot each. -/
theorem Slots.encode_eq (text : String) :
    encode text = (numbers text).flatMap (Word.toBytes slotBytes) := by
  simp only [encode, encodeChars, numbers, slotBytes, List.flatMap_append, List.flatMap_map,
    List.flatMap_singleton]

theorem Tag.wire_lt (t : Tag) : t.wire < 2 ^ 32 := by cases t <;> decide

/-- A descriptor whose size an allocator can be asked for is found as it was meant, with no count
cut off. -/
theorem Descriptor.slots_of_read {m : Memory} {offset : Nat} {name : Pointer} {s : Signature}
    (hsize : slots s < 2 ^ 32)
    (hread : m.read offset (encode name s).length = encode name s) :
    m.slots offset (slots s) = numbers name s := by
  have hargs : s.args.length < 2 ^ 32 := by unfold slots headerSlots at hsize; omega
  have hrets : s.rets.length < 2 ^ 32 := by unfold slots headerSlots at hsize; omega
  have hfit : ∀ n ∈ numbers name s, n < 2 ^ 32 := by
    intro n hn
    simp only [numbers, List.mem_cons, List.mem_append, List.mem_map] at hn
    rcases hn with rfl | rfl | rfl | ⟨t, -, rfl⟩ | ⟨t, -, rfl⟩
    · exact name.address.toNat_lt
    · exact hargs
    · exact hrets
    · exact t.wire_lt
    · exact t.wire_lt
  rw [length_encode, ← length_numbers name s, encode_eq] at hread
  rw [← length_numbers name s]
  exact Memory.slots_eq_of_read hfit hread

/-- A text is found as its code points; none of them is too large for a slot. -/
theorem Slots.slots_of_read {m : Memory} {offset : Nat} {text : String}
    (hread : m.read offset (encode text).length = encode text) :
    m.slots offset (count text) = numbers text := by
  have hfit : ∀ n ∈ numbers text, n < 2 ^ 32 := by
    intro n hn
    rcases List.mem_append.mp hn with hn | hn
    · obtain ⟨c, -, rfl⟩ := List.mem_map.mp hn
      exact c.val.toNat_lt
    · rw [List.mem_singleton.mp hn]
      decide
  rw [length_encode, ← length_numbers text, encode_eq] at hread
  rw [← length_numbers text]
  exact Memory.slots_eq_of_read hfit hread

/-! ## A reader -/

namespace Memory

/-- Reads characters up to a closing zero slot, with at most `fuel` slots. -/
def textAt? (m : Memory) : (fuel offset : Nat) → Option (List Char)
  | 0, _ => none
  | fuel + 1, offset =>
    if !m.holds offset Slots.slotBytes then none
    else if m.word offset Slots.slotBytes = 0 then some []
    else do
      let c ← (Slots.charAt m offset 0).toOption
      return c :: (← m.textAt? fuel (offset + Slots.slotBytes))

/-- Reads the tags that stand in a run of slots. -/
def tagsAt? (m : Memory) (offset count : Nat) : Option (List Tag) :=
  (m.slots offset count).mapM fun raw => Tag.ofWire? (Int64.ofNat raw)

/-- The name and the signature of the function whose descriptor stands at an offset. -/
def functionAt? (m : Memory) (offset : Nat) : Option (String × Signature) := do
  let args := m.word (offset + Slots.slotBytes) Slots.slotBytes
  let rets := m.word (offset + Slots.slotBytes * 2) Slots.slotBytes
  guard (m.holds offset (Slots.slotBytes * (Descriptor.headerSlots + args + rets)))
  let tags := offset + Slots.slotBytes * Descriptor.headerSlots
  let signature : Signature :=
    ⟨← m.tagsAt? tags args, ← m.tagsAt? (tags + Slots.slotBytes * args) rets⟩
  let name ← m.textAt? m.size (m.word offset Slots.slotBytes)
  return (String.ofList name, signature)

/-- The memory holds the descriptor of a function at `p`, and the function's name at `q`. -/
structure Describes (m : Memory) (p q : Pointer) (f : ExternalFunction) : Prop where
  descriptor : m.slots p.offset (Descriptor.slots f.signature) = Descriptor.numbers q f.signature
  name : m.slots q.offset (Slots.count f.name) = Slots.numbers f.name
  descriptor_fits : p.offset + Slots.slotBytes * Descriptor.slots f.signature ≤ m.size
  name_fits : q.offset + Slots.slotBytes * Slots.count f.name ≤ m.size

variable {m : Memory} {offset : Nat}

theorem tagsAt?_eq {tags : List Tag} (h : m.slots offset tags.length = tags.map Tag.wire) :
    m.tagsAt? offset tags.length = some tags := by
  have hone (t : Tag) : Tag.ofWire? (Int64.ofNat t.wire) = some t := Tag.ofWire?_eq_some_iff.mpr rfl
  rw [tagsAt?, h]
  clear h
  induction tags with
  | nil => rfl
  | cons t rest ih => simp [hone, ih]

/-- The reader of a name stops at its first zero, be it inside the name or behind it. -/
theorem textAt?_eq {cs : List Char} {fuel : Nat} (hfuel : cs.length < fuel)
    (hfits : offset + Slots.slotBytes * (cs.length + 1) ≤ m.size)
    (h : m.slots offset (cs.length + 1) = cs.map Char.toNat ++ [0]) :
    m.textAt? fuel offset = some (cs.takeWhile (·.toNat != 0)) := by
  have hholds : m.holds offset Slots.slotBytes = true := by
    unfold Slots.slotBytes at hfits
    exact decide_eq_true (show offset + 4 ≤ m.size by omega)
  -- Induction on the characters, each of which takes a slot and one unit of fuel.
  induction cs generalizing offset fuel with
  | nil =>
    obtain ⟨fuel, rfl⟩ := Nat.exists_eq_add_of_lt hfuel
    obtain ⟨hzero, -⟩ := List.cons.inj ((slots_succ m offset 0).symm.trans h)
    simp [textAt?, hholds, hzero]
  | cons c rest ih =>
    obtain ⟨fuel, rfl⟩ := Nat.exists_eq_succ_of_ne_zero (Nat.ne_zero_of_lt hfuel)
    rw [List.length_cons, slots_succ, List.map_cons, List.cons_append] at h
    obtain ⟨hc, hrest⟩ := List.cons.inj h
    by_cases hzero : c.toNat = 0
    · simp [textAt?, hholds, hc, hzero]
    · have hchar : Slots.charAt m offset 0 = .ok c := Slots.charAt_eq_ok_iff.mpr hc
      unfold Slots.slotBytes at hfits
      rw [List.length_cons] at hfits
      have hnext : m.textAt? fuel (offset + Slots.slotBytes) = _ :=
        ih (Nat.lt_of_succ_lt_succ hfuel)
          (show offset + 4 + 4 * (rest.length + 1) ≤ m.size by omega) hrest
          (decide_eq_true (show offset + 4 + 4 ≤ m.size by omega))
      simp [textAt?, hholds, hc, hzero, hchar, hnext, Except.toOption]

/-- A reader recovers the signature and the name, up to the first zero in it. -/
theorem Describes.functionAt?_eq {p q : Pointer} {f : ExternalFunction} (h : m.Describes p q f) :
    m.functionAt? p.offset =
      some (String.ofList (f.name.toList.takeWhile (·.toNat != 0)), f.signature) := by
  obtain ⟨hdescriptor, hname, hheld, hfits⟩ := h
  have hsplit : Descriptor.slots f.signature =
      f.signature.args.length + f.signature.rets.length + 1 + 1 + 1 := by
    unfold Descriptor.slots Descriptor.headerSlots
    omega
  rw [hsplit, slots_succ, slots_succ, slots_succ, slots_add] at hdescriptor
  simp only [Descriptor.numbers, List.cons.injEq] at hdescriptor
  obtain ⟨hq, hargs, hrets, htags⟩ := hdescriptor
  -- The counts of the header cut the tags into arguments and returns.
  obtain ⟨hargTags, hretTags⟩ := List.append_inj htags (by simp [slots])
  have htext : m.textAt? m.size q.offset = some (f.name.toList.takeWhile (·.toNat != 0)) := by
    rw [Slots.count, ← String.length_toList] at hfits hname
    refine textAt?_eq ?_ hfits hname
    unfold Slots.slotBytes at hfits
    omega
  have hheader : p.offset + Slots.slotBytes + Slots.slotBytes + Slots.slotBytes =
      p.offset + Slots.slotBytes * Descriptor.headerSlots := by
    unfold Slots.slotBytes Descriptor.headerSlots
    omega
  rw [hheader] at hargTags hretTags
  have hrets' : m.word (p.offset + Slots.slotBytes * 2) Slots.slotBytes =
      f.signature.rets.length := hrets
  have hguard : m.holds p.offset (Slots.slotBytes * (Descriptor.headerSlots +
      f.signature.args.length + f.signature.rets.length)) = true := decide_eq_true hheld
  simp [functionAt?, hq, hargs, hrets', hguard, tagsAt?_eq hargTags, tagsAt?_eq hretTags, htext]

end Memory

end GuestBridge
