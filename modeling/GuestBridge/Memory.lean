import Std.Data.TreeMap
import Std.Data.TreeMap.Lemmas
import GuestBridge.Wire.Fault
import GuestBridge.Wire.Word
/-!
# Linear memory

A memory is a run of bytes, all zero at first. Only the bytes that were ever written are stored, so
a memory of hundreds of megabytes costs nothing until it is used. `byteAt` is its view: what each
operation does is said of it (`byteAt_ofBytes`, `byteAt_write`).
-/

namespace GuestBridge

/-- A run of `size` bytes. -/
structure Memory where
  size : Nat
  written : Std.TreeMap Nat UInt8

namespace Memory

/-- The byte at an offset; zero where nothing was written. -/
def byteAt (m : Memory) (offset : Nat) : UInt8 := m.written.getD offset 0

def zeros (size : Nat) : Memory := ⟨size, ∅⟩

def set (m : Memory) (offset : Nat) (byte : UInt8) : Memory :=
  { m with written := m.written.insert offset byte }

/-- Stores bytes from an offset on. The caller has checked that they fit. -/
def write (m : Memory) (offset : Nat) : List UInt8 → Memory
  | [] => m
  | b :: rest => (m.set offset b).write (offset + 1) rest

/-- A memory that holds exactly the given bytes. -/
def ofBytes (bytes : List UInt8) : Memory := (zeros bytes.length).write 0 bytes

def read (m : Memory) (offset length : Nat) : List UInt8 :=
  (List.range length).map fun i => m.byteAt (offset + i)

def holds (m : Memory) (offset length : Nat) : Bool := offset + length ≤ m.size

/-- The number that the `width` bytes at an offset spell. -/
def word (m : Memory) (offset width : Nat) : Nat := Word.ofBytes (m.read offset width)

/-! ## The view of each operation -/

@[simp] theorem size_set (m : Memory) (i : Nat) (b : UInt8) : (m.set i b).size = m.size := rfl

theorem byteAt_set (m : Memory) (i j : Nat) (b : UInt8) :
    (m.set i b).byteAt j = if i = j then b else m.byteAt j := by
  simp [set, byteAt, Std.TreeMap.getD_insert]

@[simp] theorem byteAt_zeros (size i : Nat) : (zeros size).byteAt i = 0 := by
  simp [zeros, byteAt]

@[simp] theorem size_write (m : Memory) (offset : Nat) (bytes : List UInt8) :
    (m.write offset bytes).size = m.size := by
  induction bytes generalizing m offset with
  | nil => rfl
  | cons b rest ih => simp [write, ih]

/-- Writing changes the bytes of the range to the bytes written, and no other. -/
theorem byteAt_write (m : Memory) (offset : Nat) (bytes : List UInt8) (i : Nat) :
    (m.write offset bytes).byteAt i =
      if offset ≤ i ∧ i < offset + bytes.length then bytes.getD (i - offset) 0
      else m.byteAt i := by
  induction bytes generalizing m offset with
  | nil =>
    have hout : ¬ (offset ≤ i ∧ i < offset + ([] : List UInt8).length) := by
      simp only [List.length_nil]; omega
    rw [write, if_neg hout]
  | cons b rest ih =>
    rw [write, ih, byteAt_set]
    by_cases h : offset = i
    · -- The first byte of the range: the rest is written behind it.
      subst h
      have hout : ¬ (offset + 1 ≤ offset ∧ offset < offset + 1 + rest.length) := by omega
      have hin : offset ≤ offset ∧ offset < offset + (b :: rest).length := by
        simp only [List.length_cons]; omega
      rw [if_neg hout, if_pos hin, if_pos rfl, Nat.sub_self]
      rfl
    · by_cases hin : offset + 1 ≤ i ∧ i < offset + 1 + rest.length
      · -- A later byte of the range, which stands one place earlier in `rest`.
        have hin' : offset ≤ i ∧ i < offset + (b :: rest).length := by
          simp only [List.length_cons]; omega
        rw [if_pos hin, if_pos hin']
        obtain ⟨k, rfl⟩ : ∃ k, i = offset + 1 + k := ⟨i - (offset + 1), by omega⟩
        have h₁ : offset + 1 + k - (offset + 1) = k := by omega
        have h₂ : offset + 1 + k - offset = k + 1 := by omega
        rw [h₁, h₂]
        rfl
      · have hout : ¬ (offset ≤ i ∧ i < offset + (b :: rest).length) := by
          simp only [List.length_cons]; omega
        rw [if_neg hin, if_neg hout, if_neg h]

@[simp] theorem size_ofBytes (bytes : List UInt8) : (ofBytes bytes).size = bytes.length := by
  simp [ofBytes, zeros]

theorem byteAt_ofBytes (bytes : List UInt8) (i : Nat) :
    (ofBytes bytes).byteAt i = bytes.getD i 0 := by
  rw [ofBytes, byteAt_write]
  by_cases h : i < bytes.length
  · simp [h]
  · simp [h]

@[simp] theorem length_read (m : Memory) (offset length : Nat) :
    (m.read offset length).length = length := by
  simp [read]

end Memory

end GuestBridge
