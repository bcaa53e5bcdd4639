import GuestBridge.Proofs.Registry.Announcement
import GuestBridge.Proofs.Wire.Delimiting
/-!
# Describing a function

A description asks the guest for two blocks, one for the name and one for the descriptor, and fills
both. The descriptor is written last, so it stands in its block whatever the allocator does: no
promise about blocks is needed here, unlike for the name.

## Main statement

* **`descriptors_delimit_themselves`** — a descriptor is recovered from its address alone, and fills
  the block that was asked for it.
-/

namespace GuestBridge

variable {σ : Type}

namespace Guest

variable {g : Guest σ} {f : ExternalFunction} {s t u v : Session σ} {p name : Pointer}

/-- A description succeeds exactly when both blocks are granted. -/
theorem describe_eq_ok_iff :
    g.describe f s = .ok p t ↔ ∃ name u v, g.Announces f s name p u v t := by
  constructor
  · intro h
    -- The blocks are asked for one after the other; without either, the description fails.
    cases hname : g.allocate (Slots.count f.name) s with
    | error e u =>
      rw [describe_of_no_name hname] at h
      cases h
    | ok name u =>
      cases hdescriptor : g.allocate (Descriptor.slots f.signature)
          (u.stored name (Slots.encode f.name)) with
      | error e v =>
        rw [describe_of_no_descriptor hname hdescriptor] at h
        cases h
      | ok q v =>
        have hannounces : g.Announces f s name q u v _ := ⟨hname, hdescriptor, rfl⟩
        rw [hannounces.describe_eq] at h
        cases h
        exact ⟨name, u, v, hannounces⟩
  · rintro ⟨name, u, v, hannounces⟩
    exact hannounces.describe_eq

/-- An allocator can be asked only for descriptors whose counts fit. -/
theorem Announces.countsFit (h : g.Announces f s name p u v t) :
    Descriptor.CountsFit f.signature := by
  obtain ⟨raw, hgranted⟩ := Allocation.allocate_eq_ok_iff.mp h.descriptor
  -- a granted block has no more slots than an allocator can be asked for
  have hslots := hgranted.asked
  unfold Descriptor.slots Descriptor.headerSlots Allocation.maxSlots at hslots
  exact ⟨by omega, by omega⟩

/-- The descriptor is found at its address. -/
theorem Announces.descriptorAt?_eq (h : g.Announces f s name p u v t) :
    t.arena.memory.descriptorAt? p = some (name, f.signature) := by
  have hfits := Allocation.fits_of_allocate h.descriptor
  have hsize := v.size_stored p (Descriptor.encode name f.signature)
  -- the descriptor is written last, so it is read as it was written
  have hread := v.read_stored p (Descriptor.encode name f.signature)
  rw [Descriptor.length_encode] at hread
  rw [← h.stored] at hsize hread
  exact Memory.descriptorAt?_eq_some_iff.mpr ⟨h.countsFit, hfits.trans hsize.ge, hread⟩

end Guest

open Descriptor (CountsFit)

/-- **Descriptors delimit themselves.**
* If two descriptors are followed by any bytes and the same bytes come out, then name pointer,
  arguments, returns and what follows are the same.
* A descriptor takes four bytes for each of its slots.
* What is read at an address is the descriptor whose bytes stand there, within the memory.
* When a function has been described, the block that the guest was asked for has the length of the
  descriptor, and the descriptor is read at its address.

Lists of `2 ^ 32` tags and more have no count of their own and are left out. -/
theorem descriptors_delimit_themselves :
    (∀ (name name' : Pointer) (s s' : Signature) (x y : List UInt8), CountsFit s → CountsFit s' →
      Descriptor.encode name s ++ x = Descriptor.encode name' s' ++ y →
        name = name' ∧ s.args = s'.args ∧ s.rets = s'.rets ∧ x = y) ∧
    (∀ name s, (Descriptor.encode name s).length = 4 * Descriptor.slots s) ∧
    (∀ (m : Memory) p name s, m.descriptorAt? p = some (name, s) ↔
      CountsFit s ∧ p.offset + 4 * Descriptor.slots s ≤ m.size ∧
        m.read p.offset (4 * Descriptor.slots s) = Descriptor.encode name s) ∧
    ∀ {σ : Type} (g : Guest σ) f s p t, g.describe f s = .ok p t →
      ∃ name u v, g.Announces f s name p u v t ∧
        (Block.granted p (Descriptor.slots f.signature)).length =
          (Descriptor.encode name f.signature).length ∧
        t.arena.memory.descriptorAt? p = some (name, f.signature) := by
  refine ⟨fun name name' s s' x y hs hs' h => ?_, Descriptor.length_encode,
    fun m p name s => Memory.descriptorAt?_eq_some_iff, fun g f s p t h => ?_⟩
  · obtain ⟨rfl, rfl, rfl⟩ := Descriptor.encode_append_inj hs hs' h
    exact ⟨rfl, rfl, rfl, rfl⟩
  · obtain ⟨name, u, v, hannounces⟩ := Guest.describe_eq_ok_iff.mp h
    exact ⟨name, u, v, hannounces, (Descriptor.length_encode name f.signature).symm,
      hannounces.descriptorAt?_eq⟩

/-- The descriptor of a function of a number and a text, with another descriptor behind it, and the
one that a registration leaves behind the function's name. -/
theorem descriptors_delimit_themselves_locate :
    let s : Signature := ⟨[.int, .string], []⟩
    let empty : List UInt8 := [8, 0, 0, 0, 0, 0, 0, 0, 0, 0, 0, 0]
    CountsFit s ∧ CountsFit locate.signature ∧
    Descriptor.encode ⟨1024⟩ s ++ Descriptor.encode ⟨8⟩ ⟨[], []⟩ =
      Descriptor.encode (.ofInt32 1024) locate.signature ++ empty ∧
    s.args = locate.signature.args ∧ Descriptor.encode ⟨8⟩ ⟨[], []⟩ = empty ∧
    (Descriptor.encode ⟨1024⟩ s).length = 20 ∧
    ∃ p t, bumping.describe locate onePage = .ok p t ∧ p.offset = 1052 ∧
      t.arena.memory.descriptorAt? p = some (⟨1024⟩, locate.signature) := by
  intro s empty
  have hs : CountsFit s := ⟨by decide, by decide⟩
  have hlocate : CountsFit locate.signature := ⟨by decide, by decide⟩
  have hbytes : Descriptor.encode ⟨1024⟩ s ++ Descriptor.encode ⟨8⟩ ⟨[], []⟩ =
      Descriptor.encode (.ofInt32 1024) locate.signature ++ empty := by decide +kernel
  have hgranted : ∃ q u, bumping.allocate (Slots.count locate.name) onePage = .ok q u ∧
      ∃ p v, bumping.allocate (Descriptor.slots locate.signature)
        (u.stored q (Slots.encode locate.name)) = .ok p v ∧ p.offset = 1052 :=
    ⟨_, _, rfl, _, _, rfl, rfl⟩
  obtain ⟨q, u, hq, p, v, hp, hat⟩ := hgranted
  have hannounces : bumping.Announces locate onePage q p u v _ := ⟨hq, hp, rfl⟩
  obtain ⟨hunique, hlength, -, hdescribed⟩ := descriptors_delimit_themselves
  obtain ⟨-, hargs, -, hrest⟩ := hunique _ _ _ _ _ _ hs hlocate hbytes
  obtain ⟨name, u', v', hown, -, hread⟩ := hdescribed bumping _ _ _ _ hannounces.describe_eq
  have hname : name = ⟨1024⟩ := Pointer.offset_injective (Guest.allocate_bumping hown.name).1
  rw [hname] at hread
  exact ⟨hs, hlocate, hbytes, hargs, hrest, hlength ⟨1024⟩ s, p, _, hannounces.describe_eq, hat,
    hread⟩

end GuestBridge
