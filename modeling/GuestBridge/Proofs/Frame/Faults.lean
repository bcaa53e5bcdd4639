import GuestBridge.Proofs.Frame.Defects
/-!
# Kinds of refusals

What a refusal can be at all, read off its causes (`Refusal`). A refused frame is malformed, has
another number of values, or a value of another tag (`Arguments.decode_error`); each of these is
fatal. And the reader knows the payload of every kind of value but arrays, so a frame that is read
against tags without arrays is never refused for the kind of a value, whatever words it holds
(`Arguments.decode_ne_unsupported`).
-/

namespace GuestBridge

namespace Frame

/-- To open a frame, no value is looked at. -/
theorem at?_ne_unsupported (m : Memory) (p : Pointer) (words : Nat) (tag : Tag) :
    at? m p words ≠ .error (.unsupported tag) := by
  intro h
  obtain ⟨-, -, hfault⟩ := Arguments.at?_eq_error_iff.mp h
  cases hfault

/-- Reading the count never meets an unsupported tag. -/
theorem count_ne_unsupported {f : Frame} (tag : Tag) : f.count ≠ .error (.unsupported tag) := by
  intro h
  obtain ⟨-, raw, -, -, hfault⟩ := Arguments.count_eq_error_iff.mp h
  cases hfault

/-- Only the payload of an array is refused for the kind of a value. -/
theorem PayloadDefect.eq_array {m : Memory} {start words index : Nat} {tag unknown : Tag}
    (h : PayloadDefect m start words index tag (.unsupported unknown)) : tag = .array := by
  cases h with
  | text _ _ _ defect => cases defect
  | array => rfl

end Frame

namespace Arguments

variable {function : String} {expected : List Tag} {m : Memory} {p : Pointer} {words : Nat}

/-- A refused frame is malformed, has another number of values, or a value of another tag. -/
theorem decode_error {e : BridgeError} (h : decode function expected m p words = .error e) :
    (∃ fault, e = .frame function fault) ∨
      (∃ found, e = .arityMismatch function expected.length found) ∨
      ∃ k wanted found, e = .tagMismatch function k wanted found := by
  cases decode_eq_error_iff.mp h with
  | outside _ _ | count _ _ => exact .inl ⟨_, rfl⟩
  | arity _ _ => exact .inr (.inl ⟨_, rfl⟩)
  | value _ first =>
    -- each defect of a value but another tag is one of the frame
    obtain ⟨before, tag, after, values, -, -, hdefect⟩ := first
    cases hdefect with
    | missing _ | noTag _ _ _ | payload _ _ _ => exact .inl ⟨_, rfl⟩
    | otherTag _ _ _ => exact .inr (.inr ⟨_, _, _, rfl⟩)

/-- A frame that is read against tags without arrays is not refused for the kind of a value. -/
theorem decode_ne_unsupported {other : String} (h : .array ∉ expected) {tag : Tag} :
    decode function expected m p words ≠ .error (.frame other (.unsupported tag)) := by
  intro herror
  -- Of all refusals, only a payload at fault can be about the kind of a value.
  cases decode_eq_error_iff.mp herror with
  | value _ first =>
    obtain ⟨before, wanted, after, values, rfl, -, hdefect⟩ := first
    cases hdefect with
    | payload _ _ defect =>
      obtain rfl := defect.eq_array
      exact h (List.mem_append_right before (List.mem_cons_self ..))

end Arguments

end GuestBridge
