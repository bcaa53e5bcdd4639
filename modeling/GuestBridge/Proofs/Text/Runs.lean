import Mathlib.Data.List.DropRight
import GuestBridge.Text.Blank
import GuestBridge.Text.Numeral
/-!
# Runs of characters

A written text is taken apart at the first character that is not of a class: a name ends at a comma
or a parenthesis, a numeral where no digit follows, and blanks are trimmed up to the first character
that is not one.

## Main statements

* **`digits?_toDigits`** — the digits of a number are a run that reads as that number;
* **`natural?_eq_some_iff`** — what reads as a number: digits, or a plus sign and digits;
* **`exists_trim`**, **`trim_append`** — trimming takes away the blanks at either end, up to the
  first character that is not one.
-/

namespace GuestBridge.Text

variable {p : Char → Bool} {run run' rest rest' : List Char}

/-- A run of one class ends where a character outside the class follows. -/
theorem takeWhile_append_of_run (hrun : ∀ c ∈ run, p c = true)
    (hrest : ∀ c ∈ rest.head?, p c = false) : (run ++ rest).takeWhile p = run := by
  have hnone : rest.takeWhile p = [] := by
    cases rest with
    | nil => rfl
    | cons c cs =>
      have hc : p c = false := hrest c rfl
      rw [List.takeWhile_cons, hc]
      rfl
  rw [List.takeWhile_append_of_pos hrun, hnone, List.append_nil]

/-- A text that starts with a run can be taken apart in one way only. -/
theorem append_inj_of_run (hrun : ∀ c ∈ run, p c = true) (hrun' : ∀ c ∈ run', p c = true)
    (hrest : ∀ c ∈ rest.head?, p c = false) (hrest' : ∀ c ∈ rest'.head?, p c = false)
    (h : run ++ rest = run' ++ rest') : run = run' ∧ rest = rest' := by
  have heq : run = run' := by
    rw [← takeWhile_append_of_run hrun hrest, h, takeWhile_append_of_run hrun' hrest']
  subst heq
  exact ⟨rfl, List.append_cancel_left h⟩

/-- What is behind a run starts with a character outside its class. -/
theorem drop_length_takeWhile_eq_cons {cs : List Char} {c : Char}
    (h : cs.drop (cs.takeWhile p).length = c :: rest) :
    cs = cs.takeWhile p ++ c :: rest ∧ p c = false := by
  have hcut := List.prefix_iff_eq_append.mp (List.takeWhile_prefix p (l := cs))
  have hdrop : cs.dropWhile p = c :: rest := by
    rw [← h]
    exact List.append_cancel_left (List.takeWhile_append_dropWhile.trans hcut.symm)
  have hstop := List.head?_dropWhile_not p cs
  rw [h] at hcut
  rw [hdrop] at hstop
  exact ⟨hcut.symm, hstop⟩

/-- What is taken away at the end of a list is what was put there. -/
theorem rdropWhile_append {α : Type} {p : α → Bool} {l suffix : List α}
    (hl : ∀ a ∈ l.getLast?, p a = false) (hsuffix : ∀ a ∈ suffix, p a = true) :
    (l ++ suffix).rdropWhile p = l := by
  have hkept : l.rdropWhile p = l := by
    rw [List.rdropWhile_eq_self_iff]
    intro hne
    simpa using hl (l.getLast hne) (List.getLast?_eq_some_getLast hne)
  rw [List.rdropWhile, List.reverse_append, List.dropWhile_append_of_pos (by simpa using hsuffix)]
  exact hkept

/-! ## Decimal digits -/

theorem isDigit_iff {c : Char} : c.isDigit = true ↔ '0' ≤ c ∧ c ≤ '9' := by
  unfold Char.isDigit
  rw [Bool.and_eq_true, decide_eq_true_iff, decide_eq_true_iff]
  rfl

theorem digit?_of_isDigit {c : Char} (h : c.isDigit = true) :
    digit? c = some (c.toNat - '0'.toNat) := by
  rw [digit?, if_pos (isDigit_iff.mp h)]

/-- Digits after a number extend it as in any positional notation. -/
theorem foldDigits?_of_isDigit {cs : List Char} (h : ∀ c ∈ cs, c.isDigit = true) (n : Nat) :
    foldDigits? n cs = some (Nat.ofDigitChars 10 cs n) := by
  induction cs generalizing n with
  | nil => rfl
  | cons c rest ih =>
    have hc : c.isDigit = true := h c (List.mem_cons_self ..)
    have hrest : ∀ d ∈ rest, d.isDigit = true := fun d hd => h d (List.mem_cons_of_mem _ hd)
    rw [foldDigits?, digit?_of_isDigit hc, Nat.ofDigitChars_cons]
    exact ih hrest _

theorem digits?_of_isDigit {cs : List Char} (hne : cs ≠ []) (h : ∀ c ∈ cs, c.isDigit = true) :
    digits? cs = some (Nat.ofDigitChars 10 cs 0) := by
  cases cs with
  | nil => exact absurd rfl hne
  | cons c rest => exact foldDigits?_of_isDigit h 0

/-- Whatever folds to a number consists of digits. -/
theorem isDigit_of_foldDigits? {cs : List Char} {n m : Nat} (h : foldDigits? n cs = some m) :
    ∀ c ∈ cs, c.isDigit = true := by
  induction cs generalizing n with
  | nil => exact List.forall_mem_nil _
  | cons c rest ih =>
    obtain ⟨k, hk, hrest⟩ := Option.bind_eq_some_iff.mp h
    have hc : c.isDigit = true := by
      rw [digit?] at hk
      split at hk
      · exact isDigit_iff.mpr ‹_›
      · cases hk
    exact List.forall_mem_cons.mpr ⟨hc, ih hrest⟩

/-- What reads as a number without a sign: digits, and at least one. -/
theorem digits?_eq_some_iff {cs : List Char} {n : Nat} :
    digits? cs = some n ↔
      cs ≠ [] ∧ (∀ c ∈ cs, c.isDigit = true) ∧ Nat.ofDigitChars 10 cs 0 = n := by
  refine ⟨fun h => ?_, fun ⟨hne, hdigits, hn⟩ => by rw [digits?_of_isDigit hne hdigits, hn]⟩
  -- The empty text folds to zero, but does not read as a number.
  cases cs with
  | nil => cases h
  | cons c rest =>
    have hne : c :: rest ≠ [] := List.cons_ne_nil c rest
    have hdigits : ∀ d ∈ c :: rest, d.isDigit = true := isDigit_of_foldDigits? h
    rw [digits?_of_isDigit hne hdigits] at h
    exact ⟨hne, hdigits, Option.some.inj h⟩

/-- Decimal digits, perhaps behind a plus sign, and the number that they denote. -/
inductive Unsigned : List Char → Nat → Prop
  | digits {ds : List Char} (hne : ds ≠ []) (hdigits : ∀ c ∈ ds, c.isDigit = true) :
      Unsigned ds (Nat.ofDigitChars 10 ds 0)
  | plus {ds : List Char} (hne : ds ≠ []) (hdigits : ∀ c ∈ ds, c.isDigit = true) :
      Unsigned ('+' :: ds) (Nat.ofDigitChars 10 ds 0)

/-- What reads as a number: digits, perhaps behind one plus sign. -/
theorem natural?_eq_some_iff {cs : List Char} {n : Nat} :
    natural? cs = some n ↔ Unsigned cs n := by
  constructor
  · intro h
    rw [natural?.eq_def] at h
    split at h
    · obtain ⟨hne, hdigits, rfl⟩ := digits?_eq_some_iff.mp h
      exact .plus hne hdigits
    · obtain ⟨hne, hdigits, rfl⟩ := digits?_eq_some_iff.mp h
      exact .digits hne hdigits
  · intro h
    cases h with
    | plus hne hdigits => exact digits?_of_isDigit hne hdigits
    | digits hne hdigits =>
      rw [natural?.eq_def]
      split
      · -- a plus sign is no digit
        have hplus : Char.isDigit '+' = true := hdigits '+' (List.mem_cons_self ..)
        cases hplus
      · exact digits?_of_isDigit hne hdigits

theorem isDigit_toDigits (n : Nat) : ∀ c ∈ Nat.toDigits 10 n, c.isDigit = true :=
  fun _ hc => Nat.isDigit_of_mem_toDigits (by decide) (by decide) hc

/-- The digits of a number read as that number. -/
theorem digits?_toDigits (n : Nat) : digits? (Nat.toDigits 10 n) = some n := by
  rw [digits?_of_isDigit Nat.toDigits_ne_nil (isDigit_toDigits n), Nat.ofDigitChars_ten_toDigits]

/-- Only zero has a leading zero. -/
theorem head_toDigits {n : Nat} (h : n ≠ 0) : ∀ c ∈ (Nat.toDigits 10 n).head?, c ≠ '0' := by
  -- Strong induction: the leading digit of a larger number is that of its tenth part.
  induction n using Nat.strongRecOn with
  | ind n ih =>
    rw [Nat.toDigits_eq_if (by decide)]
    by_cases hsmall : n < 10
    · rw [if_pos hsmall]
      intro c hc
      cases hc
      rw [ne_eq, Nat.digitChar_eq_zero]
      exact h
    · rw [if_neg hsmall]
      have htenth : n / 10 < n := by omega
      have hpos : n / 10 ≠ 0 := by omega
      obtain ⟨first, others, hdigits⟩ :=
        List.exists_cons_of_ne_nil (Nat.toDigits_ne_nil : Nat.toDigits 10 (n / 10) ≠ [])
      have hfirst := ih (n / 10) htenth hpos
      rw [hdigits] at hfirst ⊢
      exact hfirst

/-! ## Trimming -/

/-- Dropping a run leaves what follows it. -/
theorem dropWhile_append_of_run (hrun : ∀ c ∈ run, p c = true)
    (hrest : ∀ c ∈ rest.head?, p c = false) : (run ++ rest).dropWhile p = rest := by
  have h := List.takeWhile_append_dropWhile (p := p) (l := run ++ rest)
  rw [takeWhile_append_of_run hrun hrest] at h
  exact List.append_cancel_left h

/-- Trimming never takes a digit away. -/
theorem isBlank_of_isDigit {c : Char} (h : c.isDigit = true) : isBlank c = false := by
  obtain ⟨hlow, hhigh⟩ := isDigit_iff.mp h
  have hlow' : 48 ≤ c.toNat := hlow
  have hhigh' : c.toNat ≤ 57 := hhigh
  simp only [isBlank, Bool.or_eq_false_iff, Bool.and_eq_false_iff, decide_eq_false_iff_not,
    beq_eq_false_iff_ne]
  omega

/-- There is no blank inside a number. -/
theorem Unsigned.isBlank {cs : List Char} {n : Nat} (h : Unsigned cs n) :
    ∀ c ∈ cs, Text.isBlank c = false := by
  cases h with
  | digits _ hdigits => exact fun c hc => isBlank_of_isDigit (hdigits c hc)
  | plus _ hdigits =>
    exact List.forall_mem_cons.mpr ⟨by decide, fun c hc => isBlank_of_isDigit (hdigits c hc)⟩

theorem trimRight_eq (cs : List Char) : trimRight cs = cs.rdropWhile isBlank := rfl

/-- Trimming takes away what is blank at either end. -/
theorem exists_trim (cs : List Char) :
    ∃ before after, cs = before ++ trim cs ++ after ∧ (∀ c ∈ before, isBlank c = true) ∧
      ∀ c ∈ after, isBlank c = true := by
  refine ⟨cs.takeWhile isBlank, (cs.dropWhile isBlank).rtakeWhile isBlank, ?_, ?_, ?_⟩
  · rw [trim, trimRight_eq, List.append_assoc, List.rdropWhile_append_rtakeWhile,
      List.takeWhile_append_dropWhile]
  · exact fun c hc => List.mem_takeWhile_imp hc
  · exact fun c hc => List.mem_rtakeWhile_imp hc

/-- Trimming stops at the first character that is not blank. -/
theorem trim_append {before body after : List Char} (hbefore : ∀ c ∈ before, isBlank c = true)
    (hafter : ∀ c ∈ after, isBlank c = true) (hbody : ∀ c ∈ body, isBlank c = false) :
    trim (before ++ body ++ after) = body := by
  cases body with
  | nil =>
    -- all is blank, so nothing is left for the second half of the trimming
    have hnone : (before ++ after).dropWhile isBlank = [] :=
      List.dropWhile_eq_nil_iff.mpr (List.forall_mem_append.mpr ⟨hbefore, hafter⟩)
    rw [List.append_nil, trim, hnone]
    rfl
  | cons c rest =>
    have hhead : ∀ d ∈ (c :: rest ++ after).head?, isBlank d = false := by
      intro d hd
      cases hd
      exact hbody c (List.mem_cons_self ..)
    rw [List.append_assoc, trim, dropWhile_append_of_run hbefore hhead, trimRight_eq]
    exact rdropWhile_append (fun d hd => hbody d (List.mem_of_getLast? hd)) hafter

end GuestBridge.Text
