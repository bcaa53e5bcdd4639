import GuestBridge.Number.Fixed
import GuestBridge.Proofs.Number.Expansion
import Mathlib.Algebra.Order.Field.Power
/-!
# Fixed-point text is exact rounding

A finite double is a rational number. Its fixed-point text is that number to the requested number of
places, rounded to the nearest and a tie away from zero. The rounding goes by digits
(`Expansion.text_rounded`); the crux is that there are digits enough. A double is a multiple of
`2 ^ -1074`, so its expansion ends before the last of the `exactPlaces` digits that are written out
(`number_expansion`), whatever the bits are.

## Main statement

* **`fixed_rounds_half_away_from_zero`** — the text of every finite double below `10 ^ 21`, for every
  request.
-/

namespace GuestBridge.Double

variable (x : Double)

/-! ## The number -/

/-- The rational number that a finite double is. -/
def value : ℚ := (if x.isNegative then -1 else 1) * (x.significand * 2 ^ x.exponent)

/-- The sign does not count for the magnitude. -/
theorem abs_value : |x.value| = x.significand * 2 ^ x.exponent := by
  have hnonneg : (0 : ℚ) ≤ x.significand * 2 ^ x.exponent := by positivity
  unfold value
  split
  · rw [neg_one_mul, abs_neg, abs_of_nonneg hnonneg]
  · rw [one_mul, abs_of_nonneg hnonneg]

/-- Only the zeros have no significand: normal numbers have a hidden bit. -/
theorem significand_eq_zero_iff : x.significand = 0 ↔ x.isZero = true := by
  unfold significand isZero
  rw [Bool.and_eq_true, beq_iff_eq, beq_iff_eq]
  split
  · next hsubnormal => rw [and_iff_right hsubnormal]
  · next hnormal =>
    -- A normal number has the hidden bit, so its significand is not zero.
    have hhidden : 0 < hiddenBit := by decide
    omega

/-- A number below zero has its sign bit set; the negative zero is none. -/
theorem value_neg_iff : x.value < 0 ↔ (x.isNegative && !x.isZero) = true := by
  have hscale : (0 : ℚ) < 2 ^ x.exponent := by positivity
  rw [Bool.and_eq_true, Bool.not_eq_true', ← Bool.not_eq_true, ← significand_eq_zero_iff]
  unfold value
  cases x.isNegative with
  | false =>
    have hnonneg : (0 : ℚ) ≤ x.significand * 2 ^ x.exponent := by positivity
    rw [if_neg Bool.false_ne_true, one_mul]
    exact iff_of_false (not_lt_of_ge hnonneg) fun h => Bool.false_ne_true h.1
  | true =>
    rw [if_pos rfl, neg_one_mul, neg_lt_zero, mul_pos_iff_of_pos_right hscale, Nat.cast_pos,
      Nat.pos_iff_ne_zero, and_iff_right rfl]

/-! ## The magnitude as a quotient -/

/-- No double has more than 1074 binary places. -/
theorem le_exponent : -1074 ≤ x.exponent := by
  unfold exponent
  split <;> omega

/-- The magnitude of a number is a quotient by a power of two, at most the 1074th. -/
theorem magnitude_den : ∃ k ≤ 1074, x.magnitude.2 = 2 ^ k := by
  have hlow := x.le_exponent
  unfold magnitude
  split
  · exact ⟨0, by omega, rfl⟩
  · exact ⟨(-x.exponent).toNat, by omega, rfl⟩

theorem magnitude_den_pos : 0 < x.magnitude.2 := by
  obtain ⟨k, -, hden⟩ := x.magnitude_den
  rw [hden]
  exact Nat.two_pow_pos k

/-- The quotient is the magnitude, exactly. -/
theorem magnitude_eq : (x.magnitude.1 : ℚ) / x.magnitude.2 = |x.value| := by
  rw [abs_value]
  unfold magnitude
  split
  · next hexponent =>
    -- with an exponent of zero or more the number is whole
    obtain ⟨k, hk⟩ := Int.eq_ofNat_of_zero_le hexponent
    rw [hk, zpow_natCast]
    show ((x.significand * 2 ^ k : ℕ) : ℚ) / (1 : ℕ) = _
    push_cast
    rw [div_one]
  · next hexponent =>
    -- otherwise the denominator is two to the power of the exponent without its sign
    obtain ⟨k, hk⟩ := Int.eq_ofNat_of_zero_le (a := -x.exponent) (by omega)
    have hexp : x.exponent = -(k : Int) := by omega
    rw [hk, hexp, zpow_neg, zpow_natCast]
    show (x.significand : ℚ) / (2 ^ k : ℕ) = _
    push_cast
    rw [div_eq_mul_inv]

/-- Below `10 ^ 21` a double is written out in digits. -/
theorem isHuge_eq_false (h : |x.value| < 10 ^ 21) : x.isHuge = false := by
  have hden : (0 : ℚ) < x.magnitude.2 := by exact_mod_cast x.magnitude_den_pos
  rw [← magnitude_eq, div_lt_iff₀ hden] at h
  unfold isHuge
  refine decide_eq_false (Nat.not_le.mpr ?_)
  exact_mod_cast h

/-! ## The expansion -/

theorem expansion_eq : x.expansion = .ofQuotient x.magnitude.1 x.magnitude.2 exactPlaces := rfl

/-- Enough fractional digits are written out: nothing of the magnitude is left behind them. -/
theorem number_expansion :
    (Expansion.number x.expansion.digits : ℚ) / 10 ^ exactPlaces = |x.value| := by
  obtain ⟨k, hk, hden⟩ := x.magnitude_den
  -- The denominator is a power of two with at most as many factors as there are places.
  have hdvd : x.magnitude.2 ∣ 10 ^ exactPlaces := by
    rw [hden]
    calc 2 ^ k ∣ 2 ^ exactPlaces := Nat.pow_dvd_pow 2 (hk.trans (by decide))
      _ ∣ 10 ^ exactPlaces := pow_dvd_pow_of_dvd (by decide) _
  have hnumber : Expansion.number x.expansion.digits * x.magnitude.2 =
      x.magnitude.1 * 10 ^ exactPlaces := by
    rw [expansion_eq, Expansion.number_ofQuotient x.magnitude_den_pos]
    exact Nat.div_mul_cancel (Dvd.dvd.mul_left hdvd _)
  have hpos : (x.magnitude.2 : ℚ) ≠ 0 := by exact_mod_cast x.magnitude_den_pos.ne'
  rw [← magnitude_eq, div_eq_div_iff (by positivity) hpos]
  exact_mod_cast hnumber

theorem length_fraction_expansion : x.expansion.fraction.length = exactPlaces :=
  Expansion.length_fractionOf ..

theorem proper_expansion : x.expansion.Proper := Expansion.proper_ofQuotient x.magnitude_den_pos

/-- Requests are clamped to what is between no place and a hundred. -/
theorem fixedPlaces_eq (requested : Int32) :
    fixedPlaces requested = (max 0 (min requested.toInt 100)).toNat := by
  unfold fixedPlaces
  omega

/-- A finite double is written as the nearest multiple of `10 ^ -places`, a tie away from zero: the
numeral of the whole part, and behind a point as many digits as there are places. Just the numbers
below zero have a sign, so that it stays with what rounds to zero. -/
theorem fixed_rounds_half_away_from_zero (x : Double) (requested : Int32)
    (hnumber : x.isNaN = false) (hfinite : x.isInfinite = false) (hsmall : |x.value| < 10 ^ 21) :
    let places := (max 0 (min requested.toInt 100)).toNat
    let n := ⌊|x.value| * 10 ^ places + 1 / 2⌋₊
    ∃ fraction : List Char,
      fraction.length = places ∧ Expansion.Digital fraction ∧
      Expansion.number fraction = n % 10 ^ places ∧
      x.fixed requested =
        (if x.value < 0 then "-" else "") ++ toString (n / 10 ^ places) ++
          if places = 0 then "" else "." ++ String.ofList fraction := by
  intro places n
  have hplaces : places < x.expansion.fraction.length := by
    rw [length_fraction_expansion]
    show _ < 1100
    omega
  have hn : n = ⌊(Expansion.number x.expansion.digits : ℚ) /
      10 ^ x.expansion.fraction.length * 10 ^ places + 1 / 2⌋₊ := by
    rw [length_fraction_expansion, number_expansion]
  obtain ⟨fraction, hlength, hdigital, hfraction, htext⟩ :=
    Expansion.text_rounded x.proper_expansion hplaces hn
  refine ⟨fraction, hlength, hdigital, hfraction, ?_⟩
  unfold fixed
  simp only [hnumber, hfinite, x.isHuge_eq_false hsmall, Bool.false_eq_true, if_false,
    fixedPlaces_eq, ← x.value_neg_iff]
  rw [htext, String.append_assoc]

/-- The double next to 9.96, written with one digit: a carry makes the whole part longer. -/
theorem fixed_rounds_half_away_from_zero_carry :
    let x : Double := ⟨0x4023EB851EB851EC⟩
    (x.isNaN = false ∧ x.isInfinite = false ∧ |x.value| < 10 ^ 21) ∧
      ⌊|x.value| * 10 ^ 1 + 1 / 2⌋₊ = 100 ∧ x.fixed 1 = "10.0" := by
  intro x
  have hvalue : (x.isNaN = false ∧ x.isInfinite = false ∧ |x.value| < 10 ^ 21) ∧ ¬ x.value < 0 ∧
      ⌊|x.value| * 10 ^ 1 + 1 / 2⌋₊ = 100 := by decide +kernel
  obtain ⟨⟨hnumber, hfinite, hsmall⟩, hpositive, hn⟩ := hvalue
  obtain ⟨fraction, hlength, hdigital, hfraction, htext⟩ :=
    fixed_rounds_half_away_from_zero x 1 hnumber hfinite hsmall
  have hplaces : (max 0 (min (1 : Int32).toInt 100)).toNat = 1 := by decide
  rw [hplaces] at hlength hfraction htext
  rw [hn] at hfraction htext
  obtain ⟨c, rfl⟩ := List.length_eq_one_iff.mp hlength
  obtain ⟨k, hk, rfl⟩ := Expansion.exists_digitChar (hdigital c (List.mem_singleton_self c))
  rw [Expansion.number_digitChar hk] at hfraction
  subst hfraction
  refine ⟨⟨hnumber, hfinite, hsmall⟩, hn, ?_⟩
  rw [htext, if_neg hpositive]
  rfl

end GuestBridge.Double
