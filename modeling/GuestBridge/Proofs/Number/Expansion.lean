import GuestBridge.Number.Expansion
import GuestBridge.Proofs.Text.Runs
import Mathlib.Algebra.Order.Floor.Semifield
import Mathlib.Data.List.Induction
import Mathlib.Data.Rat.Floor
import Mathlib.Tactic.FieldSimp
import Mathlib.Tactic.Ring
/-!
# Rounding on digits

An expansion is rounded by a look at one digit and by a carry that may run through all the others.
Here digits are compared with the numbers that they denote.

* **`toDigits_number`** — digits without a superfluous leading zero are the numeral of their number.
* **`number_increment`** — adding one: the number grows by one, or the digits were all nines.
* **`rounded_eq`** — rounding keeps the first digits or adds one to them; no superfluous zero leads.
* **`floor_eq_kept`** — the first digit that is cut off decides for the nearer number, a tie upward.
* **`number_ofQuotient`** — long division: the digits denote the quotient, rounded down.
* **`text_rounded`** — what a rounded expansion says, by the nearest number.
-/

namespace GuestBridge.Expansion

variable {ds es : List Char} {c : Char} {den num rem places width n : Nat} {e : Expansion}

/-! ## Digits and numbers -/

/-- Nothing but decimal digits. -/
def Digital (ds : List Char) : Prop := ∀ c ∈ ds, c.isDigit = true

/-- The number that decimal digits denote. -/
def number (ds : List Char) : Nat := Nat.ofDigitChars 10 ds 0

theorem Digital.append (hds : Digital ds) (hes : Digital es) : Digital (ds ++ es) :=
  List.forall_mem_append.mpr ⟨hds, hes⟩

theorem Digital.take (h : Digital ds) (k : Nat) : Digital (ds.take k) :=
  fun c hc => h c (List.mem_of_mem_take hc)

theorem Digital.drop (h : Digital ds) (k : Nat) : Digital (ds.drop k) :=
  fun c hc => h c (List.mem_of_mem_drop hc)

theorem digital_zeros (k : Nat) : Digital (List.replicate k '0') := by
  intro c hc
  rw [List.eq_of_mem_replicate hc]
  rfl

theorem isDigit_digitChar {k : Nat} (h : k < 10) : k.digitChar.isDigit = true := by
  rw [Nat.isDigit_digitChar]
  exact decide_eq_true h

/-- Every decimal digit is the character of a number below ten. -/
theorem exists_digitChar (h : c.isDigit = true) : ∃ k < 10, c = k.digitChar := by
  obtain ⟨hlow, hhigh⟩ := Text.isDigit_iff.mp h
  have hlow' : 48 ≤ c.toNat := hlow
  have hhigh' : c.toNat ≤ 57 := hhigh
  refine ⟨c.toNat - 48, by omega, Char.toNat_inj.mp ?_⟩
  rw [Nat.toNat_digitChar_of_lt_ten (by omega)]
  omega

/-- Digits behind others shift them. -/
theorem number_append (ds es : List Char) :
    number (ds ++ es) = number ds * 10 ^ es.length + number es := by
  unfold number
  rw [Nat.ofDigitChars_append, Nat.ofDigitChars_eq_ofDigitChars_zero, Nat.mul_comm]

theorem number_digitChar {k : Nat} (h : k < 10) : number [k.digitChar] = k := by
  unfold number
  rw [Nat.ofDigitChars_cons_digitChar_of_lt_ten h]
  simp

/-- The first digit counts for a power of ten. -/
theorem number_cons {k : Nat} (h : k < 10) (ds : List Char) :
    number (k.digitChar :: ds) = k * 10 ^ ds.length + number ds := by
  have happend := number_append [k.digitChar] ds
  rwa [number_digitChar h] at happend

theorem number_zeros (k : Nat) : number (List.replicate k '0') = 0 := by
  unfold number
  rw [Nat.ofDigitChars_replicate_zero, Nat.mul_zero]

theorem number_toDigits (n : Nat) : number (Nat.toDigits 10 n) = n := Nat.ofDigitChars_ten_toDigits

/-- Digits denote a number below the power of ten that they are too short for. Induction on the
digits. -/
theorem number_lt (h : Digital ds) : number ds < 10 ^ ds.length := by
  induction ds with
  | nil => decide
  | cons c rest ih =>
    obtain ⟨hc, hrest⟩ := List.forall_mem_cons.mp h
    obtain ⟨k, hk, rfl⟩ := exists_digitChar hc
    have hbound := ih hrest
    have hdigit : k * 10 ^ rest.length ≤ 9 * 10 ^ rest.length :=
      Nat.mul_le_mul_right _ (by omega)
    rw [number_cons hk, List.length_cons, Nat.pow_succ]
    omega

/-- Digits before a point denote what is left when those behind it are divided off. -/
theorem number_append_div (ds : List Char) (hes : Digital es) :
    number (ds ++ es) / 10 ^ es.length = number ds := by
  rw [number_append, Nat.mul_comm, Nat.mul_add_div (Nat.pow_pos (by decide)),
    Nat.div_eq_of_lt (number_lt hes), Nat.add_zero]

/-- The digits behind the point denote the remainder. -/
theorem number_append_mod (ds : List Char) (hes : Digital es) :
    number (ds ++ es) % 10 ^ es.length = number es := by
  rw [number_append, Nat.mul_comm, Nat.mul_add_mod, Nat.mod_eq_of_lt (number_lt hes)]

/-- Digits without a superfluous leading zero are the numeral of their number. -/
theorem toDigits_number (hdigital : Digital ds)
    (hplain : ds.length = 1 ∨ 0 < ds.length ∧ 10 ^ (ds.length - 1) ≤ number ds) :
    Nat.toDigits 10 (number ds) = ds := by
  -- The induction is from the last digit, as a numeral is made of that of the tenth part.
  induction ds using List.reverseRecOn with
  | nil =>
    simp only [List.length_nil] at hplain
    omega
  | append_singleton rest c ih =>
    obtain ⟨hrest, hc⟩ := List.forall_mem_append.mp hdigital
    obtain ⟨k, hk, rfl⟩ := exists_digitChar (hc c (List.mem_singleton_self c))
    have hnumber : number (rest ++ [k.digitChar]) = number rest * 10 + k := by
      rw [number_append, number_digitChar hk]
      rfl
    have hlength : (rest ++ [k.digitChar]).length = rest.length + 1 := List.length_append
    rw [hnumber, hlength, Nat.add_sub_cancel] at hplain
    rw [hnumber]
    cases rest with
    | nil =>
      have hzero : number [] = 0 := rfl
      rw [hzero, Nat.zero_mul, Nat.zero_add, Nat.toDigits_of_lt_base hk]
      rfl
    | cons d ds =>
      have hlength' : (d :: ds).length = ds.length + 1 := rfl
      rw [hlength', Nat.pow_succ] at hplain
      have hbound : 10 ^ ds.length ≤ number (d :: ds) := by omega
      have hpositive : 0 < 10 ^ ds.length := Nat.pow_pos (by decide)
      have hih := ih hrest (.inr ⟨Nat.succ_pos _, hbound⟩)
      have hdiv : (number (d :: ds) * 10 + k) / 10 = number (d :: ds) := by omega
      have hmod : (number (d :: ds) * 10 + k) % 10 = k := by omega
      rw [Nat.toDigits_of_base_le (by decide) (by omega), hdiv, hmod, hih]

/-! ## Adding one -/

/-- The character after a digit other than nine is the next digit. -/
theorem ofNat_succ_digitChar : ∀ k < 9, Char.ofNat (k.digitChar.toNat + 1) = (k + 1).digitChar := by
  decide

/-- The number grows by one, or the digits were all nines. -/
theorem number_increment (h : Digital ds) :
    (∃ es, increment ds = (es, false) ∧ Digital es ∧ es.length = ds.length ∧
      number es = number ds + 1) ∨
    increment ds = (List.replicate ds.length '0', true) ∧ number ds + 1 = 10 ^ ds.length := by
  induction ds with
  | nil => exact .inr ⟨rfl, rfl⟩
  | cons c rest ih =>
    obtain ⟨hc, hrest⟩ := List.forall_mem_cons.mp h
    obtain ⟨k, hk, rfl⟩ := exists_digitChar hc
    rw [number_cons hk]
    -- Induction from the left: the digits behind take the one, or hand on a carry.
    obtain ⟨es, hincrement, hdigital, hlength, hnumber⟩ | ⟨hincrement, hnumber⟩ := ih hrest
    · left
      refine ⟨k.digitChar :: es, ?_, List.forall_mem_cons.mpr ⟨hc, hdigital⟩, ?_, ?_⟩
      · rw [increment, hincrement]
      · rw [List.length_cons, List.length_cons, hlength]
      · rw [number_cons hk, hlength, hnumber, Nat.add_assoc]
    · rw [increment, hincrement]
      dsimp only
      -- a carry arrives, which a nine hands on
      by_cases hnine : k = 9
      · right
        subst hnine
        refine ⟨rfl, ?_⟩
        rw [List.length_cons, Nat.pow_succ]
        omega
      · left
        have hsucc : k + 1 < 10 := by omega
        refine ⟨(k + 1).digitChar :: List.replicate rest.length '0', ?_, ?_, ?_, ?_⟩
        · rw [if_neg (mt Nat.digitChar_eq_nine.mp hnine), ofNat_succ_digitChar k (by omega)]
        · exact List.forall_mem_cons.mpr ⟨isDigit_digitChar hsucc, digital_zeros _⟩
        · rw [List.length_cons, List.length_cons, List.length_replicate]
        · rw [number_cons hsucc, List.length_replicate, number_zeros, Nat.succ_mul]
          omega

/-! ## Digits with a point -/

/-- Digits with a point before the last `places` of them, and no superfluous zero in front of the
`width` others. -/
structure Pointed (width places : Nat) (ds : List Char) : Prop where
  digital : Digital ds
  length : ds.length = width + places
  plain : width = 1 ∨ 0 < width ∧ 10 ^ (width - 1) ≤ number ds / 10 ^ places

/-- All digits of an expansion, without the point. -/
def digits (e : Expansion) : List Char := e.whole ++ e.fraction

/-- An expansion of digits, and no superfluous zero in front. -/
def Proper (e : Expansion) : Prop := Pointed e.whole.length e.fraction.length e.digits

theorem Proper.fraction (he : e.Proper) : Digital e.fraction :=
  (List.forall_mem_append.mp he.digital).2

namespace Pointed

section Parts

variable (h : Pointed width places ds)
include h

/-- As many digits stand behind the point as there are places. -/
theorem length_drop : (ds.drop width).length = places := by
  rw [List.length_drop, h.length, Nat.add_sub_cancel_left]

/-- The digits before the point denote the whole part. -/
theorem number_take : number (ds.take width) = number ds / 10 ^ places := by
  have hdiv := number_append_div (ds.take width) (h.digital.drop width)
  rw [List.take_append_drop, h.length_drop] at hdiv
  exact hdiv.symm

theorem number_drop : number (ds.drop width) = number ds % 10 ^ places := by
  have hmod := number_append_mod (ds.take width) (h.digital.drop width)
  rw [List.take_append_drop, h.length_drop] at hmod
  exact hmod.symm

/-- The whole part is the numeral of its number. -/
theorem take_eq : ds.take width = Nat.toDigits 10 (number ds / 10 ^ places) := by
  have hlength : (ds.take width).length = width := by
    rw [List.length_take, h.length]
    omega
  rw [← h.number_take]
  symm
  apply toDigits_number (h.digital.take width)
  rw [hlength, h.number_take]
  exact h.plain

/-- A larger number of as many digits needs no leading zero either. -/
theorem of_le (hes : Digital es) (hlength : es.length = ds.length) (hle : number ds ≤ number es) :
    Pointed width places es where
  digital := hes
  length := hlength.trans h.length
  plain := h.plain.imp_right fun ⟨hpos, hplain⟩ =>
    ⟨hpos, hplain.trans (Nat.div_le_div_right hle)⟩

end Parts

end Pointed

/-- Fewer fractional digits leave the whole part as it is. -/
theorem Proper.pointed_kept (he : e.Proper) (hplaces : places ≤ e.fraction.length) :
    Pointed e.whole.length places (e.kept places) := by
  have hfraction : Digital (e.fraction.take places) := he.fraction.take places
  have hlength : (e.fraction.take places).length = places := List.length_take_of_le hplaces
  have hcut : number (e.kept places) / 10 ^ places = number e.whole := by
    have hdiv := number_append_div e.whole hfraction
    rwa [hlength] at hdiv
  have hplain := he.plain
  rw [digits, number_append_div e.whole he.fraction] at hplain
  constructor
  case digital => exact Digital.append (List.forall_mem_append.mp he.digital).1 hfraction
  case length => rw [kept, List.length_append, hlength]
  case plain =>
    rw [hcut]
    exact hplain

/-! ## Rounding -/

theorem number_one_zeros (k : Nat) : number ('1' :: List.replicate k '0') = 10 ^ k := by
  have hcons := number_cons (k := 1) (by decide) (List.replicate k '0')
  rwa [number_zeros, List.length_replicate, Nat.one_mul] at hcons

/-- A carry that is left over is a digit of its own. -/
theorem pointed_carried (width places : Nat) :
    Pointed (width + 1) places ('1' :: List.replicate (width + places) '0') where
  digital := List.forall_mem_cons.mpr ⟨rfl, digital_zeros _⟩
  length := by
    rw [List.length_cons, List.length_replicate]
    omega
  plain := by
    right
    rw [number_one_zeros, Nat.pow_add, Nat.mul_div_cancel _ (Nat.pow_pos (by decide)),
      Nat.add_sub_cancel]
    exact ⟨Nat.succ_pos _, Nat.le_refl _⟩

/-- The digits of a rounded expansion: those that are kept, or one more. -/
theorem rounded_eq (he : e.Proper) (hplaces : places ≤ e.fraction.length) :
    ∃ width ds, e.rounded places = split width ds ∧ Pointed width places ds ∧
      number ds = number (e.kept places) + (e.roundsUp places).toNat := by
  have hkept := he.pointed_kept hplaces
  unfold rounded
  cases hup : e.roundsUp places with
  | false => exact ⟨e.whole.length, e.kept places, rfl, hkept, rfl⟩
  | true =>
    rw [if_pos rfl]
    -- the carry stays inside the kept digits, or makes one digit more
    obtain ⟨es, hincrement, hdigital, hlength, hnumber⟩ | ⟨hincrement, hnumber⟩ :=
      number_increment hkept.digital
    · rw [hincrement]
      refine ⟨e.whole.length, es, rfl, hkept.of_le hdigital hlength ?_, hnumber⟩
      omega
    · rw [hincrement, hkept.length]
      refine ⟨e.whole.length + 1, _, rfl, pointed_carried .., ?_⟩
      rw [number_one_zeros, ← hkept.length]
      exact hnumber.symm

/-- A quotient by ten times `unit` is rounded, a half upward, by the digit that stands before
`unit`. -/
theorem floor_eq_of_digit {most k unit rest : Nat} (hrest : rest < unit) (hk : k < 10) :
    ⌊((most * (10 * unit) + k * unit + rest : ℕ) : ℚ) / (10 * unit : ℕ) + 1 / 2⌋₊ =
      most + (decide (5 ≤ k)).toNat := by
  have hunit : (unit : ℚ) ≠ 0 := by
    have hpos : unit ≠ 0 := by omega
    exact_mod_cast hpos
  have hhalves : ((most * (10 * unit) + k * unit + rest : ℕ) : ℚ) / (10 * unit : ℕ) + 1 / 2 =
      ((2 * (most * (10 * unit) + k * unit + rest) + 10 * unit : ℕ) : ℚ) /
        (2 * (10 * unit) : ℕ) := by
    push_cast
    field_simp
  have hmost (j : Nat) :
      (most + j) * (2 * (10 * unit)) = 2 * (most * (10 * unit)) + j * (20 * unit) := by ring
  rw [hhalves, Nat.floor_div_eq_div]
  -- what is cut off is a half and more, or less than a half
  by_cases hfive : 5 ≤ k
  · have hlow : 5 * unit ≤ k * unit := Nat.mul_le_mul_right _ hfive
    have hhigh : k * unit ≤ 9 * unit := Nat.mul_le_mul_right _ (by omega)
    rw [decide_eq_true hfive, Bool.toNat_true]
    apply Nat.div_eq_of_lt_le
    · rw [hmost]
      omega
    · rw [Nat.add_assoc most, hmost]
      omega
  · have hhigh : k * unit ≤ 4 * unit := Nat.mul_le_mul_right _ (by omega)
    rw [decide_eq_false hfive, Bool.toNat_false]
    apply Nat.div_eq_of_lt_le
    · rw [hmost]
      omega
    · rw [Nat.add_assoc most, hmost]
      omega

/-- Digits are compared as characters as they are as numbers. -/
theorem five_le_digitChar : ∀ k < 10, decide ('5' ≤ k.digitChar) = decide (5 ≤ k) := by
  decide

/-- The kept digits, with one more where the first digit cut off is five or more, denote the
nearest number, a half upward. -/
theorem floor_eq_kept (he : e.Proper) (hplaces : places < e.fraction.length) :
    ⌊(number e.digits : ℚ) / 10 ^ e.fraction.length * 10 ^ places + 1 / 2⌋₊ =
      number (e.kept places) + (e.roundsUp places).toNat := by
  obtain ⟨k, hk, hdigit⟩ := exists_digitChar (he.fraction _ (List.getElem_mem hplaces))
  have hup : e.roundsUp places = decide (5 ≤ k) := by
    unfold roundsUp
    rw [List.getElem?_eq_getElem hplaces, hdigit]
    exact five_le_digitChar k hk
  let rest := e.fraction.drop (places + 1)
  -- The digits are those that are kept, the one that decides, and the rest.
  have hparts : e.digits = e.kept places ++ (k.digitChar :: rest) := by
    rw [digits, kept, List.append_assoc, ← hdigit, List.getElem_cons_drop,
      List.take_append_drop]
  have hlength : e.fraction.length = places + (rest.length + 1) := by
    rw [List.length_drop]
    omega
  have hnumber : number e.digits =
      number (e.kept places) * (10 * 10 ^ rest.length) + k * 10 ^ rest.length + number rest := by
    rw [hparts, number_append, number_cons hk, List.length_cons, Nat.pow_succ', Nat.add_assoc]
  -- Scaled by the kept places, the rest and the deciding digit are behind the point.
  have hscale : (number e.digits : ℚ) / 10 ^ e.fraction.length * 10 ^ places =
      (number e.digits : ℚ) / (10 * 10 ^ rest.length : ℕ) := by
    rw [hlength, pow_add]
    push_cast
    field_simp
    ring
  rw [hup, hscale, hnumber]
  exact floor_eq_of_digit (number_lt (he.fraction.drop _)) hk

/-! ## Long division -/

/-- Long division writes out as many digits as it is asked for. -/
theorem length_fractionOf (den places rem : Nat) :
    (fractionOf den places rem).length = places := by
  induction places generalizing rem with
  | zero => rfl
  | succ places ih => rw [fractionOf, List.length_cons, ih]

/-- Each digit of a long division is one. -/
theorem digit_lt (h : rem < den) : 10 * rem / den < 10 := by
  rw [Nat.div_lt_iff_lt_mul (by omega)]
  omega

theorem digital_fractionOf (h : rem < den) : Digital (fractionOf den places rem) := by
  induction places generalizing rem with
  | zero => exact List.forall_mem_nil _
  | succ places ih =>
    have hrem : 10 * rem % den < den := Nat.mod_lt _ (by omega)
    exact List.forall_mem_cons.mpr ⟨isDigit_digitChar (digit_lt h), ih hrem⟩

/-- The whole part of a quotient and its remainder are scaled apart. -/
theorem scaled_div (hden : 0 < den) (num scale : Nat) :
    num * scale / den = num / den * scale + num % den * scale / den := by
  have hsplit : num * scale = den * (num / den * scale) + num % den * scale := by
    rw [← Nat.mul_assoc, ← Nat.add_mul, Nat.div_add_mod]
  rw [hsplit, Nat.mul_add_div hden]

/-- Long division writes out the quotient, rounded down. Induction on the places: a step takes the
first digit and leaves the remainder to the others. -/
theorem number_fractionOf (h : rem < den) :
    number (fractionOf den places rem) = rem * 10 ^ places / den := by
  induction places generalizing rem with
  | zero =>
    rw [Nat.pow_zero, Nat.mul_one, Nat.div_eq_of_lt h]
    rfl
  | succ places ih =>
    have hpos : 0 < den := by omega
    have hshift : rem * 10 ^ (places + 1) = 10 * rem * 10 ^ places := by
      rw [Nat.pow_succ', ← Nat.mul_assoc, Nat.mul_comm rem]
    rw [fractionOf, number_cons (digit_lt h), length_fractionOf, ih (Nat.mod_lt _ hpos), hshift,
      scaled_div hpos (10 * rem)]

section Quotient

variable (hden : 0 < den)
include hden

/-- The digits of an expansion denote a quotient rounded down. -/
theorem number_ofQuotient :
    number (ofQuotient num den places).digits = num * 10 ^ places / den := by
  show number (Nat.toDigits 10 (num / den) ++ fractionOf den places (num % den)) = _
  rw [number_append, number_toDigits, length_fractionOf, number_fractionOf (Nat.mod_lt _ hden),
    scaled_div hden num]

/-- A quotient has an expansion without a superfluous zero. -/
theorem proper_ofQuotient : (ofQuotient num den places).Proper := by
  have hwhole : (ofQuotient num den places).whole = Nat.toDigits 10 (num / den) := rfl
  have hfraction : Digital (ofQuotient num den places).fraction :=
    digital_fractionOf (Nat.mod_lt _ hden)
  have hpos : 0 < (Nat.toDigits 10 (num / den)).length := Nat.length_toDigits_pos
  constructor
  case digital => exact Digital.append (Text.isDigit_toDigits _) hfraction
  case length => exact List.length_append
  case plain =>
    rw [digits, number_append_div _ hfraction, hwhole, number_toDigits]
    by_cases hone : (Nat.toDigits 10 (num / den)).length = 1
    · exact .inl hone
    · right
      refine ⟨hpos, Nat.le_of_not_lt fun hlt => ?_⟩
      have hle := (Nat.length_toDigits_le_iff (by decide) (by omega)).mpr hlt
      omega

end Quotient

/-! ## Text -/

/-- The point is written if there are digits behind it. -/
theorem text_eq (e : Expansion) :
    e.text = String.ofList e.whole ++
      if e.fraction.length = 0 then "" else "." ++ String.ofList e.fraction := by
  unfold text
  cases e.fraction with
  | nil => exact String.append_empty.symm
  | cons c rest =>
    show String.ofList (e.whole ++ '.' :: c :: rest) = String.ofList e.whole ++ ("." ++ _)
    rw [String.ofList_append, String.ofList_cons]
    rfl

/-- What a rounded expansion says: the numeral of the whole part, and the digits behind the point,
zeros included. -/
theorem text_rounded (he : e.Proper) (hplaces : places < e.fraction.length)
    (hn : n = ⌊(number e.digits : ℚ) / 10 ^ e.fraction.length * 10 ^ places + 1 / 2⌋₊) :
    ∃ fraction, fraction.length = places ∧ Digital fraction ∧
      number fraction = n % 10 ^ places ∧
      (e.rounded places).text = toString (n / 10 ^ places) ++
        if places = 0 then "" else "." ++ String.ofList fraction := by
  obtain ⟨width, ds, hrounded, hpointed, hnumber⟩ := rounded_eq he hplaces.le
  rw [floor_eq_kept he hplaces, ← hnumber] at hn
  refine ⟨ds.drop width, hpointed.length_drop, hpointed.digital.drop width, ?_, ?_⟩
  · rw [hn]
    exact hpointed.number_drop
  · rw [hrounded, text_eq, split, hpointed.length_drop, hpointed.take_eq, hn]
    rfl

end GuestBridge.Expansion
