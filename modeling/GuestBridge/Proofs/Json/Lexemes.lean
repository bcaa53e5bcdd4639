import Mathlib.Data.List.Forall2
import GuestBridge.Json.Parser
import GuestBridge.Proofs.Text.Runs
/-!
# Blanks, strings and numerals of JSON

The rules for what stands inside a document without brackets: which characters are blank, how the
characters of a string may be written, of which parts a numeral consists. Each rule comes with the
step of the reader that takes such a text, whatever follows it.

## Main statements

* **`string_of_spelled`** — a string is read up to its closing quote;
* **`number_of_parts`** — a numeral is read up to what can follow a value.
-/

namespace GuestBridge.Json

/-! ## Blanks -/

/-- Nothing but blanks. -/
def Blank (cs : List Char) : Prop := ∀ c ∈ cs, isSpace c = true

/-- Blanks in front are skipped. -/
theorem skipSpace_append {ws : List Char} (h : Blank ws) (cs : List Char) :
    skipSpace (ws ++ cs) = skipSpace cs :=
  List.dropWhile_append_of_pos h

theorem skipSpace_cons {c : Char} (h : isSpace c = false) (cs : List Char) :
    skipSpace (c :: cs) = c :: cs := by
  rw [skipSpace, List.dropWhile_cons, h]
  rfl

/-- Blanks end where a solid character stands. -/
theorem skipSpace_append_cons {ws : List Char} (h : Blank ws) {c : Char} (hc : isSpace c = false)
    (cs : List Char) : skipSpace (ws ++ c :: cs) = c :: cs := by
  rw [skipSpace_append h, skipSpace_cons hc]

/-! ## Strings -/

/-- The letters that stand for a character behind a backslash. -/
def shortEscapes : List (Char × Char) :=
  [('"', '"'), ('\\', '\\'), ('/', '/'), ('b', '\x08'), ('f', '\x0c'), ('n', '\n'), ('r', '\r'),
   ('t', '\t')]

/-- How a piece of a string is written: as itself, by a letter behind a backslash, or by the four
digits of its unit. -/
inductive Piece.Spelled : Piece → List Char → Prop
  | plain {c : Char} (hcontrol : 0x20 ≤ c.toNat) (hquote : c ≠ '"') (hslash : c ≠ '\\') :
    Spelled (.char c) [c]
  | short {letter c : Char} (h : (letter, c) ∈ shortEscapes) : Spelled (.char c) ['\\', letter]
  | unit {a b c d : Char} {n : Nat} (h : unit? a b c d = some n) :
    Spelled (.unit n) ['\\', 'u', a, b, c, d]

/-- A string behind its opening quote. -/
def StringSpelled (text : Option String) (cs : List Char) : Prop :=
  ∃ pieces texts, List.Forall₂ Piece.Spelled pieces texts ∧ cs = texts.flatten ++ ['"'] ∧
    text = (spell pieces).map String.ofList

/-- A character that is written as itself is a piece of its own. -/
theorem stringPieces_plain {c : Char} (hcontrol : 0x20 ≤ c.toNat) (hquote : c ≠ '"')
    (hslash : c ≠ '\\') (rest : List Char) (pieces : List Piece) :
    stringPieces (c :: rest) pieces = stringPieces rest (.char c :: pieces) := by
  have hplain : ¬ (c.toNat < 0x20 || c == '\\') = true := by
    rw [Bool.or_eq_true, decide_eq_true_iff, beq_iff_eq]
    exact not_or.mpr ⟨Nat.not_lt.mpr hcontrol, hslash⟩
  rw [stringPieces.eq_def]
  -- of the reader's rules only the last one takes this character
  split
  · next h => exact absurd (List.cons.inj h).1 hquote
  · next h => exact absurd (List.cons.inj h).1 hslash
  · next h => exact absurd (List.cons.inj h).1 hslash
  · next h =>
    obtain ⟨rfl, rfl⟩ := List.cons.inj h
    rw [if_neg hplain]
  · next h => cases h

/-- One piece is read, however it is written. -/
theorem stringPieces_spelled {piece : Piece} {cs : List Char} (h : piece.Spelled cs)
    (rest : List Char) (pieces : List Piece) :
    stringPieces (cs ++ rest) pieces = stringPieces rest (piece :: pieces) := by
  cases h with
  | plain hcontrol hquote hslash => exact stringPieces_plain hcontrol hquote hslash rest pieces
  | short h =>
    simp only [shortEscapes, List.mem_cons, Prod.mk.injEq, List.not_mem_nil, or_false] at h
    -- each letter has a rule of its own
    rcases h with ⟨rfl, rfl⟩ | ⟨rfl, rfl⟩ | ⟨rfl, rfl⟩ | ⟨rfl, rfl⟩ | ⟨rfl, rfl⟩ | ⟨rfl, rfl⟩ |
      ⟨rfl, rfl⟩ | ⟨rfl, rfl⟩ <;> rfl
  | unit h =>
    show stringPieces ('\\' :: 'u' :: _ :: _ :: _ :: _ :: rest) pieces = _
    rw [stringPieces, h]

/-- Pieces are read in order up to the quote. Induction on the pieces. -/
theorem stringPieces_flatten {spelled : List Piece} {texts : List (List Char)}
    (h : List.Forall₂ Piece.Spelled spelled texts) (rest : List Char) (pieces : List Piece) :
    stringPieces (texts.flatten ++ '"' :: rest) pieces =
      some (pieces.reverse ++ spelled, rest) := by
  induction h generalizing pieces with
  | nil =>
    rw [List.append_nil]
    rfl
  | cons hpiece _ ih =>
    rw [List.flatten_cons, List.append_assoc, stringPieces_spelled hpiece, ih, List.reverse_cons,
      List.append_assoc, List.singleton_append]

/-- A string is read up to its quote, whatever stands behind it. -/
theorem string_of_spelled {text : Option String} {cs : List Char} (h : StringSpelled text cs)
    (rest : List Char) : string (cs ++ rest) = some (text, rest) := by
  obtain ⟨pieces, texts, hpieces, rfl, rfl⟩ := h
  rw [string, List.append_assoc, List.singleton_append, stringPieces_flatten hpieces rest []]
  rfl

/-! ## Numerals -/

/-- Digits, one at least. -/
def Digits (ds : List Char) : Prop := ds ≠ [] ∧ ∀ c ∈ ds, c.isDigit = true

/-- A leading zero stands alone. -/
inductive Whole : List Char → Prop
  | zero : Whole ['0']
  | run {ds : List Char} (h : Digits ds) (hhead : ∀ c ∈ ds.head?, c ≠ '0') : Whole ds

/-- A fraction is missing, or a point with digits behind it. -/
inductive Fraction : List Char → Prop
  | none : Fraction []
  | digits {ds : List Char} (h : Digits ds) : Fraction ('.' :: ds)

/-- An exponent is missing, or a mark, perhaps a sign, and digits. -/
inductive Exponent : List Char → Prop
  | none : Exponent []
  | plain {e : Char} {ds : List Char} (he : e = 'e' ∨ e = 'E') (h : Digits ds) : Exponent (e :: ds)
  | signed {e sign : Char} {ds : List Char} (he : e = 'e' ∨ e = 'E')
    (hsign : sign = '+' ∨ sign = '-') (h : Digits ds) : Exponent (e :: sign :: ds)

/-- What may follow a value: a blank, a separator, a closing bracket or nothing. -/
def Ends (rest : List Char) : Prop :=
  ∀ c ∈ rest.head?, isSpace c = true ∨ c = ',' ∨ c = ']' ∨ c = '\x7d'

/-- No character that may go on with a numeral can follow a value. -/
theorem Ends.head {rest : List Char} (h : Ends rest) :
    ∀ c ∈ rest.head?, c.isDigit = false ∧ c ≠ '.' ∧ c ≠ 'e' ∧ c ≠ 'E' := by
  intro c hc
  have hcases := h c hc
  simp only [isSpace, Bool.or_eq_true, beq_iff_eq] at hcases
  rcases hcases with ((((rfl | rfl) | rfl) | rfl) | rfl | rfl | rfl) <;> decide

theorem Ends.blank {ws : List Char} (h : Blank ws) {c : Char}
    (hc : c = ',' ∨ c = ']' ∨ c = '\x7d') (rest : List Char) : Ends (ws ++ c :: rest) := by
  intro d hd
  cases ws with
  | nil =>
    cases hd
    exact .inr hc
  | cons w ws =>
    cases hd
    exact .inl (h _ (List.mem_cons_self ..))

/-- Digits are read up to the first character that is none. -/
theorem digitRun_of_digits {ds rest : List Char} (h : Digits ds)
    (hrest : ∀ c ∈ rest.head?, c.isDigit = false) : digitRun (ds ++ rest) = some (ds, rest) := by
  have hrun : (ds ++ rest).takeWhile Char.isDigit = ds := Text.takeWhile_append_of_run h.2 hrest
  have hne : ds.isEmpty = false := by rw [List.isEmpty_eq_false_iff]; exact h.1
  simp only [digitRun, hrun, hne, List.drop_left, Bool.false_eq_true, if_false]

/-- The digits in front of the point are read as they are written. -/
theorem wholePart_of_whole {ds rest : List Char} (h : Whole ds)
    (hrest : ∀ c ∈ rest.head?, c.isDigit = false) : wholePart (ds ++ rest) = some (ds, rest) := by
  cases h with
  | zero => rfl
  | run h hhead =>
    obtain ⟨c, cs, rfl⟩ := List.exists_cons_of_ne_nil h.1
    have hc : c ≠ '0' := hhead c rfl
    rw [← digitRun_of_digits h hrest, List.cons_append, wholePart.eq_def]
    split
    · next heq => exact absurd (List.cons.inj heq).1 hc
    · rfl

/-- The digits of a whole number denote a number, also when they are a single zero. -/
theorem digits?_of_whole {ds : List Char} (h : Whole ds) :
    Text.digits? ds = some (Nat.ofDigitChars 10 ds 0) := by
  cases h with
  | zero => rfl
  | run h _ => exact Text.digits?_of_isDigit h.1 h.2

/-- A fraction is read where one stands, and nothing where none does. -/
theorem fractionPart_of_fraction {ds rest : List Char} (h : Fraction ds)
    (hrest : ∀ c ∈ rest.head?, c.isDigit = false ∧ c ≠ '.') :
    fractionPart (ds ++ rest) = some (ds, rest) := by
  cases h with
  | none =>
    rw [List.nil_append, fractionPart.eq_def]
    split
    · exact absurd rfl (hrest '.' rfl).2
    · rfl
  | digits h =>
    rw [List.cons_append, fractionPart, digitRun_of_digits h fun c hc => (hrest c hc).1]
    rfl

/-- An exponent is read up to the first character that cannot belong to it. -/
theorem exponentPart_of_exponent {ds rest : List Char} (h : Exponent ds)
    (hrest : ∀ c ∈ rest.head?, c.isDigit = false ∧ c ≠ 'e' ∧ c ≠ 'E') :
    exponentPart (ds ++ rest) = some (ds, rest) := by
  have hdigit : ∀ c ∈ rest.head?, c.isDigit = false := fun c hc => (hrest c hc).1
  cases h with
  | none =>
    rw [List.nil_append]
    -- the reader looks at two characters, of which the second may be a sign
    match rest, hrest with
    | [], _ => rfl
    | [c], hrest =>
      obtain ⟨-, he, hE⟩ := hrest c rfl
      simp only [exponentPart, beq_iff_eq, Bool.or_eq_true, he, hE, or_self, if_false]
    | c :: d :: rest, hrest =>
      obtain ⟨-, he, hE⟩ := hrest c rfl
      simp only [exponentPart, beq_iff_eq, Bool.or_eq_true, he, hE, or_self, if_false]
  | plain he h =>
    rename_i e ds
    obtain ⟨d, ds, rfl⟩ := List.exists_cons_of_ne_nil h.1
    have hd : d.isDigit = true := h.2 d (List.mem_cons_self ..)
    have hmark : (e == 'e' || e == 'E') = true := by
      rw [Bool.or_eq_true, beq_iff_eq, beq_iff_eq]
      exact he
    -- a digit right behind the mark is no sign
    have hsign : ¬ (d == '+' || d == '-') = true := by
      rw [Bool.or_eq_true, beq_iff_eq, beq_iff_eq]
      rintro (rfl | rfl) <;> exact absurd hd (by decide)
    rw [List.cons_append, List.cons_append, exponentPart, if_pos hmark, if_neg hsign,
      ← List.cons_append, digitRun_of_digits h hdigit]
    rfl
  | signed he hsign h =>
    rename_i e sign ds
    have hmark : (e == 'e' || e == 'E') = true := by
      rw [Bool.or_eq_true, beq_iff_eq, beq_iff_eq]
      exact he
    have hsign : (sign == '+' || sign == '-') = true := by
      rw [Bool.or_eq_true, beq_iff_eq, beq_iff_eq]
      exact hsign
    rw [List.cons_append, List.cons_append, exponentPart, if_pos hmark, if_pos hsign,
      digitRun_of_digits h hdigit]
    rfl

/-- How the sign of a numeral is written. -/
def signText (negative : Bool) : List Char := if negative then ['-'] else []

/-- A numeral without fraction and exponent is a whole number, unless it is a negative zero; any
other is kept as written. -/
def numeral (negative : Bool) (whole fraction exponent : List Char) : Json :=
  let n := Nat.ofDigitChars 10 whole 0
  if fraction = [] ∧ exponent = [] ∧ ¬ (negative = true ∧ n = 0) then
    .int (if negative then -(n : Int) else n)
  else .real (String.ofList (signText negative ++ whole ++ fraction ++ exponent))

/-- A numeral is read up to what can follow a value. -/
theorem number_of_parts (negative : Bool) {whole fraction exponent rest : List Char}
    (hwhole : Whole whole) (hfraction : Fraction fraction) (hexponent : Exponent exponent)
    (hrest : Ends rest) :
    number negative (whole ++ (fraction ++ (exponent ++ rest))) =
      some (numeral negative whole fraction exponent, rest) := by
  -- what follows the digits of one part starts the next part or the rest
  have hexponentHead : ∀ c ∈ (exponent ++ rest).head?, c.isDigit = false ∧ c ≠ '.' := by
    intro c hc
    cases hexponent with
    | none => exact ⟨(hrest.head c hc).1, (hrest.head c hc).2.1⟩
    | plain he _ =>
      cases hc
      rcases he with rfl | rfl <;> decide
    | signed he _ _ =>
      cases hc
      rcases he with rfl | rfl <;> decide
  have hfractionHead : ∀ c ∈ (fraction ++ (exponent ++ rest)).head?, c.isDigit = false := by
    intro c hc
    cases hfraction with
    | none => exact (hexponentHead c hc).1
    | digits _ =>
      cases hc
      decide
  have hrestHead : ∀ c ∈ rest.head?, c.isDigit = false ∧ c ≠ 'e' ∧ c ≠ 'E' :=
    fun c hc => ⟨(hrest.head c hc).1, (hrest.head c hc).2.2⟩
  rw [number, wholePart_of_whole hwhole hfractionHead]
  show (fractionPart (fraction ++ (exponent ++ rest)) >>= _) = _
  rw [fractionPart_of_fraction hfraction hexponentHead]
  show (exponentPart (exponent ++ rest) >>= _) = _
  rw [exponentPart_of_exponent hexponent hrestHead]
  show (Text.digits? whole >>= _) = _
  rw [digits?_of_whole hwhole]
  have hsign : (if negative = true then ['-'] else []) = signText negative := rfl
  show (if fraction.isEmpty && exponent.isEmpty &&
      !(negative && Nat.ofDigitChars 10 whole 0 == 0) then _ else _) = _
  rw [hsign, numeral]
  simp only [Bool.and_eq_true, List.isEmpty_iff, Bool.not_eq_true', Bool.and_eq_false_iff,
    beq_eq_false_iff_ne, and_assoc, not_and_or, Bool.not_eq_true, ne_eq]
  split <;> rfl

end GuestBridge.Json
