import GuestBridge.Json.Printer
import GuestBridge.Proofs.Json.Grammar
/-!
# Printed documents

What is printed with one item a line is a text of the document by the rules of the grammar, so it is
read back. This needs a document that can be printed at all: strings spell a text, and numerals are
whole numbers, since any other numeral is printed as it stands.

## Main statements

* **`Plain.spelled_prettyAt`** — what is printed is a text of the document;
* **`parse?_pretty`** — so it is read back, also with blanks after it.
-/

namespace GuestBridge.Json

/-! ## Strings -/

/-- A unit that is no half of a pair spells a character by itself. -/
theorem spell_unit {n : Nat} (h : n < 0xD800) (pieces : List Piece) :
    spell (.unit n :: pieces) = (spell pieces).map (Char.ofNat n :: ·) := by
  have hhigh : isHighSurrogate n = false := by
    rw [isHighSurrogate, Bool.and_eq_false_iff, decide_eq_false_iff_not]
    exact .inl (by omega)
  have hlow : isLowSurrogate n = false := by
    rw [isLowSurrogate, Bool.and_eq_false_iff, decide_eq_false_iff_not]
    exact .inl (by omega)
  cases pieces with
  | nil => simp only [spell, hhigh, hlow, Bool.or_self, Bool.false_eq_true, if_false]
  | cons piece rest =>
    cases piece <;> simp only [spell, hhigh, hlow, Bool.or_self, Bool.false_eq_true, if_false]

/-- The number of four digits. -/
def unitOf? : List Char → Option Nat
  | [a, b, c, d] => unit? a b c d
  | _ => none

/-- A control character has four digits of its own. -/
theorem unit?_paddedHex {n : Nat} (h : n < 0x20) :
    ∃ a b c d, (Text.paddedHex 4 n).toList = [a, b, c, d] ∧ unit? a b c d = some n := by
  have hall : ∀ n < 0x20, unitOf? (Text.paddedHex 4 n).toList = some n := by decide
  have hn := hall n h
  unfold unitOf? at hn
  split at hn
  · next a b c d hdigits => exact ⟨a, b, c, d, hdigits, hn⟩
  · cases hn

/-- Each character is written as a piece that spells it. -/
theorem spelled_escapeChar (c : Char) :
    ∃ piece : Piece, piece.Spelled (escapeChar c) ∧
      ∀ pieces, spell (piece :: pieces) = (spell pieces).map (c :: ·) := by
  unfold escapeChar
  split
  -- The last rule is for characters without a letter of their own: digits, or the character itself.
  case h_8 hquote hslash _ _ _ _ _ =>
    by_cases hcontrol : c.toNat < 0x20
    · rw [if_pos hcontrol]
      obtain ⟨x, y, z, w, hdigits, hunit⟩ := unit?_paddedHex hcontrol
      refine ⟨.unit c.toNat, ?_, fun pieces => ?_⟩
      · rw [hdigits]
        exact .unit hunit
      · rw [spell_unit (by omega), Char.ofNat_toNat]
    · rw [if_neg hcontrol]
      exact ⟨.char c, .plain (Nat.not_lt.mp hcontrol) hquote hslash, fun _ => rfl⟩
  all_goals exact ⟨.char _, .short (by decide), fun _ => rfl⟩

/-- A quoted text is spelled by its pieces. Induction on its characters. -/
theorem spelled_quoted (s : String) :
    StringSpelled (some s) (s.toList.flatMap escapeChar ++ ['"']) := by
  have hpieces (cs : List Char) : ∃ pieces, List.Forall₂ Piece.Spelled pieces (cs.map escapeChar) ∧
      spell pieces = some cs := by
    induction cs with
    | nil => exact ⟨[], .nil, rfl⟩
    | cons c cs ih =>
      obtain ⟨pieces, hspelled, hspell⟩ := ih
      obtain ⟨piece, hpiece, hspells⟩ := spelled_escapeChar c
      refine ⟨piece :: pieces, .cons hpiece hspelled, ?_⟩
      rw [hspells, hspell]
      rfl
  obtain ⟨pieces, hspelled, hspell⟩ := hpieces s.toList
  refine ⟨pieces, s.toList.map escapeChar, hspelled, ?_, ?_⟩
  · rw [List.flatMap_def]
  · rw [hspell, Option.map_some, String.ofList_toList]

theorem toList_quotedOrEmpty (s : String) :
    (quotedOrEmpty (some s)).toList = '"' :: (s.toList.flatMap escapeChar ++ ['"']) := by
  rw [quotedOrEmpty, Option.getD_some, quoted, String.toList_ofList]

/-! ## Whole numbers -/

/-- The digits of a number have no leading zero, zero itself apart. -/
theorem whole_toDigits (n : Nat) : Whole (Nat.toDigits 10 n) := by
  by_cases h : n = 0
  · subst h
    exact .zero
  · exact .run ⟨Nat.toDigits_ne_nil, Text.isDigit_toDigits n⟩ (Text.head_toDigits h)

/-- An integer is printed as its sign and the digits of its size. -/
theorem toList_toString (n : Int) :
    (toString n).toList = signText (decide (n < 0)) ++ Nat.toDigits 10 n.natAbs := by
  rw [Int.toString_eq_repr, Int.repr_eq_if]
  by_cases h : 0 ≤ n
  · have hsign : decide (n < 0) = false := decide_eq_false (by omega)
    have habs : n.toNat = n.natAbs := by omega
    rw [if_pos h, hsign, Nat.toList_repr, habs]
    rfl
  · have hsign : decide (n < 0) = true := decide_eq_true (by omega)
    have habs : (-n).toNat = n.natAbs := by omega
    rw [if_neg h, hsign, String.toList_append, Nat.toList_repr, habs]
    rfl

/-- A printed integer spells that integer. -/
theorem spelled_int (n : Int) : Spelled (.value (.int n)) (toString n).toList := by
  -- a sign is written for negative numbers only, so none is read as a negative zero
  have hnumeral : numeral (decide (n < 0)) (Nat.toDigits 10 n.natAbs) [] [] = .int n := by
    rw [numeral]
    simp only [Nat.ofDigitChars_ten_toDigits, true_and, decide_eq_true_iff]
    rw [if_pos (by omega)]
    split <;> congr 1 <;> omega
  have hspelled := Spelled.number (decide (n < 0)) (whole_toDigits n.natAbs) .none .none
  rw [hnumeral, List.append_nil, List.append_nil, ← toList_toString] at hspelled
  exact hspelled

/-! ## Lines between brackets -/

/-- Items are printed one by one. -/
theorem prettyItems_eq (level : Nat) (items : List Json) :
    prettyItems level items = items.map (·.prettyAt level) := by
  induction items with
  | nil => rfl
  | cons j rest ih => rw [prettyItems, ih, List.map_cons]

/-- Members are printed one by one, each behind its key. -/
theorem prettyMembers_eq (level : Nat) (members : List (String × Json)) :
    prettyMembers level (members.map fun m => (some m.1, m.2)) =
      members.map fun m => quotedOrEmpty (some m.1) ++ ": " ++ m.2.prettyAt level := by
  induction members with
  | nil => rfl
  | cons m rest ih => rw [List.map_cons, prettyMembers, ih, List.map_cons]

theorem blank_newline (level : Nat) : Blank (newline level).toList := by
  intro c hc
  rw [newline, String.toList_ofList] at hc
  rcases List.mem_cons.mp hc with rfl | hc
  · rfl
  · rw [(List.mem_replicate.mp hc).2]
    rfl

/-- The characters of a block: brackets, and lines with commas between them. -/
theorem toList_block {opening closing : String} {o c : Char} (ho : opening.toList = [o])
    (hc : closing.toList = [c]) (level : Nat) {lines : List String} (h : lines ≠ []) :
    (block opening closing level lines).toList =
      o :: ((newline (level + 1)).toList ++
        (List.intercalate (',' :: (newline (level + 1)).toList) (lines.map String.toList) ++
          ((newline level).toList ++ [c]))) := by
  have hlines : lines.isEmpty = false := List.isEmpty_eq_false_iff.mpr h
  have hcomma : ("," : String).toList = [','] := by decide
  simp only [block, hlines, Bool.false_eq_true, if_false, String.toList_append,
    String.toList_intercalate, ho, hc, hcomma, List.cons_append, List.nil_append,
    List.append_assoc]

theorem toList_block_nil {opening closing : String} {o c : Char} (ho : opening.toList = [o])
    (hc : closing.toList = [c]) (level : Nat) :
    (block opening closing level []).toList = [o, c] := by
  rw [block, List.isEmpty_nil, if_pos rfl, String.toList_append, ho, hc, List.singleton_append]

theorem blank_nil : Blank [] := nofun

theorem intercalate_map_cons {α : Type} (sep : List Char) (text : α → List Char) (a b : α)
    (l : List α) : List.intercalate sep ((a :: b :: l).map text) =
      text a ++ (sep ++ List.intercalate sep ((b :: l).map text)) := by
  rw [List.map_cons, List.map_cons, List.intercalate_cons_cons, ← List.map_cons, List.append_assoc]

/-- Lines with a comma at the end of each but the last are a list of items. -/
theorem spelled_items {before ws : List Char} (hbefore : Blank before) (hws : Blank ws)
    {text : Json → List Char} {j : Json} {items : List Json}
    (h : ∀ i ∈ j :: items, Spelled (.value i) (text i)) :
    Spelled (.items (j :: items))
      (List.intercalate (',' :: before) ((j :: items).map text) ++ (ws ++ [']'])) := by
  have hj : Spelled (.value j) (text j) := h j (List.mem_cons_self ..)
  induction items generalizing j with
  | nil =>
    rw [List.map_singleton, List.intercalate_singleton]
    exact .lastItem hj hws
  | cons next items ih =>
    have hnext : Spelled (.value next) (text next) :=
      h next (List.mem_cons_of_mem _ (List.mem_cons_self ..))
    have hitem := Spelled.item hj blank_nil hbefore
      (ih (fun i hi => h i (List.mem_cons_of_mem _ hi)) hnext)
    rw [intercalate_map_cons, List.append_assoc, List.append_assoc]
    exact hitem

/-- A printed member. -/
def memberText (level : Nat) (key : String) (j : Json) : List Char :=
  '"' :: ((key.toList.flatMap escapeChar ++ ['"']) ++ ':' :: ' ' :: (j.prettyAt level).toList)

theorem toList_member (level : Nat) (key : String) (j : Json) :
    (quotedOrEmpty (some key) ++ ": " ++ j.prettyAt level).toList = memberText level key j := by
  rw [String.toList_append, String.toList_append, toList_quotedOrEmpty, memberText]
  simp only [List.cons_append, List.append_assoc]
  rfl

/-- Lines of printed members are a list of members. Induction as for items. -/
theorem spelled_members {level : Nat} {before ws : List Char} (hbefore : Blank before)
    (hws : Blank ws) {m : String × Json} {members : List (String × Json)}
    (h : ∀ i ∈ m :: members, Spelled (.value i.2) (i.2.prettyAt level).toList) :
    Spelled (.members ((m :: members).map fun i => (some i.1, i.2)))
      (List.intercalate (',' :: before) ((m :: members).map fun i => memberText level i.1 i.2) ++
        (ws ++ ['\x7d'])) := by
  have hspace : Blank [' '] := fun c hc => by
    rw [List.mem_singleton.mp hc]
    rfl
  have hm : Spelled (.value m.2) (m.2.prettyAt level).toList := h m (List.mem_cons_self ..)
  induction members generalizing m with
  | nil =>
    rw [List.map_singleton, List.map_singleton, List.intercalate_singleton, memberText]
    have hlast := Spelled.lastMember (spelled_quoted m.1) blank_nil hspace hm hws
    simpa only [List.nil_append, List.cons_append, List.append_assoc] using hlast
  | cons next members ih =>
    have hnext : Spelled (.value next.2) (next.2.prettyAt level).toList :=
      h next (List.mem_cons_of_mem _ (List.mem_cons_self ..))
    have hrest := ih (fun i hi => h i (List.mem_cons_of_mem _ hi)) hnext
    have hmember := Spelled.member (spelled_quoted m.1) blank_nil hspace hm blank_nil hbefore hrest
    rw [intercalate_map_cons, memberText, List.map_cons]
    simpa only [List.nil_append, List.cons_append, List.append_assoc] using hmember

/-! ## Documents -/

/-- Documents that can be printed: every string spells a text, every numeral is a whole number. -/
inductive Plain : Json → Prop
  | null : Plain .null
  | bool (b : Bool) : Plain (.bool b)
  | int (n : Int) : Plain (.int n)
  | str (text : String) : Plain (.ofString text)
  | arr {items : List Json} (h : ∀ j ∈ items, Plain j) : Plain (.arr items)
  | ofMembers {members : List (String × Json)} (h : ∀ m ∈ members, Plain m.2) :
    Plain (.ofMembers members)

/-- **What is printed is a text of the document.** -/
theorem Plain.spelled_prettyAt {j : Json} (h : Plain j) (level : Nat) :
    Spelled (.value j) (j.prettyAt level).toList := by
  -- Induction on the document; each item and member stands on its line one level deeper.
  induction h generalizing level with
  | null =>
    rw [prettyAt]
    exact .null
  | bool b =>
    rw [prettyAt]
    cases b with
    | true => exact .true
    | false => exact .false
  | int n =>
    rw [prettyAt]
    exact spelled_int n
  | str text =>
    have hstr := Spelled.str (spelled_quoted text)
    rw [← toList_quotedOrEmpty] at hstr
    rw [ofString, prettyAt]
    exact hstr
  | @arr items _ ih =>
    have hopening : ("[" : String).toList = ['['] := by decide
    have hclosing : ("]" : String).toList = [']'] := by decide
    rw [prettyAt, prettyItems_eq]
    cases items with
    | nil =>
      rw [List.map_nil, toList_block_nil hopening hclosing]
      exact .noItems blank_nil
    | cons j items =>
      have hitems := spelled_items (blank_newline (level + 1)) (blank_newline level)
        fun i hi => ih i hi (level + 1)
      have hlines : (j :: items).map (·.prettyAt (level + 1)) ≠ [] := List.cons_ne_nil _ _
      rw [toList_block hopening hclosing level hlines, List.map_map]
      exact .items (blank_newline _) hitems
  | @ofMembers members _ ih =>
    have hopening : ("\x7b" : String).toList = ['\x7b'] := by decide
    have hclosing : ("\x7d" : String).toList = ['\x7d'] := by decide
    show Spelled (.value (.obj (members.map fun m => (some m.1, m.2))))
      (prettyAt level (.obj (members.map fun m => (some m.1, m.2)))).toList
    rw [prettyAt, prettyMembers_eq]
    cases members with
    | nil =>
      rw [List.map_nil, List.map_nil, toList_block_nil hopening hclosing]
      exact .noMembers blank_nil
    | cons m members =>
      have hmembers := spelled_members (blank_newline (level + 1)) (blank_newline level)
        fun i hi => ih i hi (level + 1)
      have hlines : ((m :: members).map fun i =>
          quotedOrEmpty (some i.1) ++ ": " ++ i.2.prettyAt (level + 1)) ≠ [] :=
        List.cons_ne_nil _ _
      have htext (i : String × Json) := toList_member (level + 1) i.1 i.2
      rw [toList_block hopening hclosing level hlines, List.map_map]
      simp only [Function.comp_def, htext]
      exact .members (blank_newline _) hmembers

/-- **A printed document is read back**, also with blanks after it. -/
theorem parse?_pretty {j : Json} (h : Plain j) {after : String} (hafter : Blank after.toList) :
    parse? (j.pretty ++ after) = some j := by
  refine parse?_of_spelled blank_nil (h.spelled_prettyAt 0) hafter ?_
  rw [String.toList_append]
  rfl

end GuestBridge.Json
