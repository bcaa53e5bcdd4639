import GuestBridge.Proofs.Json.Lexemes
/-!
# The texts of JSON documents

`Spelled` relates documents to their texts by the rules of JSON. The rules say nothing of fuel or of
what is left over. Main statement: every text of a document is read back as that document
(`parse?_of_spelled`).

Lists of items and of members have texts of their own, which end with the closing bracket. So that
one induction does for all three, they are the parts of one relation.
-/

namespace GuestBridge.Json

/-! ## Documents -/

/-- What the rules spell: a document, or what stands in one behind an opening bracket. -/
inductive Part
  | value (j : Json)
  /-- Items up to the bracket that closes the array. -/
  | items (items : List Json)
  /-- Members up to the brace that closes the object. -/
  | members (members : List (Option String × Json))

/-- The rules of JSON. Blanks stand where they may, and the rest is taken as it is written. -/
inductive Spelled : Part → List Char → Prop
  | null : Spelled (.value .null) ['n', 'u', 'l', 'l']
  | true : Spelled (.value (.bool true)) ['t', 'r', 'u', 'e']
  | false : Spelled (.value (.bool false)) ['f', 'a', 'l', 's', 'e']
  | number (negative : Bool) {whole fraction exponent : List Char} (hwhole : Whole whole)
    (hfraction : Fraction fraction) (hexponent : Exponent exponent) :
    Spelled (.value (numeral negative whole fraction exponent))
      (signText negative ++ (whole ++ (fraction ++ exponent)))
  | str {text : Option String} {cs : List Char} (h : StringSpelled text cs) :
    Spelled (.value (.str text)) ('"' :: cs)
  | noItems {ws : List Char} (hws : Blank ws) : Spelled (.value (.arr [])) ('[' :: (ws ++ [']']))
  | items {ws cs : List Char} {items : List Json} (hws : Blank ws)
    (hitems : Spelled (.items items) cs) : Spelled (.value (.arr items)) ('[' :: (ws ++ cs))
  | noMembers {ws : List Char} (hws : Blank ws) :
    Spelled (.value (.obj [])) ('\x7b' :: (ws ++ ['\x7d']))
  | members {ws cs : List Char} {members : List (Option String × Json)} (hws : Blank ws)
    (hmembers : Spelled (.members members) cs) :
    Spelled (.value (.obj members)) ('\x7b' :: (ws ++ cs))
  | lastItem {j : Json} {cs ws : List Char} (hj : Spelled (.value j) cs) (hws : Blank ws) :
    Spelled (.items [j]) (cs ++ (ws ++ [']']))
  | item {j : Json} {items : List Json} {cs ws ws' rest : List Char} (hj : Spelled (.value j) cs)
    (hws : Blank ws) (hws' : Blank ws') (hrest : Spelled (.items items) rest) :
    Spelled (.items (j :: items)) (cs ++ (ws ++ ',' :: (ws' ++ rest)))
  | lastMember {key : Option String} {j : Json} {kcs cs before after ws : List Char}
    (hkey : StringSpelled key kcs) (hbefore : Blank before) (hafter : Blank after)
    (hj : Spelled (.value j) cs) (hws : Blank ws) :
    Spelled (.members [(key, j)])
      ('"' :: (kcs ++ (before ++ ':' :: (after ++ (cs ++ (ws ++ ['\x7d']))))))
  | member {key : Option String} {j : Json} {members : List (Option String × Json)}
    {kcs cs before after ws ws' rest : List Char}
    (hkey : StringSpelled key kcs) (hbefore : Blank before) (hafter : Blank after)
    (hj : Spelled (.value j) cs) (hws : Blank ws) (hws' : Blank ws')
    (hrest : Spelled (.members members) rest) :
    Spelled (.members ((key, j) :: members))
      ('"' :: (kcs ++ (before ++ ':' :: (after ++ (cs ++ (ws ++ ',' :: (ws' ++ rest)))))))

/-- A character that a value, or a list of items or members, can start with. -/
def Opens (c : Char) : Prop := isSpace c = false ∧ c ≠ ']' ∧ c ≠ '\x7d'

theorem opens_of_isDigit {c : Char} (h : c.isDigit = true) : Opens c := by
  refine ⟨?_, ?_, ?_⟩
  · cases hspace : isSpace c with
    | false => rfl
    | true =>
      simp only [isSpace, Bool.or_eq_true, beq_iff_eq] at hspace
      rcases hspace with ((rfl | rfl) | rfl) | rfl <;> exact absurd h (by decide)
  · rintro rfl
    exact absurd h (by decide)
  · rintro rfl
    exact absurd h (by decide)

/-- The digits of a whole number start with one. -/
theorem Whole.head {ds : List Char} (h : Whole ds) :
    ∃ c tail, ds = c :: tail ∧ c.isDigit = true := by
  cases h with
  | zero => exact ⟨'0', [], rfl, by decide⟩
  | run h _ =>
    obtain ⟨c, tail, rfl⟩ := List.exists_cons_of_ne_nil h.1
    exact ⟨c, tail, rfl, h.2 c (List.mem_cons_self ..)⟩

/-- Every part starts with a character that is no blank and closes nothing. By cases on the rules; a
list starts as its first item does. -/
theorem Spelled.opens {part : Part} {cs : List Char} (h : Spelled part cs) :
    ∃ c tail, cs = c :: tail ∧ Opens c := by
  induction h with
  | number negative hwhole _ _ =>
    obtain ⟨c, tail, rfl, hc⟩ := hwhole.head
    cases negative with
    | true => exact ⟨'-', _, rfl, by decide, by decide, by decide⟩
    | false => exact ⟨c, _, rfl, opens_of_isDigit hc⟩
  | lastItem _ _ ih =>
    obtain ⟨c, tail, rfl, hc⟩ := ih
    exact ⟨c, _, rfl, hc⟩
  | item _ _ _ _ ih _ =>
    obtain ⟨c, tail, rfl, hc⟩ := ih
    exact ⟨c, _, rfl, hc⟩
  | _ => exact ⟨_, _, rfl, by decide, by decide, by decide⟩

/-- No part is empty, so reading one takes some fuel. -/
theorem Spelled.ne_nil {part : Part} {cs : List Char} (h : Spelled part cs) : cs ≠ [] := by
  obtain ⟨c, tail, rfl, -⟩ := h.opens
  exact List.cons_ne_nil c tail

/-! ## Reading -/

variable {fuel : Nat} {c : Char} {cs ws rest : List Char}

/-- Blanks in front of a value are skipped. -/
theorem value_append (hws : Blank ws) (cs : List Char) : value fuel (ws ++ cs) = value fuel cs := by
  cases fuel with
  | zero => rfl
  | succ fuel => rw [value, value, skipSpace_append hws]

theorem elements_append (hws : Blank ws) (cs : List Char) (done : List Json) :
    elements fuel (ws ++ cs) done = elements fuel cs done := by
  cases fuel with
  | zero => rfl
  | succ fuel => rw [elements, elements, value_append hws]

theorem members_append (hws : Blank ws) (cs : List Char) (done : List (Option String × Json)) :
    members fuel (ws ++ cs) done = members fuel cs done := by
  cases fuel with
  | zero => rfl
  | succ fuel => rw [members, members, skipSpace_append hws]

/-- What is read behind the bracket or the brace that opens a value, blanks skipped. -/
def inArray (fuel : Nat) : List Char → Option (Json × List Char)
  | ']' :: rest => some (.arr [], rest)
  | rest => elements fuel rest []

def inObject (fuel : Nat) : List Char → Option (Json × List Char)
  | '\x7d' :: rest => some (.obj [], rest)
  | rest => members fuel rest []

/-- What is read behind an item or a member, blanks skipped. -/
def afterItem (fuel : Nat) (done : List Json) : List Char → Option (Json × List Char)
  | ',' :: rest => elements fuel rest done
  | ']' :: rest => some (.arr done.reverse, rest)
  | _ => none

def afterMember (fuel : Nat) (done : List (Option String × Json)) :
    List Char → Option (Json × List Char)
  | ',' :: rest => members fuel rest done
  | '\x7d' :: rest => some (.obj done.reverse, rest)
  | _ => none

theorem value_bracket (fuel : Nat) (cs : List Char) :
    value (fuel + 1) ('[' :: cs) = inArray fuel (skipSpace cs) := by
  rw [value, skipSpace_cons (by decide)]
  rfl

theorem value_brace (fuel : Nat) (cs : List Char) :
    value (fuel + 1) ('\x7b' :: cs) = inObject fuel (skipSpace cs) := by
  rw [value, skipSpace_cons (by decide)]
  rfl

/-- An array that does not close at once is read by its items. -/
theorem value_array (hws : Blank ws) (hc : Opens c) :
    value (fuel + 1) ('[' :: (ws ++ c :: cs)) = elements fuel (c :: cs) [] := by
  rw [value_bracket, skipSpace_append_cons hws hc.1]
  unfold inArray
  split
  · next h => exact absurd (List.cons.inj h).1 hc.2.1
  · rfl

/-- An object that does not close at once is read by its members. -/
theorem value_object (hws : Blank ws) (hc : Opens c) :
    value (fuel + 1) ('\x7b' :: (ws ++ c :: cs)) = members fuel (c :: cs) [] := by
  rw [value_brace, skipSpace_append_cons hws hc.1]
  unfold inObject
  split
  · next h => exact absurd (List.cons.inj h).1 hc.2.2
  · rfl

/-- A value that starts with a digit is a numeral. -/
theorem value_of_isDigit (h : c.isDigit = true) :
    value (fuel + 1) (c :: cs) = number false (c :: cs) := by
  have hne {d : Char} (hd : d.isDigit = false) : c ≠ d := by
    rintro rfl
    rw [h] at hd
    cases hd
  rw [value, skipSpace_cons (opens_of_isDigit h).1]
  -- none of the characters that start another value is a digit
  split
  · next heq => exact absurd (List.cons.inj heq).1 (hne (by decide))
  · next heq => exact absurd (List.cons.inj heq).1 (hne (by decide))
  · next heq => exact absurd (List.cons.inj heq).1 (hne (by decide))
  · next heq => exact absurd (List.cons.inj heq).1 (hne (by decide))
  · next heq => exact absurd (List.cons.inj heq).1 (hne (by decide))
  · next heq => exact absurd (List.cons.inj heq).1 (hne (by decide))
  · next heq => exact absurd (List.cons.inj heq).1 (hne (by decide))
  · rfl

/-- Once an item is read, what follows it decides. -/
theorem elements_of_value {done : List Json} {j : Json} {tail : List Char}
    (h : value fuel cs = some (j, tail)) :
    elements (fuel + 1) cs done = afterItem fuel (j :: done) (skipSpace tail) := by
  rewrite [elements, h]
  rfl

/-- Behind the last item the array is closed. -/
theorem elements_last {done : List Json} {j : Json} (hws : Blank ws)
    (h : value fuel cs = some (j, ws ++ ']' :: rest)) :
    elements (fuel + 1) cs done = some (.arr (done.reverse ++ [j]), rest) := by
  rw [elements_of_value h, skipSpace_append_cons hws (by decide)]
  show some (Json.arr (j :: done).reverse, rest) = _
  rw [List.reverse_cons]

/-- Behind another item the reader goes on with the next one. -/
theorem elements_item {done : List Json} {j : Json} (hws : Blank ws)
    (h : value fuel cs = some (j, ws ++ ',' :: rest)) :
    elements (fuel + 1) cs done = elements fuel rest (j :: done) := by
  rw [elements_of_value h, skipSpace_append_cons hws (by decide)]
  rfl

/-- A key, the colon and a value. -/
theorem members_key {done : List (Option String × Json)} {key : Option String} {j : Json}
    {kcs before after tail : List Char} (hkey : StringSpelled key kcs) (hbefore : Blank before)
    (hafter : Blank after) (h : value fuel cs = some (j, tail)) :
    members (fuel + 1) ('"' :: (kcs ++ (before ++ ':' :: (after ++ cs)))) done =
      afterMember fuel ((key, j) :: done) (skipSpace tail) := by
  rw [members, skipSpace_cons (by decide)]
  simp only [string_of_spelled hkey, skipSpace_append_cons hbefore (by decide : isSpace ':' = false)]
  rewrite [value_append hafter, h]
  rfl

/-- How a part is read in front of any rest, with fuel for each of its characters. -/
def Reads : Part → List Char → Prop
  | .value j, cs => ∀ (fuel : Nat) (rest : List Char), cs.length ≤ fuel → Ends rest →
    value fuel (cs ++ rest) = some (j, rest)
  | .items items, cs => ∀ (fuel : Nat) (rest : List Char) (done : List Json), cs.length ≤ fuel →
    elements fuel (cs ++ rest) done = some (.arr (done.reverse ++ items), rest)
  | .members ms, cs => ∀ (fuel : Nat) (rest : List Char) (done : List (Option String × Json)),
    cs.length ≤ fuel → Json.members fuel (cs ++ rest) done = some (.obj (done.reverse ++ ms), rest)

/-- It is enough to read a value with fuel for one character at least. -/
theorem reads_value {j : Json} (hne : cs ≠ [])
    (h : ∀ (fuel : Nat) (rest : List Char), cs.length ≤ fuel + 1 → Ends rest →
      value (fuel + 1) (cs ++ rest) = some (j, rest)) : Reads (.value j) cs := by
  intro fuel rest hlength hends
  cases fuel with
  | zero => exact absurd (List.length_eq_zero_iff.mp (Nat.le_zero.mp hlength)) hne
  | succ fuel => exact h fuel rest hlength hends

theorem reads_items {items : List Json} (hne : cs ≠ [])
    (h : ∀ (fuel : Nat) (rest : List Char) (done : List Json), cs.length ≤ fuel + 1 →
      elements (fuel + 1) (cs ++ rest) done = some (.arr (done.reverse ++ items), rest)) :
    Reads (.items items) cs := by
  intro fuel rest done hlength
  cases fuel with
  | zero => exact absurd (List.length_eq_zero_iff.mp (Nat.le_zero.mp hlength)) hne
  | succ fuel => exact h fuel rest done hlength

theorem reads_members {ms : List (Option String × Json)} (hne : cs ≠ [])
    (h : ∀ (fuel : Nat) (rest : List Char) (done : List (Option String × Json)),
      cs.length ≤ fuel + 1 →
      Json.members (fuel + 1) (cs ++ rest) done = some (.obj (done.reverse ++ ms), rest)) :
    Reads (.members ms) cs := by
  intro fuel rest done hlength
  cases fuel with
  | zero => exact absurd (List.length_eq_zero_iff.mp (Nat.le_zero.mp hlength)) hne
  | succ fuel => exact h fuel rest done hlength

/-- A numeral is read as a value. Its sign, if it has one, decides how the reader comes to it. -/
theorem reads_number (negative : Bool) {whole fraction exponent : List Char} (hwhole : Whole whole)
    (hfraction : Fraction fraction) (hexponent : Exponent exponent) :
    Reads (.value (numeral negative whole fraction exponent))
      (signText negative ++ (whole ++ (fraction ++ exponent))) := by
  obtain ⟨c, tail, hcons, hc⟩ := hwhole.head
  refine reads_value ?_ fun fuel rest _ hends => ?_
  · rw [hcons, List.cons_append]
    exact List.append_ne_nil_of_right_ne_nil _ (List.cons_ne_nil _ _)
  · have hnumber := number_of_parts negative hwhole hfraction hexponent hends
    rw [List.append_assoc, List.append_assoc, List.append_assoc, ← hnumber]
    cases negative with
    | true =>
      show value (fuel + 1) ('-' :: _) = _
      rw [value, skipSpace_cons (by decide)]
      rfl
    | false =>
      show value (fuel + 1) (whole ++ _) = _
      rw [hcons, List.cons_append, value_of_isDigit hc]

/-- **Every text of a part is read as that part.** -/
theorem Spelled.reads {part : Part} {cs : List Char} (h : Spelled part cs) : Reads part cs := by
  -- Induction on the rules; a part inside another is shorter, so its fuel is enough.
  induction h with
  | null => exact reads_value (List.cons_ne_nil _ _) fun _ _ _ _ => rfl
  | true => exact reads_value (List.cons_ne_nil _ _) fun _ _ _ _ => rfl
  | false => exact reads_value (List.cons_ne_nil _ _) fun _ _ _ _ => rfl
  | number negative hwhole hfraction hexponent =>
    exact reads_number negative hwhole hfraction hexponent
  | str hstring =>
    refine reads_value (List.cons_ne_nil _ _) fun fuel rest _ _ => ?_
    rw [List.cons_append, value, skipSpace_cons (by decide)]
    show (string _ >>= _) = _
    rw [string_of_spelled hstring]
    rfl
  | noItems hws =>
    refine reads_value (List.cons_ne_nil _ _) fun fuel rest _ _ => ?_
    rw [List.cons_append, List.append_assoc, value_bracket]
    show inArray fuel (skipSpace (_ ++ ']' :: rest)) = _
    rw [skipSpace_append_cons hws (by decide)]
    rfl
  | items hws hitems ih =>
    obtain ⟨c, tail, rfl, hc⟩ := hitems.opens
    refine reads_value (List.cons_ne_nil _ _) fun fuel rest hlength _ => ?_
    rw [List.length_cons, List.length_append] at hlength
    rw [List.cons_append, List.append_assoc, List.cons_append, value_array hws hc]
    exact ih fuel rest [] (by omega)
  | noMembers hws =>
    refine reads_value (List.cons_ne_nil _ _) fun fuel rest _ _ => ?_
    rw [List.cons_append, List.append_assoc, value_brace]
    show inObject fuel (skipSpace (_ ++ '\x7d' :: rest)) = _
    rw [skipSpace_append_cons hws (by decide)]
    rfl
  | members hws hmembers ih =>
    obtain ⟨c, tail, rfl, hc⟩ := hmembers.opens
    refine reads_value (List.cons_ne_nil _ _) fun fuel rest hlength _ => ?_
    rw [List.length_cons, List.length_append] at hlength
    rw [List.cons_append, List.append_assoc, List.cons_append, value_object hws hc]
    exact ih fuel rest [] (by omega)
  | lastItem hj hws ih =>
    refine reads_items (List.append_ne_nil_of_left_ne_nil hj.ne_nil _) fun fuel rest done hlength => ?_
    simp only [List.length_append, List.length_singleton] at hlength
    have hvalue := ih fuel _ (by omega) (Ends.blank hws (.inr (.inl rfl)) rest)
    rw [List.append_assoc, List.append_assoc]
    exact elements_last hws hvalue
  | item hj hws hws' _ ihj ihrest =>
    refine reads_items (List.append_ne_nil_of_left_ne_nil hj.ne_nil _)
      fun fuel rest done hlength => ?_
    simp only [List.length_append, List.length_cons] at hlength
    -- behind the item stand blanks and a comma, where a numeral would end too
    have hvalue (next : List Char) := ihj fuel _ (by omega) (Ends.blank hws (.inl rfl) next)
    rw [List.append_assoc, List.append_assoc, List.cons_append, elements_item hws (hvalue _),
      List.append_assoc, elements_append hws', ihrest fuel rest _ (by omega), List.reverse_cons,
      List.append_assoc, List.singleton_append]
  | lastMember hkey hbefore hafter hj hws ih =>
    refine reads_members (List.cons_ne_nil _ _) fun fuel rest done hlength => ?_
    simp only [List.length_append, List.length_cons] at hlength
    have hvalue := ih fuel _ (by omega) (Ends.blank hws (.inr (.inr rfl)) rest)
    simp only [List.cons_append, List.append_assoc, List.nil_append]
    rw [members_key hkey hbefore hafter hvalue, skipSpace_append_cons hws (by decide)]
    show some (Json.obj (_ :: done).reverse, rest) = _
    rw [List.reverse_cons]
  | member hkey hbefore hafter hj hws hws' _ ihj ihrest =>
    refine reads_members (List.cons_ne_nil _ _) fun fuel rest done hlength => ?_
    simp only [List.length_append, List.length_cons] at hlength
    have hvalue (next : List Char) := ihj fuel _ (by omega) (Ends.blank hws (.inl rfl) next)
    simp only [List.cons_append, List.append_assoc]
    rw [members_key hkey hbefore hafter (hvalue _), skipSpace_append_cons hws (by decide)]
    show Json.members fuel _ _ = _
    rw [members_append hws', ihrest fuel rest _ (by omega), List.reverse_cons, List.append_assoc,
      List.singleton_append]

/-- **Every text of a document is read back**, also with blanks around it. -/
theorem parse?_of_spelled {j : Json} {before cs after : List Char} {text : String}
    (hbefore : Blank before) (hj : Spelled (.value j) cs) (hafter : Blank after)
    (htext : text.toList = before ++ (cs ++ after)) : parse? text = some j := by
  -- only blanks follow the document, and they are skipped at the end
  have hends : Ends after := by
    intro c hc
    exact .inl (hafter c (List.mem_of_mem_head? hc))
  have hlength : cs.length ≤ text.toList.length + 1 := by
    rw [htext, List.length_append, List.length_append]
    omega
  have hvalue : value (text.toList.length + 1) (before ++ (cs ++ after)) = some (j, after) := by
    rw [value_append hbefore]
    exact hj.reads _ after hlength hends
  have hblank : skipSpace after = [] := by
    rw [← List.append_nil after, skipSpace_append hafter]
    rfl
  rw [parse?]
  simp only [← htext] at hvalue
  simp only [hvalue, hblank]
  rfl

end GuestBridge.Json
