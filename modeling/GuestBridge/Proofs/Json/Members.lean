import Mathlib.Data.List.Forall2
import GuestBridge.Json.Basic
/-!
# Members of an object by key

What an object gives for a key is the list of its values there (`values`). A record is read from an
object exactly if every key of the object is a text and no field has more than one value
(`fields?_eq_some_iff`), so the order of the members and the members with other keys drop out before
any value is looked at.

## Main statements

* **`fields?_eq_some_iff`** — when the fields of an object are read, and what they are;
* **`Rearranged.gives`** — what is given for a field does not depend on the order of the members, nor
  on those with other keys.
-/

namespace GuestBridge.Json

/-- The values that stand under a key, in order. -/
def values (members : List (Option String × Json)) (key : String) : List Json :=
  (members.filter fun m => m.1 == some key).map (·.2)

/-- A key stands at most once, and then with this value. -/
def Gives (members : List (Option String × Json)) (key : String) (value : Option Json) : Prop :=
  values members key = value.toList

/-- Every key is a text. -/
def Keyed (members : List (Option String × Json)) : Prop := ∀ m ∈ members, m.1.isSome = true

instance (members : List (Option String × Json)) : Decidable (Keyed members) := by
  unfold Keyed
  infer_instance

/-- The value of a name whose members are these; twice is refused. -/
def onlyValue? : List (Option String × Json) → Option (Option Json)
  | [] => some none
  | [m] => some (some m.2)
  | _ => none

variable {members members' before after : List (Option String × Json)} {names : List String}
  {key : String} {value : Json}

theorem values_append (before after : List (Option String × Json)) (key : String) :
    values (before ++ after) key = values before key ++ values after key := by
  rw [values, List.filter_append, List.map_append]
  rfl

theorem values_cons_self (rest : List (Option String × Json)) (key : String) (value : Json) :
    values ((some key, value) :: rest) key = value :: values rest key := by
  rw [values, List.filter_cons, if_pos (beq_self_eq_true _)]
  rfl

theorem values_cons_of_ne {other : String} (h : other ≠ key)
    (rest : List (Option String × Json)) (value : Json) :
    values ((some other, value) :: rest) key = values rest key := by
  have hkey : ¬ (some other == some key) = true := by
    rw [beq_iff_eq, Option.some.injEq]
    exact h
  rw [values, List.filter_cons, if_neg hkey]
  rfl

theorem mem_values_of_mem (h : (some key, value) ∈ members) : value ∈ values members key :=
  List.mem_map.mpr ⟨_, List.mem_filter.mpr ⟨h, beq_self_eq_true _⟩, rfl⟩

/-- A name is given a value by at most one member. -/
theorem onlyValue?_eq_some_iff {found : List (Option String × Json)} {given : Option Json} :
    onlyValue? found = some given ↔ found.map (·.2) = given.toList := by
  rcases found with _ | ⟨m, _ | ⟨m', rest⟩⟩ <;> cases given <;>
    simp [onlyValue?]

/-- All names are given values if each of them is. Induction on the names. -/
theorem mapM_onlyValue?_eq_some_iff {given : List (Option Json)} :
    (names.mapM fun name => onlyValue? (members.filter fun m => m.1 == some name)) = some given ↔
      List.Forall₂ (Gives members) names given := by
  induction names generalizing given with
  | nil =>
    rw [List.mapM_nil, List.forall₂_nil_left_iff]
    exact Option.some_inj.trans eq_comm
  | cons name rest ih =>
    simp only [List.mapM_cons, Option.bind_eq_bind, Option.bind_eq_some_iff, Option.pure_def,
      Option.some.injEq, onlyValue?_eq_some_iff, ih, List.forall₂_cons_left_iff]
    constructor
    · rintro ⟨v, hv, vs, hvs, rfl⟩
      exact ⟨v, vs, hv, hvs, rfl⟩
    · rintro ⟨v, vs, hv, hvs, rfl⟩
      exact ⟨v, hv, vs, hvs, rfl⟩

/-- The fields of an object are read exactly if its keys are texts and none of the names stands
twice. -/
theorem fields?_eq_some_iff {given : List (Option Json)} :
    (obj members).fields? names = some given ↔
      Keyed members ∧ List.Forall₂ (Gives members) names given := by
  -- first the reader refuses an object with a key that is no text
  have hkeyed : (members.any fun m => m.1.isNone) = false ↔ Keyed members := by
    rw [List.any_eq_false]
    refine forall₂_congr fun m _ => ?_
    rw [← Option.not_isSome, Bool.not_eq_true', Bool.not_eq_false]
  rw [← hkeyed, ← mapM_onlyValue?_eq_some_iff]
  show (if (members.any fun m => m.1.isNone) = true then none
    else names.mapM fun name => onlyValue? (members.filter fun m => m.1 == some name)) = _ ↔ _
  cases members.any fun m => m.1.isNone with
  | true => simp only [if_true, reduceCtorEq, false_and]
  | false =>
    rw [if_neg Bool.false_ne_true]
    exact ⟨fun h => ⟨rfl, h⟩, And.right⟩

/-- Each of the names is given a value, or none. -/
theorem exists_gives {given : List (Option Json)} (h : List.Forall₂ (Gives members) names given)
    (hname : key ∈ names) : ∃ value, Gives members key value := by
  induction h with
  | nil => cases hname
  | cons hfirst _ ih =>
    rcases List.mem_cons.mp hname with rfl | hrest
    · exact ⟨_, hfirst⟩
    · exact ih hrest

/-- A field that stands twice is refused, whatever its values. -/
theorem fields?_of_repeated (hname : key ∈ names) (htwice : 2 ≤ (values members key).length) :
    (obj members).fields? names = none := by
  rw [Option.eq_none_iff_forall_ne_some]
  intro given hgiven
  obtain ⟨-, hall⟩ := fields?_eq_some_iff.mp hgiven
  obtain ⟨v, hv⟩ := exists_gives hall hname
  have hlength := congrArg List.length hv
  cases v <;> simp only [Option.toList, List.length_nil, List.length_singleton] at hlength <;> omega

/-! ## Objects whose keys are distinct -/

/-- A key that does not stand in an object has no value there. -/
theorem values_eq_nil {members : List (String × Json)} (h : key ∉ members.map (·.1)) :
    values (members.map fun m => (some m.1, m.2)) key = [] := by
  induction members with
  | nil => rfl
  | cons first rest ih =>
    rw [List.map_cons, List.mem_cons, not_or] at h
    rw [List.map_cons, values_cons_of_ne (Ne.symm h.1)]
    exact ih h.2

/-- Where no key repeats, a key gives the value of its member. -/
theorem gives_of_nodup {members : List (String × Json)} (hnodup : (members.map (·.1)).Nodup)
    {m : String × Json} (hm : m ∈ members) :
    Gives (members.map fun m => (some m.1, m.2)) m.1 (some m.2) := by
  unfold Gives
  induction members with
  | nil => cases hm
  | cons first rest ih =>
    rw [List.map_cons, List.nodup_cons] at hnodup
    rw [List.map_cons]
    rcases List.mem_cons.mp hm with rfl | hrest
    · rw [values_cons_self, values_eq_nil hnodup.1]
      rfl
    · have hother : first.1 ≠ m.1 := fun hsame =>
        hnodup.1 (hsame ▸ List.mem_map_of_mem hrest)
      rw [values_cons_of_ne hother]
      exact ih hnodup.2 hrest

/-- An object gives all its members by name. -/
theorem fields?_ofMembers {members : List (String × Json)}
    (hnodup : (members.map (·.1)).Nodup) :
    (ofMembers members).fields? (members.map (·.1)) = some (members.map fun m => some m.2) := by
  refine fields?_eq_some_iff.mpr ⟨List.forall_mem_map.mpr fun m _ => rfl, ?_⟩
  rw [List.forall₂_map_left_iff, List.forall₂_map_right_iff, List.forall₂_same]
  exact fun m hm => gives_of_nodup hnodup hm

/-! ## Rearranged members -/

/-- The members are moved, or one that has another key than these comes or goes. -/
inductive Rearranged (names : List String) :
    List (Option String × Json) → List (Option String × Json) → Prop
  | moved {members members' : List (Option String × Json)} (h : members.Perm members') :
      Rearranged names members members'
  | added {before after : List (Option String × Json)} {key : String} (unknown : key ∉ names)
      (value : Json) : Rearranged names (before ++ after) (before ++ (some key, value) :: after)
  | removed {before after : List (Option String × Json)} {key : String} (unknown : key ∉ names)
      (value : Json) :
      Rearranged names (before ++ (some key, value) :: after) (before ++ after)

/-- What is given for a field stays. -/
theorem Rearranged.gives (h : Rearranged names members members') (hname : key ∈ names)
    {given : Option Json} (hgiven : Gives members key given) : Gives members' key given := by
  unfold Gives at hgiven ⊢
  cases h with
  | moved hperm =>
    -- at most one value stands there, so its place in the list is no matter
    have hvalues : (values members' key).Perm (values members key) :=
      (hperm.symm.filter _).map _
    rw [hgiven] at hvalues
    cases given with
    | none => exact hvalues.eq_nil
    | some v => exact List.perm_singleton.mp hvalues
  | added unknown value =>
    have hother := ne_of_mem_of_not_mem hname unknown
    rwa [values_append, values_cons_of_ne hother.symm, ← values_append]
  | removed unknown value =>
    have hother := ne_of_mem_of_not_mem hname unknown
    rwa [values_append, values_cons_of_ne hother.symm, ← values_append] at hgiven

/-- A member whose key is a text makes no difference to the others. -/
theorem keyed_insert_iff :
    Keyed (before ++ (some key, value) :: after) ↔ Keyed (before ++ after) := by
  simp only [Keyed, List.forall_mem_append, List.forall_mem_cons, Option.isSome_some, true_and]

/-- Keys that are texts stay texts. -/
theorem Rearranged.keyed (h : Rearranged names members members') (hkeyed : Keyed members) :
    Keyed members' := by
  cases h with
  | moved hperm => exact fun m hm => hkeyed m (hperm.mem_iff.mpr hm)
  | added _ value => exact keyed_insert_iff.mpr hkeyed
  | removed _ value => exact keyed_insert_iff.mp hkeyed

/-- Another value under a key does not matter to the other keys. -/
theorem Gives.replaced {other : String} {v : Json} {given : Option Json} (h : other ≠ key)
    (hgiven : Gives (before ++ (some other, v) :: after) key given) (v' : Json) :
    Gives (before ++ (some other, v') :: after) key given := by
  unfold Gives at hgiven ⊢
  rwa [values_append, values_cons_of_ne h] at hgiven ⊢

/-- Under a key that stands once any value may stand. -/
theorem Gives.replace_self {v : Json} {given : Option Json}
    (hgiven : Gives (before ++ (some key, v) :: after) key given) :
    given = some v ∧ ∀ v', Gives (before ++ (some key, v') :: after) key (some v') := by
  unfold Gives at hgiven ⊢
  rw [values_append, values_cons_self] at hgiven
  cases given with
  | none => exact absurd hgiven (List.append_ne_nil_of_right_ne_nil _ (List.cons_ne_nil _ _))
  | some w =>
    -- the value is the only one under its key, so nothing stands there on either side
    obtain ⟨hbefore, hrest⟩ | ⟨-, hrest⟩ := List.append_eq_singleton_iff.mp hgiven
    · obtain ⟨rfl, hafter⟩ := List.cons_eq_cons.mp hrest
      refine ⟨rfl, fun v' => ?_⟩
      rw [values_append, values_cons_self, hbefore, hafter]
      rfl
    · cases hrest

end GuestBridge.Json
