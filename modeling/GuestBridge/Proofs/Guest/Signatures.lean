import GuestBridge.Guest.Role
import GuestBridge.Proofs.Text.Runs
/-!
# Types as they are written

The text of a function type lists the names of its parameters and results. The names have no comma
and no parenthesis, so the text gives both lists of names back; it only hides which kind a reference
is of. The types of the entry points have no references, so each is the only type with its text.

## Main statements

* **`FuncType.text_eq_iff`** — equal texts are equal lists of names;
* **`Role.type_of_text`** — the type of an entry point can be told by its text.
-/

namespace GuestBridge

namespace ValueType

/-- The characters in a list of names that follow the first one. -/
def furtherNames (types : List ValueType) : List Char :=
  types.flatMap fun t => ',' :: ' ' :: t.name.toList

/-- The name of a type has none of the characters that end one in a text. -/
theorem name_plain (t : ValueType) : ∀ c ∈ t.name.toList, c ≠ ',' ∧ c ≠ ')' := by
  have hall : t.name.toList.all (fun c => c != ',' && c != ')') = true := by cases t <;> rfl
  intro c hc
  have hplain := List.all_eq_true.mp hall c hc
  rw [Bool.and_eq_true, bne_iff_ne, bne_iff_ne] at hplain
  exact hplain

theorem name_ne_empty (t : ValueType) : t.name.toList ≠ [] := by
  have hlength : 0 < t.name.toList.length := by cases t <;> decide
  exact List.ne_nil_of_length_pos hlength

/-- A name in a list ends at a comma or at the end. -/
theorem head_furtherNames (types : List ValueType) :
    ∀ c ∈ (furtherNames types).head?, (c != ',') = false := by
  intro c hc
  cases types with
  | nil => cases hc
  | cons t rest =>
    cases hc
    rfl

/-- What follows a first name gives the other names back. -/
theorem furtherNames_inj {types types' : List ValueType}
    (h : furtherNames types = furtherNames types') : types.map name = types'.map name := by
  -- Induction on one list of types; the first name of either ends at the next comma.
  induction types generalizing types' with
  | nil =>
    cases types' with
    | nil => rfl
    | cons t rest => cases h
  | cons t rest ih =>
    cases types' with
    | nil => cases h
    | cons t' rest' =>
      have hsame : t.name.toList ++ furtherNames rest = t'.name.toList ++ furtherNames rest' :=
        (List.cons.inj (List.cons.inj h).2).2
      have hplain (t : ValueType) : ∀ c ∈ t.name.toList, (c != ',') = true :=
        fun c hc => bne_iff_ne.mpr (name_plain t c hc).1
      obtain ⟨hname, hrest⟩ := Text.append_inj_of_run (hplain t) (hplain t')
        (head_furtherNames rest) (head_furtherNames rest') hsame
      rw [List.map_cons, List.map_cons, ih hrest, String.toList_inj.mp hname]

/-- The names of types with a comma between. -/
def names (types : List ValueType) : String := ", ".intercalate (types.map name)

/-- A list of names is its first name and what follows. Induction on the rest. -/
theorem toList_names_cons (t : ValueType) (rest : List ValueType) :
    (names (t :: rest)).toList = t.name.toList ++ furtherNames rest := by
  rw [names, String.toList_intercalate]
  induction rest generalizing t with
  | nil => simp [furtherNames]
  | cons t' rest ih =>
    have hcons : ((t :: t' :: rest).map name).map String.toList = t.name.toList ::
        t'.name.toList :: (rest.map name).map String.toList := rfl
    rw [hcons, List.intercalate_cons_cons]
    show t.name.toList ++ [',', ' '] ++
      [',', ' '].intercalate (((t' :: rest).map name).map String.toList) = _
    rw [show [',', ' '] = ", ".toList from rfl, ih t', List.append_assoc]
    rfl

/-- A list of names can be told by its text. -/
theorem names_inj {types types' : List ValueType} (h : names types = names types') :
    types.map name = types'.map name := by
  -- No name is empty, so the text of no names is no other text.
  have hempty (t : ValueType) (rest : List ValueType) : (names (t :: rest)).toList ≠ [] := by
    rw [toList_names_cons]
    exact List.append_ne_nil_of_left_ne_nil (name_ne_empty t) _
  have hlist : (names types).toList = (names types').toList := congrArg String.toList h
  cases types with
  | nil =>
    cases types' with
    | nil => rfl
    | cons t rest => exact absurd hlist.symm (hempty t rest)
  | cons t rest =>
    cases types' with
    | nil => exact absurd hlist (hempty t rest)
    | cons t' rest' =>
      rw [toList_names_cons, toList_names_cons] at hlist
      -- a comma in front makes the first name one of those that follow
      have hall : furtherNames (t :: rest) = furtherNames (t' :: rest') := by
        show ',' :: ' ' :: (t.name.toList ++ furtherNames rest) =
          ',' :: ' ' :: (t'.name.toList ++ furtherNames rest')
        rw [hlist]
      exact furtherNames_inj hall

/-- A list of names ends at a parenthesis. -/
theorem names_plain (types : List ValueType) : ∀ c ∈ (names types).toList, (c != ')') = true := by
  have hplain (t : ValueType) : ∀ c ∈ t.name.toList, (c != ')') = true :=
    fun c hc => bne_iff_ne.mpr (name_plain t c hc).2
  cases types with
  | nil => exact nofun
  | cons t rest =>
    rw [toList_names_cons]
    intro c hc
    rcases List.mem_append.mp hc with hc | hc
    · exact hplain t c hc
    · obtain ⟨t', -, hc⟩ := List.mem_flatMap.mp hc
      rcases List.mem_cons.mp hc with rfl | hc
      · rfl
      · rcases List.mem_cons.mp hc with rfl | hc
        · rfl
        · exact hplain t' c hc

/-- Only the 32-bit integer has its name. -/
theorem name_eq_i32 {t : ValueType} : t.name = i32.name ↔ t = i32 := by
  cases t <;> decide

end ValueType

namespace FuncType

/-- The characters of the text of a type, as they are read from the left. -/
theorem toList_text (t : FuncType) :
    t.text.toList = '(' :: ((ValueType.names t.params).toList ++
      (")".toList ++ (" -> (".toList ++ ((ValueType.names t.results).toList ++ ")".toList)))) := by
  have htext : t.text =
      "(" ++ ValueType.names t.params ++ ") -> (" ++ ValueType.names t.results ++ ")" := rfl
  rw [htext]
  simp

/-- **The text of a type gives the names in it back.** -/
theorem text_eq_iff {t t' : FuncType} :
    t.text = t'.text ↔ t.params.map ValueType.name = t'.params.map ValueType.name ∧
      t.results.map ValueType.name = t'.results.map ValueType.name := by
  constructor
  · intro h
    have hlist : t.text.toList = t'.text.toList := congrArg String.toList h
    rw [toList_text, toList_text] at hlist
    have hclose (rest : List Char) : ∀ c ∈ (")".toList ++ rest).head?, (c != ')') = false := by
      intro c hc
      cases hc
      rfl
    -- the names of the parameters end at the first parenthesis, in both texts
    obtain ⟨hparams, hrest⟩ := Text.append_inj_of_run (ValueType.names_plain _)
      (ValueType.names_plain _) (hclose _) (hclose _) (List.cons.inj hlist).2
    have hresults := List.append_cancel_left (List.append_cancel_left hrest)
    exact ⟨ValueType.names_inj (String.toList_inj.mp hparams),
      ValueType.names_inj (String.toList_inj.mp (List.append_cancel_right hresults))⟩
  · rintro ⟨hparams, hresults⟩
    simp only [text, hparams, hresults]

end FuncType

/-- **The type of an entry point can be told by its text.** -/
theorem Role.type_of_text {role : Role} {t : FuncType} :
    t.text = role.type.text ↔ t = role.type := by
  -- its parameters and results are 32-bit integers
  have hints {types : List ValueType} {n : Nat}
      (h : types.map ValueType.name = (List.replicate n ValueType.i32).map ValueType.name) :
      types = List.replicate n ValueType.i32 := by
    rw [List.map_replicate, List.eq_replicate_iff, List.length_map] at h
    refine List.eq_replicate_iff.mpr ⟨h.1, fun t ht => ?_⟩
    exact ValueType.name_eq_i32.mp (h.2 _ (List.mem_map_of_mem ht))
  have hrole : ∃ params results, role.type =
      ⟨List.replicate params .i32, List.replicate results .i32⟩ := by
    cases role
    case malloc => exact ⟨1, 1, rfl⟩
    case initializer => exact ⟨0, 0, rfl⟩
    case setSource => exact ⟨3, 1, rfl⟩
    case executeOneStep => exact ⟨0, 1, rfl⟩
    case registerFunction => exact ⟨1, 1, rfl⟩
    case setupHeap => exact ⟨2, 0, rfl⟩
  obtain ⟨params, results, hrole⟩ := hrole
  constructor
  · intro h
    obtain ⟨hparams, hresults⟩ := FuncType.text_eq_iff.mp h
    rw [hrole] at hparams hresults ⊢
    rw [← hints hparams, ← hints hresults]
  · exact fun h => congrArg FuncType.text h

end GuestBridge
