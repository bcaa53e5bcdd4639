import Mathlib.Logic.Relation
import GuestBridge.Proofs.Settings.Printing
/-!
# Settings override what is given

A settings document names the fields that differ from the defaults, in any order, among whatever
else it holds. A field is read exactly if it stands at most once (`Json.fields?_eq_some_iff`), so the
order of the members and the members with other keys drop out, in the object itself and once more in
the names of the entry points inside it.

`Overrides` is a settings record in which every field may be missing. It is what a document says;
the defaults fill it up, and only the result is checked.

## Main statements

* **`Overrides.DescribedBy.rearranged`** — what a document says does not depend on the order of its
  members, nor on members that are no fields;
* **`settings_override_given_fields`** — the settings that a document gives, for all of its texts.
-/

namespace GuestBridge

namespace Json

/-- A text of a document, with blanks around it. -/
def Written (j : Json) (text : String) : Prop :=
  ∃ before cs after, Blank before ∧ Spelled (.value j) cs ∧ Blank after ∧
    text.toList = before ++ (cs ++ after)

/-- Every text of a document is parsed as it. -/
theorem Written.parse?_eq {j : Json} {text : String} (h : j.Written text) :
    parse? text = some j := by
  obtain ⟨before, cs, after, hbefore, hj, hafter, htext⟩ := h
  exact parse?_of_spelled hbefore hj hafter htext

/-- What is printed is a text of the document. -/
theorem Plain.written_pretty {j : Json} (h : Plain j) : j.Written j.pretty := by
  refine ⟨[], _, [], blank_nil, h.spelled_prettyAt 0, blank_nil, ?_⟩
  rw [List.append_nil, List.nil_append]
  rfl

end Json

/-! ## What a document says -/

/-- The names of entry points that a document gives. -/
structure ExportOverrides where
  malloc : Option String
  initializer : Option String
  setSource : Option String
  executeOneStep : Option String
  registerFunction : Option String
  /-- Giving no name is not the same as leaving the field out. -/
  setupHeap : Option (Option String)
  heapBase : Option String
  deriving DecidableEq, Repr

/-- The fields that a document gives. -/
structure Overrides where
  heapPages : Option UInt32
  stepsPerBatch : Option UInt64
  frameIntervalMs : Option UInt64
  banner : Option (Option String)
  exports : Option ExportOverrides
  deriving DecidableEq, Repr

/-- The default names, except for those that are given. -/
def ExportOverrides.names (e : ExportOverrides) : ExportNames :=
  let base := ExportNames.default
  { malloc := e.malloc.getD base.malloc
    initializer := e.initializer.getD base.initializer
    setSource := e.setSource.getD base.setSource
    executeOneStep := e.executeOneStep.getD base.executeOneStep
    registerFunction := e.registerFunction.getD base.registerFunction
    setupHeap := e.setupHeap.getD base.setupHeap
    heapBase := e.heapBase.getD base.heapBase }

/-- The default settings, except for the fields that are given. -/
def Overrides.settings (o : Overrides) : Settings where
  heapPages := o.heapPages.getD Settings.default.heapPages
  stepsPerBatch := o.stepsPerBatch.getD Settings.default.stepsPerBatch
  frameIntervalMs := o.frameIntervalMs.getD Settings.default.frameIntervalMs
  banner := o.banner.getD Settings.default.banner
  exports := (o.exports.map ExportOverrides.names).getD Settings.default.exports

/-- The members of an object give these names, and whatever else. -/
structure ExportOverrides.DescribedBy (e : ExportOverrides)
    (members : List (Option String × Json)) : Prop where
  keyed : Json.Keyed members
  malloc : Json.Gives members "malloc" (e.malloc.map .ofString)
  initializer : Json.Gives members "initialize" (e.initializer.map .ofString)
  setSource : Json.Gives members "set_source" (e.setSource.map .ofString)
  executeOneStep : Json.Gives members "execute_one_step" (e.executeOneStep.map .ofString)
  registerFunction : Json.Gives members "register_function" (e.registerFunction.map .ofString)
  setupHeap : Json.Gives members "setup_heap" (e.setupHeap.map Settings.ofTextOrNone)
  heapBase : Json.Gives members "heap_base" (e.heapBase.map .ofString)

/-- The members of an object give these fields, and whatever else. -/
structure Overrides.DescribedBy (o : Overrides) (members : List (Option String × Json)) : Prop where
  keyed : Json.Keyed members
  heapPages : Json.Gives members "heap_pages" (o.heapPages.map fun n => .ofNat n.toNat)
  stepsPerBatch : Json.Gives members "steps_per_batch" (o.stepsPerBatch.map fun n => .ofNat n.toNat)
  frameIntervalMs :
    Json.Gives members "frame_interval_ms" (o.frameIntervalMs.map fun n => .ofNat n.toNat)
  banner : Json.Gives members "banner" (o.banner.map Settings.ofTextOrNone)
  exports : ∃ given, Json.Gives members "exports" given ∧
    Option.Rel (fun e j => ∃ inner, j = .obj inner ∧ e.DescribedBy inner) o.exports given

namespace Settings

/-! ## Reading -/

/-- A field is read as it is given, or is left at its default. -/
theorem field_map {α : Type} {read : Json → Option α} {document : α → Json}
    (hread : ∀ a, read (document a) = some a) (given : Option α) (default : α) :
    field read (given.map document) default = some (given.getD default) := by
  cases given with
  | none => rfl
  | some a => exact field_given (hread a) default

/-- Names of entry points are read as the members give them. -/
theorem readExports_of_describedBy {e : ExportOverrides} {members : List (Option String × Json)}
    (h : e.DescribedBy members) : readExports (.obj members) = some e.names := by
  have hfields : (Json.obj members).fields? exportKeys = some [e.malloc.map .ofString,
      e.initializer.map .ofString, e.setSource.map .ofString, e.executeOneStep.map .ofString,
      e.registerFunction.map .ofString, e.setupHeap.map ofTextOrNone, e.heapBase.map .ofString] :=
    Json.fields?_eq_some_iff.mpr ⟨h.keyed, .cons h.malloc (.cons h.initializer (.cons h.setSource
      (.cons h.executeOneStep (.cons h.registerFunction (.cons h.setupHeap
        (.cons h.heapBase .nil))))))⟩
  have htext (given : Option String) (default : String) :
      field Json.text? (given.map .ofString) default = some (given.getD default) :=
    field_map (fun text : String => (rfl : (Json.ofString text).text? = some text)) given default
  exact readExports_of_fields hfields (htext _ _) (htext _ _) (htext _ _) (htext _ _) (htext _ _)
    (field_map textOrNull?_ofTextOrNone _ _) (htext _ _)

/-- Settings are read as the members give them, and from the defaults otherwise. -/
theorem read_of_describedBy {o : Overrides} {members : List (Option String × Json)}
    (h : o.DescribedBy members) : read (.obj members) = some o.settings := by
  obtain ⟨given, hgiven, hexports⟩ := h.exports
  have hfields : (Json.obj members).fields? keys = some [o.heapPages.map fun n => .ofNat n.toNat,
      o.stepsPerBatch.map fun n => .ofNat n.toNat, o.frameIntervalMs.map fun n => .ofNat n.toNat,
      o.banner.map ofTextOrNone, given] :=
    Json.fields?_eq_some_iff.mpr ⟨h.keyed, .cons h.heapPages (.cons h.stepsPerBatch
      (.cons h.frameIntervalMs (.cons h.banner (.cons hgiven .nil))))⟩
  have hnames : field readExports given default.exports =
      some ((o.exports.map ExportOverrides.names).getD default.exports) := by
    -- The names of entry points are an object of their own, described one level down.
    generalize o.exports = exports at hexports
    cases hexports with
    | none => rfl
    | some hinner =>
      obtain ⟨inner, rfl, hdescribed⟩ := hinner
      exact field_given (readExports_of_describedBy hdescribed) _
  exact read_of_fields hfields (field_map readUInt32_ofNat _ _) (field_map readUInt64_ofNat _ _)
    (field_map readUInt64_ofNat _ _) (field_map textOrNull?_ofTextOrNone _ _) hnames

/-! ## Rearranged documents -/

/-- The members are rearranged, or those that hold the names of entry points. -/
inductive Rearranged : List (Option String × Json) → List (Option String × Json) → Prop
  | fields {members members' : List (Option String × Json)}
      (h : Json.Rearranged keys members members') : Rearranged members members'
  | exports {before after inner inner' : List (Option String × Json)}
      (h : Json.Rearranged exportKeys inner inner') :
      Rearranged (before ++ (some "exports", .obj inner) :: after)
        (before ++ (some "exports", .obj inner') :: after)

/-- A field that stands twice, in the document or in its names of entry points. -/
def Repeated (members : List (Option String × Json)) : Prop :=
  (∃ key ∈ keys, 2 ≤ (Json.values members key).length) ∨
    ∃ inner, (some "exports", .obj inner) ∈ members ∧
      ∃ key ∈ exportKeys, 2 ≤ (Json.values inner key).length

/-- A field that stands twice makes the whole document unreadable. -/
theorem read_of_repeated {members : List (Option String × Json)} (h : Repeated members) :
    read (.obj members) = none := by
  rcases h with ⟨key, hkey, htwice⟩ | ⟨inner, hinner, key, hkey, htwice⟩
  · rw [read, Json.fields?_of_repeated hkey htwice]
  · have hnone : readExports (.obj inner) = none := by
      rw [readExports, Json.fields?_of_repeated hkey htwice]
    unfold read
    split
    · next exports hfields =>
      obtain ⟨-, hall⟩ := Json.fields?_eq_some_iff.mp hfields
      -- the names of entry points are what is given for their field
      have hgiven : exports = some (.obj inner) := by
        simp only [keys, List.forall₂_cons] at hall
        obtain ⟨-, -, -, -, hexports, -⟩ := hall
        have hmem := Json.mem_values_of_mem hinner
        rw [hexports, Option.mem_toList] at hmem
        exact hmem
      rw [hgiven]
      simp only [field, hnone, Option.bind_eq_bind, Option.bind_none, Option.bind_fun_none]
    · rfl

end Settings

variable {members members' : List (Option String × Json)}

theorem ExportOverrides.DescribedBy.rearranged {e : ExportOverrides} (h : e.DescribedBy members)
    (hr : Json.Rearranged Settings.exportKeys members members') : e.DescribedBy members' where
  keyed := hr.keyed h.keyed
  malloc := hr.gives (by decide) h.malloc
  initializer := hr.gives (by decide) h.initializer
  setSource := hr.gives (by decide) h.setSource
  executeOneStep := hr.gives (by decide) h.executeOneStep
  registerFunction := hr.gives (by decide) h.registerFunction
  setupHeap := hr.gives (by decide) h.setupHeap
  heapBase := hr.gives (by decide) h.heapBase

/-- A rearranged document says the same. -/
theorem Overrides.DescribedBy.rearranged {o : Overrides} (h : o.DescribedBy members)
    (hr : Settings.Rearranged members members') : o.DescribedBy members' := by
  obtain ⟨given, hgiven, hexports⟩ := h.exports
  cases hr with
  | fields hfields =>
    exact ⟨hfields.keyed h.keyed, hfields.gives (by decide) h.heapPages,
      hfields.gives (by decide) h.stepsPerBatch, hfields.gives (by decide) h.frameIntervalMs,
      hfields.gives (by decide) h.banner, given, hfields.gives (by decide) hgiven, hexports⟩
  | exports hinner =>
    obtain ⟨rfl, hreplaced⟩ := hgiven.replace_self
    refine ⟨Json.keyed_insert_iff.mpr (Json.keyed_insert_iff.mp h.keyed),
      h.heapPages.replaced (by decide) _, h.stepsPerBatch.replaced (by decide) _,
      h.frameIntervalMs.replaced (by decide) _, h.banner.replaced (by decide) _, _,
      hreplaced _, ?_⟩
    -- The new names are the only member that can have changed.
    generalize o.exports = exports at hexports ⊢
    cases hexports with
    | some hdescribed =>
      obtain ⟨inner, hsame, hdescribed⟩ := hdescribed
      obtain rfl := Json.obj.inj hsame
      exact .some ⟨_, rfl, hdescribed.rearranged hinner⟩

/-- However often a document is rearranged, it says the same. -/
theorem Overrides.DescribedBy.rearranged_all {o : Overrides} (h : o.DescribedBy members)
    (hr : Relation.ReflTransGen Settings.Rearranged members members') : o.DescribedBy members' := by
  induction hr with
  | refl => exact h
  | tail _ hlast ih => exact ih.rearranged hlast

/-- The default settings with the given fields are checked, and nothing else is. -/
theorem Settings.ofText_of_describedBy {o : Overrides} {text : String} (h : o.DescribedBy members)
    (htext : (Json.obj members).Written text) :
    ofText text = o.settings.check.map fun _ => o.settings :=
  ofText_of_read htext.parse?_eq (read_of_describedBy h)

/-- **Settings override what is given.** Take any text of an object whose members give some of the
fields, each at most once and with a value of its kind, and some of the names of entry points in the
same way. Loading it gives the default settings with exactly these fields replaced if their ranges
allow it, and otherwise it is refused as invalid. Moving members about and adding or removing
members that are no fields, at both levels and as often as one likes, does not change the result.

A text of an object with a field that stands twice, in the object or among the names of entry
points, is malformed, whatever else it holds. -/
theorem settings_override_given_fields (members : List (Option String × Json)) (text : String)
    (htext : (Json.obj members).Written text) :
    (∀ o : Overrides, o.DescribedBy members →
      (o.settings.InRange → Settings.ofText text = .ok o.settings) ∧
      (¬ o.settings.InRange → ∃ reason, Settings.ofText text = .error (.invalid reason)) ∧
      ∀ members' text', Relation.ReflTransGen Settings.Rearranged members members' →
        (Json.obj members').Written text' → Settings.ofText text' = Settings.ofText text) ∧
    (Settings.Repeated members → ∃ reason, Settings.ofText text = .error (.malformed reason)) := by
  refine ⟨fun o ho => ?_, fun hrepeated => ?_⟩
  · have hload := Settings.ofText_of_describedBy ho htext
    refine ⟨fun hin => ?_, fun hout => ?_, fun members' text' hr htext' => ?_⟩
    · rcases o.settings.check_cases with ⟨-, hcheck⟩ | ⟨hno, -⟩
      · rw [hload, hcheck]
        rfl
      · exact absurd hin hno
    · rcases o.settings.check_cases with ⟨hin, -⟩ | ⟨-, reason, hcheck⟩
      · exact absurd hin hout
      · rw [hload, hcheck]
        exact ⟨reason, rfl⟩
    · rw [hload, Settings.ofText_of_describedBy (ho.rearranged_all hr) htext']
  · refine ⟨"a field has a value of the wrong kind", ?_⟩
    simp only [Settings.ofText, htext.parse?_eq, Settings.read_of_repeated hrepeated]

/-- A name among members that are none. -/
def sparseNames : List (String × Json) := [("y", .null), ("malloc", .ofString "m")]

/-- Two fields among members that are none. -/
def sparse : List (String × Json) :=
  [("x", .int 1), ("exports", .ofMembers sparseNames), ("x", .arr []), ("heap_pages", .ofNat 2)]

theorem plain_sparse : ∀ m ∈ sparse, m.2.Plain := by
  have hexports : (Json.ofMembers sparseNames).Plain := by
    refine .ofMembers fun m hm => ?_
    simp only [sparseNames, List.mem_cons, List.not_mem_nil, or_false] at hm
    rcases hm with rfl | rfl
    · exact .null
    · exact .str "m"
  intro m hm
  simp only [sparse, List.mem_cons, List.not_mem_nil, or_false] at hm
  rcases hm with rfl | rfl | rfl | rfl
  · exact .int 1
  · exact hexports
  · exact .arr nofun
  · exact .int 2

/-- The two fields are replaced. One more number of pages is one too many. -/
theorem settings_override_given_fields_sparse :
    let twice := sparse ++ [("heap_pages", .ofNat 3)]
    (Json.ofMembers sparse).Written (Json.ofMembers sparse).pretty ∧
    (Json.ofMembers twice).Written (Json.ofMembers twice).pretty ∧
    Settings.ofText (Json.ofMembers sparse).pretty = .ok { Settings.default with
      heapPages := 2, exports := { ExportNames.default with malloc := "m" } } ∧
    ∃ reason, Settings.ofText (Json.ofMembers twice).pretty = .error (.malformed reason) := by
  intro twice
  have hplain : (Json.ofMembers sparse).Plain := .ofMembers plain_sparse
  have htwice : (Json.ofMembers twice).Plain := by
    refine .ofMembers fun m hm => ?_
    rcases List.mem_append.mp hm with hm | hm
    · exact plain_sparse m hm
    · rw [List.mem_singleton.mp hm]
      exact .int 3
  let names : ExportOverrides := ⟨some "m", none, none, none, none, none, none⟩
  let given : Overrides := ⟨some 2, none, none, none, some names⟩
  have hnames : names.DescribedBy (sparseNames.map fun m => (some m.1, m.2)) :=
    ⟨by decide, rfl, rfl, rfl, rfl, rfl, rfl, rfl⟩
  have hdescribed : given.DescribedBy (sparse.map fun m => (some m.1, m.2)) :=
    ⟨by decide, rfl, rfl, rfl, rfl, some (.ofMembers sparseNames), rfl, .some ⟨_, rfl, hnames⟩⟩
  obtain ⟨hgiven, -⟩ := settings_override_given_fields _ _ hplain.written_pretty
  obtain ⟨-, hrepeated⟩ := settings_override_given_fields _ _ htwice.written_pretty
  refine ⟨hplain.written_pretty, htwice.written_pretty, (hgiven given hdescribed).1 ?_,
    hrepeated (.inl ⟨"heap_pages", by decide, by decide⟩)⟩
  unfold Settings.InRange
  decide

end GuestBridge
