import GuestBridge.Proofs.Guest.Compatibility
/-!
# Reports and booting

A report compares entry points as texts, booting resolves them by type. For a module whose imports
are linked the two agree role by role: booting fails at the first required role, in the order of
looking up, that the report does not call present. At that point there is no guest yet, so no code
of the module has run and the session is untouched; that no code has run is said by exchanging all
of it. Once all required roles are present, only a heap setup of another type is still refused, and
only if there is an address to call it with.

## Main statements

* **`Compatibility.refusal_of_firstAbsent`** — the first role that is not present is the first that
  is refused;
* **`Guest.start_missing_iff`** — what can still be refused when a guest starts;
* **`report_agrees_with_boot`** — the report against the whole boot sequence.
-/

namespace GuestBridge

/-! ## Findings on a role -/

namespace Compatibility

/-- What a report says of a role, if it looks for it. -/
def status? (c : Compatibility) (role : Role) : Option ExportStatus :=
  (c.exports.find? (·.role == role)).map (·.status)

/-- The first required role that is not present. -/
def firstAbsent? (c : Compatibility) : Option Role :=
  Role.required.find? fun role => c.status? role != some .present

variable {m : Module} {settings : Settings} {role : Role} {name : String}

/-- A role with a name is looked for once, under that name. -/
theorem status?_ofModule (hname : role.exportName? settings.exports = some name) :
    (ofModule m settings).status? role = some (ExportCheck.ofExport m.exports role name).status := by
  cases role
  -- The setup is looked for behind the required roles, once it has a name.
  case setupHeap =>
    have hsetup : settings.exports.setupHeap = some name := hname
    have hexpected : expected settings.exports = [(.malloc, settings.exports.malloc),
        (.initializer, settings.exports.initializer), (.setSource, settings.exports.setSource),
        (.executeOneStep, settings.exports.executeOneStep),
        (.registerFunction, settings.exports.registerFunction), (.setupHeap, name)] := by
      simp only [expected, Role.required, List.cons_append, List.nil_append, List.filterMap_cons,
        Role.exportName?, Option.map_some, hsetup, List.filterMap_nil]
    rw [status?, ofModule, hexpected]
    rfl
  all_goals
    obtain rfl := Option.some.inj hname
    rfl

/-- A required role has a name. -/
theorem exists_exportName (names : ExportNames) (hrole : role ∈ Role.required) :
    ∃ name, role.exportName? names = some name := by
  cases role
  case setupHeap => exact absurd hrole (by decide)
  all_goals exact ⟨_, rfl⟩

/-- A required role is present where booting resolves it. -/
theorem status?_eq_present_iff (hrole : role ∈ Role.required) :
    (ofModule m settings).status? role = some .present ↔
      ∃ name code, role.exportName? settings.exports = some name ∧
        EntryPoints.typed m.exports role name = .ok code := by
  obtain ⟨name, hname⟩ := exists_exportName settings.exports hrole
  rw [status?_ofModule hname, Option.some.injEq, ExportCheck.present_iff]
  constructor
  · rintro ⟨code, hcode⟩
    exact ⟨name, code, hname, hcode⟩
  · rintro ⟨_, code, hname', hcode⟩
    rw [hname, Option.some.injEq] at hname'
    subst hname'
    exact ⟨code, hcode⟩

/-- A required role that is not present is refused, and no other. -/
theorem refusal_eq_none_iff (hrole : role ∈ Role.required) :
    EntryPoints.refusal? m.exports settings.exports role = none ↔
      (ofModule m settings).status? role = some .present := by
  rw [status?_eq_present_iff hrole]
  obtain ⟨name, hname⟩ := exists_exportName settings.exports hrole
  simp only [EntryPoints.refusal?, hname, Option.some.injEq]
  cases htyped : EntryPoints.typed m.exports role name with
  | ok code => exact ⟨fun _ => ⟨name, code, rfl, htyped⟩, fun _ => rfl⟩
  | error e =>
    refine ⟨fun h => ?_, fun h => ?_⟩
    · cases h
    · obtain ⟨_, code, rfl, hcode⟩ := h
      rw [htyped] at hcode
      cases hcode

/-- A refused role is missed under the name that it was looked up by. -/
theorem refusal_of_absent (hname : role.exportName? settings.exports = some name)
    {e : RuntimeError} (h : EntryPoints.refusal? m.exports settings.exports role = some e) :
    ∃ reason, e = .missingExport role.name name reason := by
  simp only [EntryPoints.refusal?, hname] at h
  cases htyped : EntryPoints.typed m.exports role name with
  | ok code =>
    rw [htyped] at h
    cases h
  | error e' =>
    rw [htyped] at h
    obtain rfl := Option.some.inj h
    exact EntryPoints.typed_error htyped

/-- The first role that is not present is the first that is refused, and under its name. -/
theorem refusal_of_firstAbsent (h : (ofModule m settings).firstAbsent? = some role) :
    ∃ name reason, role.exportName? settings.exports = some name ∧
      Role.required.findSome? (EntryPoints.refusal? m.exports settings.exports) =
        some (.missingExport role.name name reason) := by
  obtain ⟨habsent, before, after, hrequired, hbefore⟩ := List.find?_eq_some_iff_append.mp h
  have hrole : role ∈ Role.required := by
    rw [hrequired]
    exact List.mem_append_right _ (List.mem_cons_self ..)
  obtain ⟨name, hname⟩ := exists_exportName settings.exports hrole
  cases hrefusal : EntryPoints.refusal? m.exports settings.exports role with
  | none =>
    rw [refusal_eq_none_iff hrole] at hrefusal
    exact absurd hrefusal (bne_iff_ne.mp habsent)
  | some e =>
    obtain ⟨reason, rfl⟩ := refusal_of_absent hname hrefusal
    -- the roles before the first absent one are present, so none of them is refused
    refine ⟨name, reason, hname, List.findSome?_eq_some_iff.mpr
      ⟨before, role, after, hrequired, hrefusal, fun earlier hearlier => ?_⟩⟩
    have hin : earlier ∈ Role.required := by
      rw [hrequired]
      exact List.mem_append_left _ hearlier
    rw [refusal_eq_none_iff hin]
    have hnot := hbefore earlier hearlier
    rwa [Bool.not_eq_true', bne_eq_false_iff_eq] at hnot

end Compatibility

/-! ## Other code behind the same exports -/

/-- The export with other code behind it, if it is a function. -/
def Export.recoded {σ : Type} (code : List Operand → Code σ (List Operand)) : Export σ → Export σ
  | .function type _ => .function type code
  | .global value => .global value
  | .table => .table
  | .memory => .memory

/-- The exports with other code behind each function. -/
def Export.recodeAll {σ : Type} (code : String → List Operand → Code σ (List Operand))
    (exports : List (String × Export σ)) : List (String × Export σ) :=
  exports.map fun e => (e.1, e.2.recoded (code e.1))

/-- The module with other code behind each of its functions. -/
def Module.recoded (m : Module) (code : String → List Operand → Code m.State (List Operand)) :
    Module :=
  { m with exports := Export.recodeAll code m.exports }

variable {σ : Type} {code : String → List Operand → Code σ (List Operand)}

/-- Looking up a name finds the same kind of export, with the code of that name behind it. -/
theorem Export.find?_recodeAll (exports : List (String × Export σ)) (name : String) :
    Export.find? (Export.recodeAll code exports) name =
      (Export.find? exports name).map (Export.recoded (code name)) := by
  have hlook : (Export.recodeAll code exports).find? (·.1 == name) =
      (exports.find? (·.1 == name)).map fun e => (e.1, e.2.recoded (code e.1)) := List.find?_map
  unfold Export.find?
  rw [hlook]
  cases hfind : exports.find? (·.1 == name) with
  | none => rfl
  | some e =>
    -- what is found stands under the name that was asked for, so it gets the code of that name
    have hfound := List.find?_some hfind
    have hkey : e.1 = name := beq_iff_eq.mp hfound
    rw [← hkey]
    rfl

/-- Whether a role is refused, and why, does not depend on any code. -/
theorem EntryPoints.refusal?_recodeAll (exports : List (String × Export σ)) (names : ExportNames)
    (role : Role) :
    refusal? (Export.recodeAll code exports) names role = refusal? exports names role := by
  unfold refusal?
  cases role.exportName? names with
  | none => rfl
  | some name =>
    simp only [typed, Export.find?_recodeAll]
    cases Export.find? exports name with
    | none => rfl
    | some e =>
      cases e with
      | function type own =>
        simp only [Option.map_some, Export.recoded]
        by_cases htype : type = role.type
        · rw [if_pos htype, if_pos htype]
        · rw [if_neg htype, if_neg htype]
      | global value | table | memory => rfl

/-! ## Booting -/

/-- No trap of a guest is reported as a missing export. -/
theorem RuntimeError.ofTrap_ne_missingExport {trap : Trap} {role name reason : String} :
    RuntimeError.ofTrap trap ≠ .missingExport role name reason := by
  cases trap <;> exact nofun

/-- A guest that starts misses nothing but a heap setup of the right type. -/
theorem Guest.start_missing_iff {g : Guest σ} {s : Session σ} {role name : String} :
    (∃ reason t, g.start s = .error (.missingExport role name reason) t) ↔
      role = Role.setupHeap.name ∧ g.MistypedSetup name := by
  -- Either the setup has another type, or all that runs is code of the guest, which can only trap.
  rcases g.announceHeap_cases with ⟨name', reason, hmistyped, herror⟩ | ⟨hnone, setup, hsetup⟩
  · rw [g.start_eq, Outcome.bind_apply, herror]
    constructor
    · rintro ⟨_, _, h⟩
      cases h
      exact ⟨rfl, hmistyped⟩
    · rintro ⟨rfl, h⟩
      have hname : name' = name := Option.some.inj (hmistyped.1.symm.trans h.1)
      subst hname
      exact ⟨reason, _, rfl⟩
  · constructor
    · rintro ⟨reason, t, h⟩
      obtain ⟨trap, htrap⟩ := Guest.start_error hsetup h
      exact absurd htrap.symm RuntimeError.ofTrap_ne_missingExport
    · exact fun h => absurd h.2 (hnone name)

namespace Module

variable {m : Module} {settings : Settings} {extra : List (String × String × FuncType)}

/-- Without a guest, nothing happens. -/
theorem boot_of_error {e : RuntimeError} (h : m.instantiate settings extra = .error e)
    (s : Session m.State) : m.boot settings extra s = .error e s := by
  unfold Module.boot
  rw [h]
  rfl

/-- With a guest, booting starts it. -/
theorem boot_of_instantiate {g : Guest m.State} (h : m.instantiate settings extra = .ok g)
    (s : Session m.State) : m.boot settings extra s = (do g.start; return g) s := by
  unfold Module.boot
  rw [h]
  rfl

/-- With a guest, booting fails as starting the guest does. -/
theorem boot_error_iff {g : Guest m.State} (h : m.instantiate settings extra = .ok g)
    {s t : Session m.State} {e : RuntimeError} :
    m.boot settings extra s = .error e t ↔ g.start s = .error e t := by
  rw [boot_of_instantiate h, Outcome.bind_eq_error_iff]
  refine ⟨fun hcases => ?_, .inl⟩
  rcases hcases with hstart | ⟨_, _, _, hreturn⟩
  · exact hstart
  · cases hreturn

/-- A linked module whose first refused role is known. -/
theorem instantiate_of_refusal {linker : Linker} (valid : settings.check = .ok ())
    (hlinker : hostDefinitions settings.heapPages.toNat extra = .ok linker)
    (linked : ∀ i ∈ m.imports, linker.resolves i = true) {e : RuntimeError}
    (h : Role.required.findSome? (EntryPoints.refusal? m.exports settings.exports) = some e) :
    m.instantiate settings extra = .error e := by
  have hfirst := EntryPoints.resolve_first m.exports settings.exports
  rw [EntryPoints.FirstRefusal, h] at hfirst
  rw [instantiate_of_linked valid hlinker linked, hfirst]
  rfl

/-- A linked module all of whose required roles are present. -/
theorem instantiate_of_present {linker : Linker} (valid : settings.check = .ok ())
    (hlinker : hostDefinitions settings.heapPages.toNat extra = .ok linker)
    (linked : ∀ i ∈ m.imports, linker.resolves i = true)
    (h : ∀ role ∈ Role.required, (Compatibility.ofModule m settings).status? role =
      some .present) :
    ∃ entry, m.instantiate settings extra = .ok ⟨entry, m.exports, settings⟩ := by
  have hnone : Role.required.findSome? (EntryPoints.refusal? m.exports settings.exports) =
      none :=
    List.findSome?_eq_none_iff.mpr fun role hrole =>
      (Compatibility.refusal_eq_none_iff hrole).mpr (h role hrole)
  have hfirst := EntryPoints.resolve_first m.exports settings.exports
  rw [EntryPoints.FirstRefusal, hnone] at hfirst
  obtain ⟨entry, hentry⟩ := hfirst
  refine ⟨entry, ?_⟩
  rw [instantiate_of_linked valid hlinker linked, hentry]
  rfl

end Module

/-- **A report and the boot sequence agree on entry points.** For every module whose imports are all
linked and all valid settings:

* a required role is present exactly if booting can resolve it, which takes a function of exactly its
  type under its name;
* if a required role is not present, booting fails for the first such one, naming it and the name it
  was looked up under. The session is left as it was, and the same happens whatever code is behind
  the module's functions;
* if all required roles are present, booting misses an export exactly if a heap setup is configured,
  a function of another type is exported under its name and the address of the heap is an exported
  32-bit global. It is then the heap setup that is missed, and the report shows both types. -/
theorem report_agrees_with_boot (m : Module) (settings : Settings)
    (extra : List (String × String × FuncType)) (linker : Linker)
    (valid : settings.check = .ok ())
    (hlinker : Module.hostDefinitions settings.heapPages.toNat extra = .ok linker)
    (linked : ∀ i ∈ m.imports, linker.resolves i = true) :
    let report := Compatibility.ofModule m settings
    let names := settings.exports
    (∀ role ∈ Role.required, report.status? role = some .present ↔
      ∃ name code, role.exportName? names = some name ∧
        Export.find? m.exports name = some (.function role.type code) ∧
        EntryPoints.typed m.exports role name = .ok code) ∧
    (∀ role, report.firstAbsent? = some role →
      ∃ name reason, role.exportName? names = some name ∧
        ∀ s : Session m.State,
          m.boot settings extra s = .error (.missingExport role.name name reason) s ∧
          ∀ code, (m.recoded code).boot settings extra s =
            .error (.missingExport role.name name reason) s) ∧
    ((∀ role ∈ Role.required, report.status? role = some .present) →
      ∀ (s : Session m.State) (role name : String),
        (∃ reason t, m.boot settings extra s = .error (.missingExport role name reason) t) ↔
          role = "setup_heap" ∧ names.setupHeap = some name ∧
          ∃ type code base, Export.find? m.exports name = some (.function type code) ∧
            type ≠ ⟨[.i32, .i32], []⟩ ∧
            report.status? .setupHeap = some (.mismatch "(i32, i32) -> ()" type.text) ∧
            Export.find? m.exports names.heapBase = some (.global (.i32 base))) := by
  intro report names
  refine ⟨fun role hrole => ?_, fun role habsent => ?_, fun hpresent s role name => ?_⟩
  · rw [Compatibility.status?_eq_present_iff hrole]
    refine exists_congr fun name => exists_congr fun code => and_congr_right fun _ => ?_
    rw [EntryPoints.typed_eq_ok_iff, and_self]
  · obtain ⟨name, reason, hname, hrefusal⟩ := Compatibility.refusal_of_firstAbsent habsent
    refine ⟨name, reason, hname, fun s => ⟨?_, fun code => ?_⟩⟩
    · exact Module.boot_of_error (Module.instantiate_of_refusal valid hlinker linked hrefusal) s
    · -- with other code, the same roles are refused and the same imports linked
      have hrecoded : Role.required.findSome? (EntryPoints.refusal? (m.recoded code).exports
          settings.exports) = some (.missingExport role.name name reason) := by
        rw [← hrefusal, ← funext (EntryPoints.refusal?_recodeAll m.exports settings.exports)]
        rfl
      have hrecodedLinked : ∀ i ∈ (m.recoded code).imports, linker.resolves i = true := linked
      exact Module.boot_of_error
        (Module.instantiate_of_refusal valid hlinker hrecodedLinked hrecoded) s
  · obtain ⟨entry, hentry⟩ := Module.instantiate_of_present valid hlinker linked hpresent
    have hshow (type : FuncType) (code : List Operand → Code m.State (List Operand))
        (hname : names.setupHeap = some name)
        (hfind : Export.find? m.exports name = some (.function type code))
        (hne : type ≠ Role.setupHeap.type) :
        report.status? .setupHeap = some (.mismatch "(i32, i32) -> ()" type.text) := by
      have htext : Role.setupHeap.type.text = "(i32, i32) -> ()" := by decide
      have hrole : Role.exportName? settings.exports .setupHeap = some name := hname
      rw [Compatibility.status?_ofModule hrole, ExportCheck.status_of_function hfind, if_neg hne,
        htext]
    simp only [Module.boot_error_iff hentry]
    rw [Guest.start_missing_iff]
    refine and_congr_right fun _ => and_congr_right fun hname => ?_
    constructor
    · rintro ⟨⟨type, code, hfind, hne⟩, base, hbase⟩
      exact ⟨type, code, base, hfind, hne, hshow type code hname hfind hne, hbase⟩
    · rintro ⟨type, code, base, hfind, hne, -, hbase⟩
      exact ⟨⟨type, code, hfind, hne⟩, base, hbase⟩

/-- Exports all that is required, the address of the heap, and a heap setup that takes a wide
number. -/
def wideSetup : Stub where
  imports := (starter []).imports
  exports := (starter []).exports ++
    [("_Z9setupHeapPvm", .function ⟨[.i32, .i64], []⟩), ("__heap_base", .global .i32)]

/-- Such a module is linked and has all required entry points, but never boots. -/
theorem report_agrees_with_boot_wideSetup :
    let m := wideSetup.module
    Settings.default.check = .ok () ∧
    Module.hostDefinitions Settings.default.heapPages.toNat [] = .ok ⟨Linker.standard 4096⟩ ∧
    (∀ i ∈ m.imports, (⟨Linker.standard 4096⟩ : Linker).resolves i = true) ∧
    (∀ role ∈ Role.required,
      (Compatibility.ofModule m Settings.default).status? role = some .present) ∧
    ∀ s : Session m.State, ∃ reason t, m.boot Settings.default [] s =
      .error (.missingExport "setup_heap" "_Z9setupHeapPvm" reason) t := by
  intro m
  have hvalid : Settings.default.check = .ok () := rfl
  have hlinker : Module.hostDefinitions Settings.default.heapPages.toNat [] =
      .ok ⟨Linker.standard 4096⟩ := Linker.hostDefinitions_standard 4096
  have hlinked : ∀ i ∈ m.imports, (⟨Linker.standard 4096⟩ : Linker).resolves i = true := by decide
  have hpresent : ∀ role ∈ Role.required,
      (Compatibility.ofModule m Settings.default).status? role = some .present := by decide
  have hmissing := (report_agrees_with_boot m Settings.default [] ⟨Linker.standard 4096⟩ hvalid
    hlinker hlinked).2.2 hpresent
  refine ⟨hvalid, hlinker, hlinked, hpresent, fun s => (hmissing s _ _).mpr ?_⟩
  exact ⟨rfl, rfl, _, _, 0, rfl, by decide, by decide, rfl⟩

end GuestBridge
