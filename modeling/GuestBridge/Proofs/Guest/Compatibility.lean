import GuestBridge.Compatibility
import GuestBridge.Guest.Stub
import GuestBridge.Proofs.Guest.Linking
import GuestBridge.Proofs.Guest.Signatures
/-!
# What a report promises

A report looks at a module without running it; linking and booting run it. On exports the two agree:
an entry point is reported as present exactly where booting resolves it, so a module whose report is
fine never misses one. On imports they do not: a report asks for the name of an import, linking for
its type, too. So a compatible module can be linked if and only if each of its imports has the type
that the host offers under that name, and `mistyped` is a module without that.

## Main statements

* **`ExportCheck.present_iff`** — present means resolvable;
* **`compatible_boots_iff_typed`** — when a compatible module is linked, and how far it then gets;
* **`compatible_not_linked`** — a compatible module that is not.
-/

namespace GuestBridge

/-! ## Starting -/

/-- A heap setup is a configured name under which a function is exported. -/
theorem Guest.heapSetup?_eq_some_iff {σ : Type} {g : Guest σ} {name : String} :
    g.heapSetup? = some name ↔ g.settings.exports.setupHeap = some name ∧
      ∃ type code, Export.find? g.exports name = some (.function type code) := by
  unfold heapSetup?
  cases g.settings.exports.setupHeap with
  | none => simp only [Option.bind_eq_bind, Option.bind_none, reduceCtorEq, false_and]
  | some configured =>
    simp only [Option.bind_eq_bind, Option.bind_some, Option.some.injEq]
    by_cases hname : configured = name
    · subst hname
      cases Export.find? g.exports configured with
      | none => simp
      | some e => cases e <;> simp
    · simp only [hname, false_and, iff_false]
      split
      · exact fun h => hname (Option.some.inj h)
      · exact nofun

/-- An address of the heap is an exported 32-bit global. -/
theorem Guest.heapBase?_eq_some_iff {σ : Type} {g : Guest σ} {base : Int32} :
    g.heapBase? = some base ↔
      Export.find? g.exports g.settings.exports.heapBase = some (.global (.i32 base)) := by
  unfold heapBase?
  constructor
  · intro h
    split at h
    · cases h
      assumption
    · cases h
  · intro h
    rw [h]

/-- An entry point is resolved where a function of exactly its type is exported. -/
theorem EntryPoints.typed_eq_ok_iff {σ : Type} {exports : List (String × Export σ)} {role : Role}
    {name : String} {code : List Operand → Code σ (List Operand)} :
    EntryPoints.typed exports role name = .ok code ↔
      Export.find? exports name = some (.function role.type code) := by
  unfold EntryPoints.typed
  cases Export.find? exports name with
  | none => simp only [reduceCtorEq]
  | some e =>
    cases e with
    | function type found =>
      by_cases htype : type = role.type
      · simp only [htype, if_true, Except.ok.injEq, Option.some.injEq, Export.function.injEq,
          true_and]
      · simp only [htype, if_false, reduceCtorEq, Option.some.injEq, Export.function.injEq,
          false_and]
    | global value | table | memory => simp only [reduceCtorEq, Option.some.injEq]

/-- A role that is not resolved is reported under the name that was looked up. -/
theorem EntryPoints.typed_error {σ : Type} {exports : List (String × Export σ)} {role : Role}
    {name : String} {e : RuntimeError} (h : EntryPoints.typed exports role name = .error e) :
    ∃ reason, e = .missingExport role.name name reason := by
  unfold EntryPoints.typed at h
  split at h
  · split at h
    · cases h
    · exact ⟨_, (Except.error.inj h).symm⟩
  · exact ⟨_, (Except.error.inj h).symm⟩
  · exact ⟨_, (Except.error.inj h).symm⟩

/-- A heap setup with an address is called if it has the right type, and refused otherwise. -/
theorem Guest.announceHeap_of_named {σ : Type} {g : Guest σ} {s : Session σ} {name : String}
    {base : Int32} (hname : g.heapSetup? = some name) (hbase : g.heapBase? = some base) :
    g.announceHeap s =
      match EntryPoints.typed g.exports .setupHeap name with
      | .error err => .error err s
      | .ok code =>
        (g.run (code [.i32 base,
          .i32 (UInt32.ofNat (heapBytes s.arena.size base)).toInt32]).noResult).mapError
            .ofTrap s := by
  rw [announceHeap, hname, hbase]
  cases htyped : EntryPoints.typed g.exports .setupHeap name with
  | error err =>
    simp only [htyped]
    rfl
  | ok code =>
    simp only [htyped]
    rfl

/-- The guest has a heap to announce, but exports a function of another type under the name of its
heap setup. -/
def Guest.MistypedSetup {σ : Type} (g : Guest σ) (name : String) : Prop :=
  g.settings.exports.setupHeap = some name ∧
  (∃ type code, Export.find? g.exports name = some (.function type code) ∧
    type ≠ Role.setupHeap.type) ∧
  ∃ base, Export.find? g.exports g.settings.exports.heapBase = some (.global (.i32 base))

/-- The heap is announced by the guest's own code, or not at all, unless its setup has another
type. -/
theorem Guest.announceHeap_cases {σ : Type} (g : Guest σ) :
    (∃ name reason, g.MistypedSetup name ∧ ∀ s : Session σ,
      g.announceHeap s = .error (.missingExport Role.setupHeap.name name reason) s) ∨
    ((∀ name, ¬ g.MistypedSetup name) ∧ ∃ setup : Nat → Code σ Unit, ∀ s : Session σ,
      g.announceHeap s = ((g.run (setup s.arena.size)).mapError RuntimeError.ofTrap) s) := by
  have hskip (s : Session σ) :
      ((g.run (pure () : Code σ Unit)).mapError RuntimeError.ofTrap) s = .ok () s := rfl
  -- A setup and an address are looked for; without one of them nothing is announced.
  cases hsetup : g.heapSetup? with
  | none =>
    refine .inr ⟨fun name h => ?_, fun _ => pure (), fun s => ?_⟩
    · obtain ⟨type, code, hfind, -⟩ := h.2.1
      rw [Guest.heapSetup?_eq_some_iff.mpr ⟨h.1, type, code, hfind⟩] at hsetup
      cases hsetup
    · rw [hskip, Guest.announceHeap, hsetup]
      rfl
  | some name =>
    obtain ⟨hname, type, exported, hfind⟩ := Guest.heapSetup?_eq_some_iff.mp hsetup
    cases hbase : g.heapBase? with
    | none =>
      refine .inr ⟨fun _ h => ?_, fun _ => pure (), fun s => ?_⟩
      · obtain ⟨base, h⟩ := h.2.2
        rw [Guest.heapBase?_eq_some_iff.mpr h] at hbase
        cases hbase
      · rw [hskip, Guest.announceHeap, hsetup, hbase]
        rfl
    | some base =>
      -- With both, the type of the setup decides.
      cases htyped : EntryPoints.typed g.exports .setupHeap name with
      | error e =>
        obtain ⟨reason, rfl⟩ := EntryPoints.typed_error htyped
        refine .inl ⟨name, reason, ⟨hname, ⟨type, exported, hfind, fun htype => ?_⟩, base,
          Guest.heapBase?_eq_some_iff.mp hbase⟩, fun s => ?_⟩
        · subst htype
          rw [EntryPoints.typed_eq_ok_iff.mpr hfind] at htyped
          cases htyped
        · rw [Guest.announceHeap_of_named hsetup hbase, htyped]
      | ok code =>
        refine .inr ⟨fun name' h => ?_, fun size => (code [.i32 base, .i32 (UInt32.ofNat
          (Guest.heapBytes size base)).toInt32]).noResult, fun s => ?_⟩
        · obtain ⟨hname', ⟨type', code', hfind', hne⟩, -⟩ := h
          rw [hname, Option.some.injEq] at hname'
          subst hname'
          rw [EntryPoints.typed_eq_ok_iff.mp htyped] at hfind'
          exact hne (Export.function.inj (Option.some.inj hfind')).1.symm
        · rw [Guest.announceHeap_of_named hsetup hbase, htyped]

/-- The session once the banner is shown. -/
def Guest.greeted {σ : Type} (g : Guest σ) (s : Session σ) : Session σ :=
  match g.settings.banner with
  | some banner => (s.print banner).emit .vsync
  | none => s

/-- Once the banner is shown, a guest starts by announcing its heap. -/
theorem Guest.start_eq {σ : Type} (g : Guest σ) (s : Session σ) :
    g.start s = (do
      g.announceHeap
      (g.run g.entry.initializer).mapError RuntimeError.ofTrap) (g.greeted s) := by
  unfold start greeted
  cases g.settings.banner <;> rfl

/-- Where the heap is announced by code of the guest, starting it fails only by a trap. -/
theorem Guest.start_error {σ : Type} {g : Guest σ} {setup : Nat → Code σ Unit}
    (hsetup : ∀ s : Session σ, g.announceHeap s =
      ((g.run (setup s.arena.size)).mapError RuntimeError.ofTrap) s)
    {s t : Session σ} {e : RuntimeError} (h : g.start s = .error e t) :
    ∃ trap, e = RuntimeError.ofTrap trap := by
  rw [g.start_eq] at h
  -- It fails in the announcement, or in the initializer behind it; both are code of the guest.
  rcases Outcome.bind_eq_error_iff.mp h with hheap | ⟨_, v, _, hinitializer⟩
  · rw [hsetup] at hheap
    obtain ⟨trap, -, htrap⟩ := Outcome.renamed_eq_error_iff.mp hheap
    exact ⟨trap, htrap⟩
  · obtain ⟨trap, -, htrap⟩ := Outcome.renamed_eq_error_iff.mp hinitializer
    exact ⟨trap, htrap⟩

namespace EntryPoints

variable {σ : Type} {exports : List (String × Export σ)} {names : ExportNames}

/-- Why a role cannot be resolved. -/
def refusal? (exports : List (String × Export σ)) (names : ExportNames) (role : Role) :
    Option RuntimeError :=
  match role.exportName? names with
  | none => none
  | some name =>
    match typed exports role name with
    | .ok _ => none
    | .error e => some e

/-- The first refusal among the roles is how `x` fails; without one it succeeds. -/
def FirstRefusal {α : Type} (exports : List (String × Export σ)) (names : ExportNames)
    (roles : List Role) (x : Except RuntimeError α) : Prop :=
  match roles.findSome? (refusal? exports names) with
  | some e => x = .error e
  | none => ∃ a, x = .ok a

/-- One more role in front: if it is refused, nothing behind it is looked up. -/
theorem FirstRefusal.bind {α : Type} {role : Role} {name : String} {roles : List Role}
    {rest : (List Operand → Code σ (List Operand)) → Except RuntimeError α}
    (hname : role.exportName? names = some name)
    (hrest : ∀ code, FirstRefusal exports names roles (rest code)) :
    FirstRefusal exports names (role :: roles) (typed exports role name >>= rest) := by
  unfold FirstRefusal
  cases htyped : typed exports role name with
  | ok code =>
    have hnone : refusal? exports names role = none := by simp only [refusal?, hname, htyped]
    rw [List.findSome?_cons, hnone]
    exact hrest code
  | error e =>
    have hsome : refusal? exports names role = some e := by simp only [refusal?, hname, htyped]
    rw [List.findSome?_cons, hsome]
    rfl

/-- The required roles are resolved in order, up to the first that is refused. -/
theorem resolve_first (exports : List (String × Export σ)) (names : ExportNames) :
    FirstRefusal exports names Role.required (resolve exports names) :=
  .bind rfl fun _ => .bind rfl fun _ => .bind rfl fun _ => .bind rfl fun _ => .bind rfl fun _ =>
    ⟨_, rfl⟩

end EntryPoints

/-- With valid settings and linked imports, a module is a guest once its entry points are
resolved. -/
theorem Module.instantiate_of_linked {m : Module} {settings : Settings}
    {extra : List (String × String × FuncType)} {linker : Linker} (valid : settings.check = .ok ())
    (hlinker : Module.hostDefinitions settings.heapPages.toNat extra = .ok linker)
    (linked : ∀ i ∈ m.imports, linker.resolves i = true) :
    m.instantiate settings extra =
      (EntryPoints.resolve m.exports settings.exports).map fun entry =>
        ⟨entry, m.exports, settings⟩ := by
  unfold Module.instantiate
  rw [valid, hlinker]
  show (if m.imports.all linker.resolves = true then _ else _) = _
  rw [if_pos (List.all_eq_true.mpr linked)]
  cases EntryPoints.resolve m.exports settings.exports <;> rfl

/-! ## Exports -/

namespace ExportCheck

variable {σ : Type} {exports : List (String × Export σ)} {role : Role} {name : String}

/-- A function under a name is compared by its type, although a report looks at texts. -/
theorem status_of_function {type : FuncType} {code : List Operand → Code σ (List Operand)}
    (hfind : Export.find? exports name = some (.function type code)) :
    (ofExport exports role name).status =
      if type = role.type then .present else .mismatch role.type.text type.text := by
  simp only [ofExport, hfind, Role.type_of_text]

/-- An entry point is present where it can be resolved. -/
theorem present_iff :
    (ofExport exports role name).status = .present ↔
      ∃ code, EntryPoints.typed exports role name = .ok code := by
  cases hfind : Export.find? exports name with
  | none => simp only [ofExport, EntryPoints.typed, hfind, reduceCtorEq, exists_false]
  | some e =>
    cases e with
    | function type code =>
      rw [status_of_function hfind]
      simp only [EntryPoints.typed, hfind]
      by_cases htype : type = role.type
      · simp only [htype, if_true, Except.ok.injEq, exists_eq']
      · simp only [htype, if_false, reduceCtorEq, exists_false]
    | global value | table | memory =>
      simp only [ofExport, EntryPoints.typed, hfind, reduceCtorEq, exists_false]

/-- A satisfied check of a required role finds its code. -/
theorem typed_of_required (required : role.isRequired = true)
    (h : (ofExport exports role name).isSatisfied = true) :
    ∃ code, EntryPoints.typed exports role name = .ok code := by
  rw [← present_iff]
  have hrole : (ofExport exports role name).role = role := rfl
  unfold isSatisfied at h
  -- A missing export satisfies the check of an optional role only.
  cases hstatus : (ofExport exports role name).status with
  | present => rfl
  | missing =>
    rw [hstatus, hrole, required] at h
    cases h
  | mismatch expected found =>
    rw [hstatus] at h
    cases h

/-- A satisfied check of an exported function finds the role's type. -/
theorem type_of_satisfied (h : (ofExport exports role name).isSatisfied = true) {type : FuncType}
    {code : List Operand → Code σ (List Operand)}
    (hfind : Export.find? exports name = some (.function type code)) : type = role.type := by
  by_cases htype : type = role.type
  · exact htype
  · rw [isSatisfied, status_of_function hfind, if_neg htype] at h
    cases h

end ExportCheck

namespace Compatibility

variable {m : Module} {settings : Settings}

/-- A report is fine if the module imports its memory, no import is left unresolved, and every check
is satisfied. -/
theorem isCompatible_iff {c : Compatibility} :
    c.isCompatible = true ↔
      c.importsMemory = true ∧ c.unresolvedImports = [] ∧
        ∀ check ∈ c.exports, check.isSatisfied = true := by
  rw [isCompatible, Bool.and_eq_true, Bool.and_eq_true, List.isEmpty_iff, List.all_eq_true,
    and_assoc]

/-- All imports of a compatible module are offered, by name. -/
theorem offers_of_compatible (h : (ofModule m settings).isCompatible = true) (pages : Nat) :
    ∀ i ∈ m.imports, (⟨Linker.standard pages⟩ : Linker).offers i = true := by
  intro i hi
  have hnone : (m.imports.filter fun i => !(⟨Linker.standard 1⟩ : Linker).offers i).map importName =
      [] := (isCompatible_iff.mp h).2.1
  rw [List.map_eq_nil_iff, List.filter_eq_nil_iff] at hnone
  -- the report asks a linker with another memory, which offers the same names
  rw [Linker.offers_standard]
  simpa only [Bool.not_eq_true', Bool.not_eq_false] using hnone i hi

/-- The check of a role that is looked for. -/
theorem satisfied_of_compatible (h : (ofModule m settings).isCompatible = true) {role : Role}
    {name : String} (hrole : role ∈ Role.required ++ [Role.setupHeap])
    (hname : role.exportName? settings.exports = some name) :
    (ExportCheck.ofExport m.exports role name).isSatisfied = true := by
  refine (isCompatible_iff.mp h).2.2 _ (List.mem_map.mpr ⟨(role, name), ?_, rfl⟩)
  refine List.mem_filterMap.mpr ⟨role, hrole, ?_⟩
  rw [hname, Option.map_some]

/-- The entry points of a compatible module can be resolved. -/
theorem resolve_of_compatible (h : (ofModule m settings).isCompatible = true) :
    ∃ entry, EntryPoints.resolve m.exports settings.exports = .ok entry := by
  -- no check of a required role is satisfied without code to call, so none is refused
  have hnone : Role.required.findSome? (EntryPoints.refusal? m.exports settings.exports) =
      none := by
    rw [List.findSome?_eq_none_iff]
    intro role hrequired
    have hreq : role.isRequired = true := by
      revert hrequired
      cases role <;> decide
    unfold EntryPoints.refusal?
    cases hname : role.exportName? settings.exports with
    | none => rfl
    | some name =>
      obtain ⟨code, hcode⟩ := ExportCheck.typed_of_required hreq
        (satisfied_of_compatible h (List.mem_append_left _ hrequired) hname)
      simp only [hcode]
  have hfirst := EntryPoints.resolve_first m.exports settings.exports
  rw [EntryPoints.FirstRefusal, hnone] at hfirst
  exact hfirst

/-- The guest that a compatible module becomes, if all its imports have the types that they need. -/
theorem instantiate_of_typed (valid : settings.check = .ok ())
    (h : (ofModule m settings).isCompatible = true)
    (typed : ∀ i ∈ m.imports, (⟨Linker.standard settings.heapPages.toNat⟩ : Linker).resolves i) :
    ∃ entry, m.instantiate settings [] = .ok ⟨entry, m.exports, settings⟩ := by
  obtain ⟨entry, hentry⟩ := resolve_of_compatible h
  refine ⟨entry, ?_⟩
  rw [Module.instantiate_of_linked valid (Linker.hostDefinitions_standard _) typed, hentry]
  rfl

/-- With an import of another type, linking fails before any entry point is looked up. -/
theorem instantiate_of_mistyped (valid : settings.check = .ok ()) {i : Import}
    (hi : i ∈ m.imports)
    (mistyped : (⟨Linker.standard settings.heapPages.toNat⟩ : Linker).resolves i = false) :
    ∃ reason, m.instantiate settings [] = .error (.module reason) := by
  have hnot : ¬ m.imports.all (⟨Linker.standard settings.heapPages.toNat⟩ : Linker).resolves = true :=
    fun hall => by
      rw [List.all_eq_true.mp hall i hi] at mistyped
      cases mistyped
  unfold Module.instantiate
  rw [valid, Linker.hostDefinitions_standard]
  show ∃ reason, (if m.imports.all (⟨Linker.standard settings.heapPages.toNat⟩ : Linker).resolves
    = true then _ else _) = _
  rw [if_neg hnot]
  exact ⟨_, rfl⟩

/-- The heap of a guest whose module is compatible is announced by the guest's own code, or not at
all. -/
theorem announceHeap_of_compatible (h : (ofModule m settings).isCompatible = true)
    (entry : EntryPoints m.State) :
    ∃ setup : Nat → Code m.State Unit, ∀ s : Session m.State,
      (⟨entry, m.exports, settings⟩ : Guest m.State).announceHeap s =
        (((⟨entry, m.exports, settings⟩ : Guest m.State).run (setup s.arena.size)).mapError
          RuntimeError.ofTrap) s := by
  let g : Guest m.State := ⟨entry, m.exports, settings⟩
  rcases g.announceHeap_cases with ⟨name, reason, hmistyped, -⟩ | ⟨-, setup, hsetup⟩
  · -- the report has compared the type of the function under the configured name
    obtain ⟨hname, ⟨type, code, hfind, hne⟩, -⟩ := hmistyped
    have hrole : Role.setupHeap ∈ Role.required ++ [Role.setupHeap] := by decide
    exact absurd (ExportCheck.type_of_satisfied (satisfied_of_compatible h hrole hname) hfind) hne
  · exact ⟨setup, hsetup⟩

end Compatibility

/-- **A compatible module can be linked exactly if its imports have the right types.** For every
module and all valid settings, if the report on the module is fine: all its imports are offered by
name. If one of them needs another type than the one that is offered, linking fails. If all have the
type that they need, linking succeeds, no entry point is missing, and the guest boots up to its own
code: its heap is announced by a call of the guest, or left alone, and booting can only fail because
that call or the initializer traps. -/
theorem compatible_boots_iff_typed (m : Module) (settings : Settings)
    (valid : settings.check = .ok ())
    (compatible : (Compatibility.ofModule m settings).isCompatible = true) :
    let linker : Linker := ⟨Linker.standard settings.heapPages.toNat⟩
    (∀ i ∈ m.imports, linker.offers i = true) ∧
    ((∃ i ∈ m.imports, linker.resolves i = false) →
      ∃ reason, m.instantiate settings [] = .error (.module reason)) ∧
    ((∀ i ∈ m.imports, linker.resolves i = true) →
      ∃ (g : Guest m.State) (setup : Nat → Code m.State Unit),
        m.instantiate settings [] = .ok g ∧
        (∀ s : Session m.State, g.announceHeap s =
          ((g.run (setup s.arena.size)).mapError RuntimeError.ofTrap) s) ∧
        ∀ (s : Session m.State) e t, m.boot settings [] s = .error e t →
          ∃ trap, e = RuntimeError.ofTrap trap) := by
  intro linker
  refine ⟨Compatibility.offers_of_compatible compatible _, fun hmistyped => ?_, fun htyped => ?_⟩
  · obtain ⟨i, hi, hresolves⟩ := hmistyped
    exact Compatibility.instantiate_of_mistyped valid hi hresolves
  · obtain ⟨entry, hg⟩ := Compatibility.instantiate_of_typed valid compatible htyped
    obtain ⟨setup, hsetup⟩ := Compatibility.announceHeap_of_compatible compatible entry
    refine ⟨_, setup, hg, hsetup, fun s e t hboot => ?_⟩
    -- the guest is there, so it is its start that failed
    rw [Module.boot, hg] at hboot
    rcases Outcome.bind_eq_error_iff.mp hboot with hlink | ⟨g, u, hlink, hstart⟩
    · cases hlink
    · cases hlink
      rcases Outcome.bind_eq_error_iff.mp hstart with hstart | ⟨_, _, _, hreturn⟩
      · exact Guest.start_error hsetup hstart
      · cases hreturn

/-! ## A module with an import of another type -/

/-- A stub that exports all required entry points under their usual names. -/
def starter (imports : List Import) : Stub where
  imports := ⟨"env", "memory", .memory ⟨1, none⟩⟩ :: imports
  exports := Role.required.filterMap fun role =>
    (role.exportName? .default).map fun name => (name, .function role.type)

/-- Its import has the name of the host's function, but takes an argument of another type. -/
def mistyped : Stub := starter [⟨"js", "putchar", .function ⟨[.i64], []⟩⟩]

/-- A report on a module may be fine although the module cannot be linked. -/
theorem compatible_not_linked :
    Settings.default.check = .ok () ∧
    (Compatibility.ofModule mistyped.module Settings.default).isCompatible = true ∧
    ∃ reason, mistyped.module.instantiate Settings.default [] = .error (.module reason) :=
  ⟨rfl, by decide, _, rfl⟩

/-- With the host's type, the same module is linked. -/
theorem compatible_boots_iff_typed_putchar :
    let m := (starter [⟨"js", "putchar", .function ⟨[.i32], []⟩⟩]).module
    Settings.default.check = .ok () ∧
    (Compatibility.ofModule m Settings.default).isCompatible = true ∧
    (∀ i ∈ m.imports, (⟨Linker.standard 4096⟩ : Linker).resolves i = true) ∧
    ∃ g, m.instantiate Settings.default [] = .ok g := by
  intro m
  have hvalid : Settings.default.check = .ok () := rfl
  have hcompatible : (Compatibility.ofModule m Settings.default).isCompatible = true := by decide
  have htyped : ∀ i ∈ m.imports, (⟨Linker.standard 4096⟩ : Linker).resolves i = true := by decide
  obtain ⟨g, -, hg, -⟩ :=
    (compatible_boots_iff_typed m Settings.default hvalid hcompatible).2.2 htyped
  exact ⟨hvalid, hcompatible, htyped, g, hg⟩

end GuestBridge
