import GuestBridge.Proofs.Guest.Booting
import GuestBridge.Proofs.Settings.Printing
/-!
# The heap that is announced

The host tells its guest where the heap is by two signed 32-bit numbers: the address that the guest
exports and the number of bytes from there to the end of the arena. Both are meant unsigned, and the
second is computed as a number of any size and then cast. That nothing is lost rests on the bound
of the settings: an arena of at most 65535 pages has fewer than `2 ^ 32` bytes, whatever the
address.

What the host calls is said by name and operands (`Guest.callAll`). Booting is the same as making a
list of such calls after the banner, for whatever code is behind the names, so the list says what is
called, how often and in which order.

## Main statements

* **`Guest.toNat_heapSize`** — the announced size, read as unsigned, is exact;
* **`Module.boot_of_announces`**, **`Module.boot_of_not_announces`** — the calls of a boot;
* **`announced_heap_ends_with_arena`** — the region and the calls, for all valid settings.
-/

namespace GuestBridge

/-! ## Sizes -/

namespace Settings

variable {settings : Settings}

/-- Valid settings ask for no more pages than leave one to grow by. -/
theorem heapPages_le (valid : settings.check = .ok ()) : settings.heapPages.toNat ≤ 65535 := by
  rcases settings.check_cases with ⟨⟨-, hmost, -⟩, -⟩ | ⟨-, reason, herror⟩
  · exact hmost
  · rw [valid] at herror
    cases herror

/-- An arena of valid settings has fewer bytes than a 32-bit number can count. -/
theorem heapBytes_lt (valid : settings.check = .ok ()) :
    settings.heapPages.toNat * pageBytes < UInt32.size := by
  have hpages := heapPages_le valid
  unfold pageBytes UInt32.size
  omega

/-- The limit of the arena is computed without a carry. -/
theorem toNat_heapPages_succ (valid : settings.check = .ok ()) :
    (settings.heapPages + 1).toNat = settings.heapPages.toNat + 1 := by
  have hpages := heapPages_le valid
  have hfits : settings.heapPages.toNat + 1 < UInt32.size := by
    unfold UInt32.size
    omega
  rw [UInt32.toNat_add]
  exact Nat.mod_eq_of_lt hfits

theorem toNat_heapPages_mul (valid : settings.check = .ok ()) :
    (settings.heapPages * 65536).toNat = settings.heapPages.toNat * pageBytes := by
  rw [UInt32.toNat_mul]
  exact Nat.mod_eq_of_lt (heapBytes_lt valid)

end Settings

variable {σ : Type}

/-- The announced size as the guest gets it. -/
def Guest.heapSize (bytes : Nat) (base : Int32) : Int32 :=
  (UInt32.ofNat (heapBytes bytes base)).toInt32

/-- The announced size, read as unsigned, is the number of bytes behind the address; none when the
address lies behind the end. -/
theorem Guest.toNat_heapSize {bytes : Nat} (h : bytes < UInt32.size) (base : Int32) :
    (heapSize bytes base).toUInt32.toNat = bytes - base.toUInt32.toNat := by
  have hfits : bytes - base.toUInt32.toNat < UInt32.size := by omega
  unfold heapSize heapBytes
  rw [UInt32.toUInt32_toInt32, UInt32.toNat_ofNat']
  exact Nat.mod_eq_of_lt hfits

/-- There is a heap to announce: a setup is configured, a function of its type is exported under its
name, and the address of the heap is an exported 32-bit global. -/
structure Announces (names : ExportNames) (exports : List (String × Export σ)) (name : String)
    (base : Int32) : Prop where
  configured : names.setupHeap = some name
  exported : ∃ code, Export.find? exports name = some (.function ⟨[.i32, .i32], []⟩ code)
  address : Export.find? exports names.heapBase = some (.global (.i32 base))

/-! ## Calls by name -/

namespace Guest

/-- Calls exported functions by name, one after the other, as long as none of them fails. -/
def callAll (g : Guest σ) : List (String × List Operand) → Action RuntimeError σ Unit
  | [] => pure ()
  | (name, operands) :: rest => do
    let _ ← g.call name operands
    g.callAll rest

variable {g : Guest σ}

/-- Calls can be made in two parts. Induction on the first one. -/
theorem callAll_append (g : Guest σ) (first rest : List (String × List Operand)) :
    g.callAll (first ++ rest) = (do g.callAll first; g.callAll rest) := by
  induction first with
  | nil => rfl
  | cons call others ih =>
    rw [List.cons_append, callAll, callAll, ih]
    funext s
    simp only [Outcome.bind_apply]
    cases g.call call.1 call.2 s <;> rfl

/-- Code whose results are dropped runs as the code does. -/
theorem run_noResult (g : Guest σ) (code : Code σ (List Operand)) :
    g.run code.noResult = (do let _ ← g.run code) :=
  Program.run_bind _ code _

/-- One call of a function with operands of its types runs its code. -/
theorem callAll_single {name : String} {type : FuncType}
    {code : List Operand → Code σ (List Operand)} {operands : List Operand}
    (hfind : Export.find? g.exports name = some (.function type code))
    (htypes : operands.map Operand.type = type.params) (s : Session σ) :
    g.callAll [(name, operands)] s =
      ((g.run (code operands).noResult).mapError RuntimeError.ofTrap) s := by
  -- the operands fit, so calling the name runs the code
  have hcall : g.call name operands s =
      ((g.run (code operands)).mapError RuntimeError.ofTrap) s := by
    unfold call
    rw [hfind]
    dsimp only
    rw [if_pos htypes]
  rw [callAll, Outcome.bind_apply, hcall, run_noResult]
  unfold Action.mapError
  rw [Outcome.bind_apply]
  cases g.run (code operands) s <;> rfl

/-! ## Starting a guest -/

theorem size_greeted (g : Guest σ) (s : Session σ) : (g.greeted s).arena.size = s.arena.size := by
  unfold greeted
  cases g.settings.banner with
  | none => rfl
  | some banner =>
    show (s.print banner).arena.size = s.arena.size
    rw [Session.print_eq]

/-- A heap to announce is announced by one call, with its address and what is left of the arena. -/
theorem announceHeap_of_announces {name : String} {base : Int32}
    (h : Announces g.settings.exports g.exports name base) (s : Session σ) :
    g.announceHeap s = g.callAll [(name, [.i32 base, .i32 (heapSize s.arena.size base)])] s := by
  obtain ⟨code, hfind⟩ := h.exported
  have hsetup : g.heapSetup? = some name := heapSetup?_eq_some_iff.mpr ⟨h.configured, _, _, hfind⟩
  have hbase : g.heapBase? = some base := heapBase?_eq_some_iff.mpr h.address
  have htyped : EntryPoints.typed g.exports .setupHeap name = .ok code :=
    EntryPoints.typed_eq_ok_iff.mpr hfind
  rw [callAll_single hfind rfl, announceHeap_of_named hsetup hbase, htyped]
  rfl

/-- Without a heap to announce, nothing is called; a setup of another type is refused. -/
theorem announceHeap_of_not_announces
    (h : ∀ name base, ¬ Announces g.settings.exports g.exports name base) :
    (∀ s : Session σ, g.announceHeap s = .ok () s) ∨
      ∃ name reason, ∀ s : Session σ,
        g.announceHeap s = .error (.missingExport Role.setupHeap.name name reason) s := by
  -- In the order in which the guest looks: the setup, the address, the type of the setup.
  cases hsetup : g.heapSetup? with
  | none =>
    refine .inl fun s => ?_
    rw [announceHeap, hsetup]
    rfl
  | some name =>
    obtain ⟨hname, type, code, hfind⟩ := heapSetup?_eq_some_iff.mp hsetup
    cases hbase : g.heapBase? with
    | none =>
      refine .inl fun s => ?_
      rw [announceHeap, hsetup, hbase]
      rfl
    | some base =>
      cases htyped : EntryPoints.typed g.exports .setupHeap name with
      | ok code' =>
        -- with all three there is a heap to announce
        exact absurd ⟨hname, ⟨code', EntryPoints.typed_eq_ok_iff.mp htyped⟩,
          heapBase?_eq_some_iff.mp hbase⟩ (h name base)
      | error e =>
        obtain ⟨reason, rfl⟩ := EntryPoints.typed_error htyped
        refine .inr ⟨name, reason, fun s => ?_⟩
        rw [announceHeap_of_named hsetup hbase, htyped]

/-- A guest starts with the setup of its heap, then its initializer. -/
theorem start_of_announces {name : String} {base : Int32}
    (h : Announces g.settings.exports g.exports name base)
    {initializer : String} {code : List Operand → Code σ (List Operand)}
    (hfind : Export.find? g.exports initializer = some (.function ⟨[], []⟩ code))
    (hentry : g.entry.initializer = (code []).noResult) (s : Session σ) :
    g.start s = g.callAll [(name, [.i32 base, .i32 (heapSize s.arena.size base)]),
      (initializer, [])] (g.greeted s) := by
  have hinitializer (t : Session σ) : ((g.run g.entry.initializer).mapError RuntimeError.ofTrap) t =
      g.callAll [(initializer, [])] t := by
    rw [hentry, callAll_single hfind rfl]
  rw [start_eq, ← List.singleton_append, callAll_append, Outcome.bind_apply, Outcome.bind_apply,
    announceHeap_of_announces h, size_greeted, funext hinitializer]

/-- A guest without a heap to announce starts with its initializer, or not at all. -/
theorem start_of_not_announces
    (h : ∀ name base, ¬ Announces g.settings.exports g.exports name base)
    {initializer : String} {code : List Operand → Code σ (List Operand)}
    (hfind : Export.find? g.exports initializer = some (.function ⟨[], []⟩ code))
    (hentry : g.entry.initializer = (code []).noResult) :
    (∀ s : Session σ, g.start s = g.callAll [(initializer, [])] (g.greeted s)) ∨
      ∃ name reason, ∀ s : Session σ,
        g.start s = .error (.missingExport Role.setupHeap.name name reason) (g.greeted s) := by
  rcases announceHeap_of_not_announces h with hskip | ⟨name, reason, hrefused⟩
  · refine .inl fun s => ?_
    rw [start_eq, Outcome.bind_apply, hskip, hentry, callAll_single hfind rfl]
  · refine .inr ⟨name, reason, fun s => ?_⟩
    rw [start_eq, Outcome.bind_apply, hrefused]

end Guest

/-! ## Booting -/

/-- Resolved entry points are the code of exported functions. -/
theorem EntryPoints.initializer_of_resolve {exports : List (String × Export σ)}
    {names : ExportNames} {entry : EntryPoints σ} (h : resolve exports names = .ok entry) :
    ∃ code, Export.find? exports names.initializer = some (.function ⟨[], []⟩ code) ∧
      entry.initializer = (code []).noResult := by
  obtain ⟨malloc, -, h⟩ := Outcome.except_bind_eq_ok_iff.mp h
  obtain ⟨initializer, hinitializer, h⟩ := Outcome.except_bind_eq_ok_iff.mp h
  obtain ⟨setSource, -, h⟩ := Outcome.except_bind_eq_ok_iff.mp h
  obtain ⟨executeOneStep, -, h⟩ := Outcome.except_bind_eq_ok_iff.mp h
  obtain ⟨registerFunction, -, h⟩ := Outcome.except_bind_eq_ok_iff.mp h
  cases h
  exact ⟨initializer, EntryPoints.typed_eq_ok_iff.mp hinitializer, rfl⟩

namespace Module

variable {m : Module} {settings : Settings} {extra : List (String × String × FuncType)}

/-- The guest that booting starts. -/
theorem starts_of_instantiate {g : Guest m.State} (h : m.instantiate settings extra = .ok g) :
    ∃ entry, g = ⟨entry, m.exports, settings⟩ ∧
      ∃ code, Export.find? m.exports settings.exports.initializer = some (.function ⟨[], []⟩ code) ∧
        entry.initializer = (code []).noResult := by
  obtain ⟨-, -, h⟩ := Outcome.except_bind_eq_ok_iff.mp h
  obtain ⟨linker, -, h⟩ := Outcome.except_bind_eq_ok_iff.mp h
  -- the imports are linked, or there is no guest
  split at h
  · obtain ⟨entry, hentry, h⟩ := Outcome.except_bind_eq_ok_iff.mp h
    cases h
    exact ⟨entry, rfl, EntryPoints.initializer_of_resolve hentry⟩
  · cases h

/-- One name has one type, so the setup is not the initializer. -/
theorem setup_ne_initializer {g : Guest m.State} (h : m.instantiate settings extra = .ok g)
    {name : String} {base : Int32} (hannounces : Announces settings.exports m.exports name base) :
    name ≠ settings.exports.initializer := by
  rintro rfl
  obtain ⟨_, -, code, hfind, -⟩ := starts_of_instantiate h
  obtain ⟨setup, hsetup⟩ := hannounces.exported
  rw [hfind] at hsetup
  cases hsetup

/-- With a heap to announce, booting makes two calls. -/
theorem boot_of_announces {g : Guest m.State} (h : m.instantiate settings extra = .ok g)
    {name : String} {base : Int32} (hannounces : Announces settings.exports m.exports name base)
    (s : Session m.State) :
    m.boot settings extra s = (do
      g.callAll [(name, [.i32 base, .i32 (Guest.heapSize s.arena.size base)]),
        (settings.exports.initializer, [])]
      return g) (g.greeted s) := by
  obtain ⟨entry, rfl, code, hfind, hentry⟩ := starts_of_instantiate h
  rw [boot_of_instantiate h, Outcome.bind_apply,
    Guest.start_of_announces hannounces hfind hentry]
  rfl

/-- Without one, booting makes one call, or none where the setup has another type. -/
theorem boot_of_not_announces {g : Guest m.State} (h : m.instantiate settings extra = .ok g)
    (hnone : ∀ name base, ¬ Announces settings.exports m.exports name base) :
    (∀ s : Session m.State, m.boot settings extra s = (do
      g.callAll [(settings.exports.initializer, [])]
      return g) (g.greeted s)) ∨
    ∃ name reason, ∀ s : Session m.State, m.boot settings extra s =
      .error (.missingExport Role.setupHeap.name name reason) (g.greeted s) := by
  obtain ⟨entry, rfl, code, hfind, hentry⟩ := starts_of_instantiate h
  let g : Guest m.State := ⟨entry, m.exports, settings⟩
  have hcases := Guest.start_of_not_announces (g := g) hnone hfind hentry
  rcases hcases with hstart | ⟨name, reason, hstart⟩
  · refine .inl fun s => ?_
    rw [boot_of_instantiate h, Outcome.bind_apply, hstart]
    rfl
  · refine .inr ⟨name, reason, fun s => ?_⟩
    rw [boot_of_instantiate h, Outcome.bind_apply, hstart]

end Module

/-- **The announced heap ends with the arena.** For all valid settings, the limit of the arena and
its bytes are computed in 32 bits without a carry out. Let a module be linked with all its required
entry points resolved, and let the arena have its configured size:

* with a heap to announce, booting shows the banner and then makes exactly two calls by itself. The
  first is the setup of the heap, with the exported address and a number; read as unsigned, the
  number is what is left of the arena behind the address, and zero if the address lies behind its
  end. The second is the initializer, which has another name;
* without one, the initializer is the only call, unless a setup of another type is configured and
  there is an address: then no function of the guest is called at all. -/
theorem announced_heap_ends_with_arena (settings : Settings) (valid : settings.check = .ok ()) :
    let pages := settings.heapPages
    let bytes := pages.toNat * pageBytes
    (pages + 1).toNat = (Arena.create pages.toNat).maxPages ∧
    (pages * 65536).toNat = bytes ∧ (Arena.create pages.toNat).size = bytes ∧
    ∀ (m : Module) (extra : List (String × String × FuncType)) (g : Guest m.State),
      m.instantiate settings extra = .ok g →
      (∀ environment, (m.session environment settings).arena.size = bytes) ∧
      (∀ name base, Announces settings.exports m.exports name base → ∃ size : Int32,
        size.toUInt32.toNat = bytes - base.toUInt32.toNat ∧
        (base.toUInt32.toNat ≤ bytes → base.toUInt32.toNat + size.toUInt32.toNat = bytes) ∧
        name ≠ settings.exports.initializer ∧
        ∀ s : Session m.State, s.arena.size = bytes → m.boot settings extra s = (do
          g.callAll [(name, [.i32 base, .i32 size]), (settings.exports.initializer, [])]
          return g) (g.greeted s)) ∧
      ((∀ name base, ¬ Announces settings.exports m.exports name base) →
        (∀ s : Session m.State, m.boot settings extra s = (do
          g.callAll [(settings.exports.initializer, [])]
          return g) (g.greeted s)) ∨
        ∃ name reason, ∀ s : Session m.State, m.boot settings extra s =
          .error (.missingExport "setup_heap" name reason) (g.greeted s)) := by
  intro pages bytes
  have hbytes : bytes < UInt32.size := Settings.heapBytes_lt valid
  refine ⟨Settings.toNat_heapPages_succ valid, Settings.toNat_heapPages_mul valid, rfl,
    fun m extra g hinstantiate => ⟨fun _ => rfl, fun name base hannounces => ?_, fun hnone => ?_⟩⟩
  · have hexact := Guest.toNat_heapSize hbytes base
    refine ⟨Guest.heapSize bytes base, hexact, fun hbase => by omega,
      Module.setup_ne_initializer hinstantiate hannounces, fun s hs => ?_⟩
    rw [Module.boot_of_announces hinstantiate hannounces, hs]
  · exact Module.boot_of_not_announces hinstantiate hnone

/-! ## A guest that keeps what it is told -/

/-- Exports all that is required, an address, and a heap setup that keeps its operands. -/
def keeper (base : Int32) : Module where
  State := List Operand
  start := []
  imports := (starter []).imports
  exports :=
    (Role.required.filterMap fun role => (role.exportName? .default).map fun name =>
      (name, .function role.type fun _ => return role.type.results.map Operand.zero)) ++
    [("_Z9setupHeapPvm", .function ⟨[.i32, .i32], []⟩ fun operands => do
        Code.setState operands
        return []),
      ("__heap_base", .global (.i32 base))]

/-- With the largest arena and an address in its last but one page, which is negative as a signed
number, one page is left. -/
theorem announced_heap_ends_with_arena_keeper :
    let settings := { Settings.default with heapPages := 65535 }
    let m := keeper (-131072)
    settings.check = .ok () ∧ ∃ g, m.instantiate settings [] = .ok g ∧
      Announces settings.exports m.exports "_Z9setupHeapPvm" (-131072) ∧
      ∀ environment, ∃ t, m.boot settings [] (m.session environment settings) = .ok g t ∧
        t.guest = [.i32 (-131072), .i32 65536] := by
  intro settings m
  have hvalid : settings.check = .ok () := rfl
  have hlinker : Module.hostDefinitions settings.heapPages.toNat [] =
      .ok ⟨Linker.standard 65535⟩ := Linker.hostDefinitions_standard 65535
  have hlinked : ∀ i ∈ m.imports, (⟨Linker.standard 65535⟩ : Linker).resolves i = true := by decide
  have hpresent : ∀ role ∈ Role.required,
      (Compatibility.ofModule m settings).status? role = some .present := by decide
  have hannounces : Announces settings.exports m.exports "_Z9setupHeapPvm" (-131072) :=
    ⟨rfl, ⟨_, rfl⟩, rfl⟩
  obtain ⟨entry, hg⟩ := Module.instantiate_of_present hvalid hlinker hlinked hpresent
  obtain ⟨-, -, -, hboots⟩ := announced_heap_ends_with_arena settings hvalid
  obtain ⟨hconfigured, hannounced, -⟩ := hboots m [] _ hg
  obtain ⟨size, hsize, -, -, hboot⟩ := hannounced _ _ hannounces
  have hword : size.toUInt32 = 65536 := UInt32.toNat_inj.mp (by rw [hsize]; decide)
  have hpage : size = 65536 := by
    rw [← Int32.toInt32_toUInt32 size, hword]
    rfl
  rw [hpage] at hboot
  refine ⟨hvalid, _, hg, hannounces, fun environment => ?_⟩
  rw [hboot _ (hconfigured environment)]
  exact ⟨_, rfl, rfl⟩

end GuestBridge
