import GuestBridge.Settings
import GuestBridge.Proofs.Json.Members
import GuestBridge.Proofs.Json.Printing
/-!
# Printed settings

Settings are printed with all their fields, so nothing is left to a default when they are read
again: absent names are printed as `null`, which is not the same as leaving the field out. Whether
what was read is accepted is then up to the ranges of its fields alone.

## Main statements

* **`Settings.read_document`** — the fields of the printed document are those of the settings;
* **`printed_settings_load`** — printed settings are loaded back, or refused as invalid.
-/

namespace GuestBridge

namespace Settings

theorem plain_ofTextOrNone (t : Option String) : (ofTextOrNone t).Plain := by
  cases t with
  | none => exact .null
  | some text => exact .str text

theorem plain_exportsDocument (e : ExportNames) : (exportsDocument e).Plain := by
  refine .ofMembers fun m hm => ?_
  simp only [List.mem_cons, List.not_mem_nil, or_false] at hm
  rcases hm with rfl | rfl | rfl | rfl | rfl | rfl | rfl
  -- Only the name of the setup may be missing.
  case inr.inr.inr.inr.inr.inl => exact plain_ofTextOrNone e.setupHeap
  all_goals exact .str _

/-- The printed document is one that the parser reads back. -/
theorem plain_document (s : Settings) : s.document.Plain := by
  refine .ofMembers fun m hm => ?_
  simp only [List.mem_cons, List.not_mem_nil, or_false] at hm
  rcases hm with rfl | rfl | rfl | rfl | rfl
  · exact .int _
  · exact .int _
  · exact .int _
  · exact plain_ofTextOrNone s.banner
  · exact plain_exportsDocument s.exports

/-- A missing text is printed as `null`, and read as missing. -/
theorem textOrNull?_ofTextOrNone (t : Option String) : (ofTextOrNone t).textOrNull? = some t := by
  cases t <;> rfl

/-- A number of pages is printed without loss. -/
theorem readUInt32_ofNat (n : UInt32) : readUInt32 (.ofNat n.toNat) = some n := by
  have hlt : n.toNat < UInt32.size := n.toNat_lt
  have hrange : (0 : Int) ≤ n.toNat ∧ (n.toNat : Int) < UInt32.size := by omega
  rw [readUInt32, Json.ofNat, Json.below?, if_pos hrange, Int.toNat_natCast, Option.map_some,
    UInt32.ofNat_toNat]

theorem readUInt64_ofNat (n : UInt64) : readUInt64 (.ofNat n.toNat) = some n := by
  have hlt : n.toNat < UInt64.size := n.toNat_lt
  have hrange : (0 : Int) ≤ n.toNat ∧ (n.toNat : Int) < UInt64.size := by omega
  rw [readUInt64, Json.ofNat, Json.below?, if_pos hrange, Int.toNat_natCast, Option.map_some,
    UInt64.ofNat_toNat]

theorem nodup_exportKeys : exportKeys.Nodup := by decide

theorem nodup_keys : keys.Nodup := by decide

/-- A given field is what its value is read as. -/
theorem field_given {α : Type} {read : Json → Option α} {j : Json} {a : α} (h : read j = some a)
    (default : α) : field read (some j) default = some a := h

/-- Names of entry points are read field by field. -/
theorem readExports_of_fields {j : Json} {malloc initializer setSource executeOneStep
    registerFunction setupHeap heapBase : Option Json} {e : ExportNames}
    (hfields : j.fields? exportKeys = some [malloc, initializer, setSource, executeOneStep,
      registerFunction, setupHeap, heapBase])
    (hmalloc : field Json.text? malloc ExportNames.default.malloc = some e.malloc)
    (hinitializer : field Json.text? initializer ExportNames.default.initializer =
      some e.initializer)
    (hsource : field Json.text? setSource ExportNames.default.setSource = some e.setSource)
    (hstep : field Json.text? executeOneStep ExportNames.default.executeOneStep =
      some e.executeOneStep)
    (hregister : field Json.text? registerFunction ExportNames.default.registerFunction =
      some e.registerFunction)
    (hsetup : field Json.textOrNull? setupHeap ExportNames.default.setupHeap = some e.setupHeap)
    (hbase : field Json.text? heapBase ExportNames.default.heapBase = some e.heapBase) :
    readExports j = some e := by
  rw [readExports, hfields]
  simp only [hmalloc, hinitializer, hsource, hstep, hregister, hsetup, hbase,
    Option.bind_eq_bind, Option.bind_some, Option.pure_def]

/-- Printed names of entry points are read back. -/
theorem readExports_document (e : ExportNames) : readExports (exportsDocument e) = some e := by
  have hfields : (exportsDocument e).fields? exportKeys = some [some (.ofString e.malloc),
      some (.ofString e.initializer), some (.ofString e.setSource),
      some (.ofString e.executeOneStep), some (.ofString e.registerFunction),
      some (ofTextOrNone e.setupHeap), some (.ofString e.heapBase)] :=
    Json.fields?_ofMembers nodup_exportKeys
  exact readExports_of_fields hfields rfl rfl rfl rfl rfl
    (field_given (textOrNull?_ofTextOrNone _) _) rfl

/-- Settings are read field by field. -/
theorem read_of_fields {j : Json}
    {heapPages stepsPerBatch frameIntervalMs banner exports : Option Json} {s : Settings}
    (hfields : j.fields? keys = some [heapPages, stepsPerBatch, frameIntervalMs, banner, exports])
    (hpages : field readUInt32 heapPages default.heapPages = some s.heapPages)
    (hsteps : field readUInt64 stepsPerBatch default.stepsPerBatch = some s.stepsPerBatch)
    (hinterval : field readUInt64 frameIntervalMs default.frameIntervalMs =
      some s.frameIntervalMs)
    (hbanner : field Json.textOrNull? banner default.banner = some s.banner)
    (hexports : field readExports exports default.exports = some s.exports) :
    read j = some s := by
  rw [read, hfields]
  simp only [hpages, hsteps, hinterval, hbanner, hexports, Option.bind_eq_bind, Option.bind_some,
    Option.pure_def]

/-- The fields of the printed document are those of the settings. -/
theorem read_document (s : Settings) : read s.document = some s := by
  -- All fields are printed, so none is left to a default.
  have hfields : s.document.fields? keys = some [some (.ofNat s.heapPages.toNat),
      some (.ofNat s.stepsPerBatch.toNat), some (.ofNat s.frameIntervalMs.toNat),
      some (ofTextOrNone s.banner), some (exportsDocument s.exports)] :=
    Json.fields?_ofMembers nodup_keys
  exact read_of_fields hfields (field_given (readUInt32_ofNat _) _)
    (field_given (readUInt64_ofNat _) _) (field_given (readUInt64_ofNat _) _)
    (field_given (textOrNull?_ofTextOrNone _) _) (field_given (readExports_document _) _)

/-- The arena has at least one page and leaves one page free, and a batch has a step. -/
def InRange (s : Settings) : Prop :=
  1 ≤ s.heapPages.toNat ∧ s.heapPages.toNat ≤ 65535 ∧ 1 ≤ s.stepsPerBatch.toNat

/-- Whether settings are accepted depends on the ranges of their numbers alone. -/
theorem check_cases (s : Settings) :
    (s.InRange ∧ s.check = .ok ()) ∨
      (¬ s.InRange ∧ ∃ reason, s.check = .error (.invalid reason)) := by
  have hpages : s.heapPages = 0 ↔ s.heapPages.toNat = 0 := by
    rw [← UInt32.toNat_inj]
    rfl
  have hsteps : s.stepsPerBatch = 0 ↔ s.stepsPerBatch.toNat = 0 := by
    rw [← UInt64.toNat_inj]
    rfl
  unfold check InRange
  -- The pages are checked before the steps of a batch.
  by_cases hrange : s.heapPages = 0 ∨ pageLimit ≤ s.heapPages.toNat
  · rw [if_pos hrange]
    rw [hpages, pageLimit] at hrange
    exact .inr ⟨by omega, _, rfl⟩
  · rw [if_neg hrange]
    rw [hpages, pageLimit] at hrange
    by_cases hzero : s.stepsPerBatch = 0
    · rw [if_pos hzero]
      rw [hsteps] at hzero
      exact .inr ⟨by omega, _, rfl⟩
    · rw [if_neg hzero]
      rw [hsteps] at hzero
      exact .inl ⟨by omega, rfl⟩

/-- What is well-formed is refused by the check only. -/
theorem ofText_of_read {text : String} {j : Json} {s : Settings}
    (hparse : Json.parse? text = some j) (hread : read j = some s) :
    ofText text = s.check.map fun _ => s := by
  simp only [ofText, hparse, hread]
  cases s.check with
  | ok _ => rfl
  | error e => rfl

/-- Settings printed to a text, with blanks after them, are read and then checked. -/
theorem ofText_text (s : Settings) {after : String} (hafter : Json.Blank after.toList) :
    ofText (s.text ++ after) = s.check.map fun _ => s :=
  ofText_of_read (Json.parse?_pretty s.plain_document hafter) s.read_document

end Settings

/-- **Printed settings can be loaded back.** For all settings, with any strings in them: if the
fields are in range, loading the printed text gives the same settings, and otherwise it is refused
as invalid, not as malformed. A line break after the text makes no difference. -/
theorem printed_settings_load (s : Settings) :
    (1 ≤ s.heapPages.toNat ∧ s.heapPages.toNat ≤ 65535 ∧ 1 ≤ s.stepsPerBatch.toNat ∧
      Settings.ofText s.text = .ok s ∧ Settings.ofText (s.text ++ "\n") = .ok s) ∨
    (¬ (1 ≤ s.heapPages.toNat ∧ s.heapPages.toNat ≤ 65535 ∧ 1 ≤ s.stepsPerBatch.toNat) ∧
      ∃ reason, Settings.ofText s.text = .error (.invalid reason) ∧
        Settings.ofText (s.text ++ "\n") = .error (.invalid reason)) := by
  have hline : Json.Blank ("\n" : String).toList := by
    intro c hc
    rw [show ("\n" : String).toList = ['\n'] by decide, List.mem_singleton] at hc
    subst hc
    rfl
  have htext : Settings.ofText s.text = s.check.map fun _ => s := by
    have hblank : Json.Blank ("" : String).toList := nofun
    have hempty := s.ofText_text hblank
    rwa [String.append_empty] at hempty
  rw [htext, s.ofText_text hline]
  rcases s.check_cases with ⟨⟨hone, hmost, hsteps⟩, hcheck⟩ | ⟨hout, reason, hcheck⟩
  · rw [hcheck]
    exact .inl ⟨hone, hmost, hsteps, rfl, rfl⟩
  · rw [hcheck]
    exact .inr ⟨hout, reason, rfl, rfl⟩

end GuestBridge
