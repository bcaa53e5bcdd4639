import GuestBridge.Proofs.Arena.Grants
/-!
# Text files are handed over or answered by zero

The guest names a text file by an address and a length and gets the text in a block of its own
allocator. It can tell success from failure by the answer alone, so zero must mean that there is no
text, and nothing else. Three stages can fail, and each has its own duty: a name that cannot be read
is reported, a text that does not exist is not, and a block that is not granted traps.

What keeps them apart is that each stage ends in one of two ways, whatever the guest made of its
memory (`requestedName_eq_ok_iff`, `requestedName_eq_error_iff`) and of its allocator
(`Allocation.writeText_eq_ok_iff`, `Allocation.writeText_eq_error_iff`). The bridge back into the
guest is a parameter of the statements: where the outcome is the same for all of them, the allocator
is not called.

## Main statement

* **`text_file_answers_zero_iff_no_text`** — the outcomes of a request, and when each occurs.
-/

namespace GuestBridge

variable {σ : Type}

/-! ## Names -/

/-- The slots from an unsigned address on are the characters of a name. -/
structure Names (a : Arena) (name length : Int32) (file : String) : Prop where
  length : (file.length : Int) = length.toInt
  inside : name.toUInt32.toNat + Slots.slotBytes * file.length ≤ a.size
  characters : ∀ i c, file.toList[i]? = some c →
    a.memory.word (name.toUInt32.toNat + Slots.slotBytes * i) Slots.slotBytes = c.toNat

/-- There is no name: the length is negative, the slots leave the arena, or one of them holds no
character. -/
def Nameless (a : Arena) (name length : Int32) : Prop :=
  length.toInt < 0 ∨
    a.size < name.toUInt32.toNat + Slots.slotBytes * length.toInt.toNat ∨
    ∃ i < length.toInt.toNat, Slots.NoCharacter
      (a.memory.word (name.toUInt32.toNat + Slots.slotBytes * i) Slots.slotBytes)

/-- Why a name cannot be read, as it is reported. -/
inductive Unreadable (a : Arena) (name length : Int32) : String → Prop
  | negative (neg : length.toInt < 0) :
      Unreadable a name length ("negative name length " ++ toString length.toInt)
  | defect {fault : Fault} (nonneg : 0 ≤ length.toInt)
      (defect : Slots.Defect a.memory (.ofInt32 name) length.toInt.toNat fault) :
      Unreadable a name length fault.message

/-- There is a text: the name is that of a file which the loader knows. -/
def Provides (s : Session σ) (name length : Int32) (text : String) : Prop :=
  ∃ file load, Names s.arena name length file ∧ s.environment.loader = some load ∧
    load file = some text

section Naming

variable {s : Session σ} {name length : Int32} {file : String}

/-- A negative length is refused before the memory is read. -/
theorem requestedName_of_neg (h : length.toInt < 0) :
    HostCall.requestedName s name length =
      .error ("negative name length " ++ toString length.toInt) := by
  have hneg : length < 0 := by rwa [Int32.lt_iff_toInt_lt, Int32.toInt_zero]
  rw [HostCall.requestedName, if_pos hneg]

/-- A length that is not negative is a number of slots. -/
theorem requestedName_of_nonneg (h : 0 ≤ length.toInt) :
    HostCall.requestedName s name length =
      (s.arena.readText (.ofInt32 name) length.toInt.toNat).mapError BridgeError.message := by
  have hnonneg : ¬ length < 0 := by
    rw [Int32.lt_iff_toInt_lt, Int32.toInt_zero]
    exact Int.not_lt.mpr h
  rw [HostCall.requestedName, if_neg hnonneg]

/-- The host reads a name exactly if the slots hold one. -/
theorem requestedName_eq_ok_iff :
    HostCall.requestedName s name length = .ok file ↔ Names s.arena name length file := by
  rcases lt_or_ge length.toInt 0 with hneg | hnonneg
  · rw [requestedName_of_neg hneg]
    refine ⟨fun h => ?_, fun h => ?_⟩
    · cases h
    · have hlength := h.length
      omega
  · rw [requestedName_of_nonneg hnonneg, Outcome.mapError_eq_ok_iff, Arena.readText,
      Outcome.mapError_eq_ok_iff, Slots.decode_eq_ok_iff]
    constructor
    · rintro ⟨hlength, hinside, hcharacters⟩
      rw [← hlength] at hinside
      exact ⟨by omega, hinside, hcharacters⟩
    · rintro ⟨hlength, hinside, hcharacters⟩
      -- the length as a number of slots is that of the name
      have hcount : file.length = length.toInt.toNat := by omega
      rw [hcount] at hinside
      exact ⟨hcount, hinside, hcharacters⟩

/-- The host reports what is wrong with the slots. -/
theorem requestedName_eq_error_iff {detail : String} :
    HostCall.requestedName s name length = .error detail ↔
      Unreadable s.arena name length detail := by
  rcases lt_or_ge length.toInt 0 with hneg | hnonneg
  · rw [requestedName_of_neg hneg, Except.error.injEq]
    constructor
    · rintro rfl
      exact .negative hneg
    · intro h
      cases h with
      | negative _ => rfl
      | defect nonneg _ => omega
  · rw [requestedName_of_nonneg hnonneg, Outcome.mapError_eq_error_iff]
    simp only [Arena.readText, Outcome.mapError_eq_error_iff, Slots.decode_eq_error_iff]
    constructor
    · rintro ⟨_, ⟨fault, hdefect, rfl⟩, rfl⟩
      exact .defect hnonneg hdefect
    · intro h
      cases h with
      | negative neg => omega
      | defect _ hdefect => exact ⟨_, ⟨_, hdefect, rfl⟩, rfl⟩

/-- A name is read, or there is none. -/
theorem nameless_iff : Nameless s.arena name length ↔ ¬ ∃ file, Names s.arena name length file := by
  constructor
  · rintro hnameless ⟨file, hlength, hinside, hcharacters⟩
    have hcount : length.toInt.toNat = file.length := by omega
    unfold Nameless at hnameless
    rw [hcount] at hnameless
    rcases hnameless with hneg | hrange | ⟨i, hi, hslot⟩
    · omega
    · exact absurd hinside (Nat.not_le.mpr hrange)
    · -- a slot of the name holds one of its characters
      rw [← String.length_toList] at hi
      rw [hcharacters i _ (List.getElem?_eq_getElem hi), Slots.noCharacter_iff] at hslot
      exact hslot (file.toList[i]).valid
  · intro hnone
    -- The host tries to read a name, and what it finds to be wrong is one of the three cases.
    cases hname : HostCall.requestedName s name length with
    | ok file => exact absurd ⟨file, requestedName_eq_ok_iff.mp hname⟩ hnone
    | error detail =>
      cases requestedName_eq_error_iff.mp hname with
      | negative neg => exact .inl neg
      | defect _ hdefect =>
        cases hdefect with
        | range outside => exact .inr (.inl outside)
        | slot _ inText held none _ => exact .inr (.inr ⟨_, inText, held ▸ none⟩)

/-- Slots are those of one name only. -/
theorem Names.unique {other : String} (h : Names s.arena name length file)
    (hother : Names s.arena name length other) : other = file := by
  have hread := requestedName_eq_ok_iff.mpr h
  rw [requestedName_eq_ok_iff.mpr hother] at hread
  exact Except.ok.inj hread

end Naming

/-! ## Answers -/

/-- The guest gets its allocator's answer back. -/
theorem Allocation.Granted.toInt32_eq {malloc : Int32 → Action Trap σ Int32} {slots : Nat}
    {s t : Session σ} {raw : Int32} {p : Pointer} (h : Granted malloc slots s raw p t) :
    p.toInt32 = raw := by
  have hoffset := Pointer.offset_ofInt32 h.grants.1.le
  have hp : p = .ofInt32 raw :=
    Pointer.offset_injective (Int.ofNat_inj.mp (h.offset.trans hoffset.symm))
  rw [hp]
  exact Int32.toInt32_toUInt32 raw

/-- No block is granted at zero, so a granted address is told from a missing text. -/
theorem Allocation.Granted.ne_zero {malloc : Int32 → Action Trap σ Int32} {slots : Nat}
    {s t : Session σ} {raw : Int32} {p : Pointer} (h : Granted malloc slots s raw p t) :
    raw ≠ 0 := by
  rintro rfl
  exact absurd h.grants.1 (by decide)

namespace HostCall

variable {re : Reentry σ} {s : Session σ} {name length : Int32} {file text : String}
  {load : String → Option String}

/-- A name that cannot be read is reported, and that is all. -/
theorem answerTextFile_of_unreadable {detail : String}
    (h : Unreadable s.arena name length detail) (re : Reentry σ) :
    answerTextFile re name length s =
      .ok 0 (s.emit (.failure ⟨"core", "loadTextFile", .decode, detail⟩)) := by
  rw [answerTextFile, requestedName_eq_error_iff.mpr h]
  rfl

/-- Without a loader nobody is asked. -/
theorem answerTextFile_of_no_loader (hname : Names s.arena name length file)
    (hloader : s.environment.loader = none) (re : Reentry σ) :
    answerTextFile re name length s = .ok 0 s := by
  simp only [answerTextFile, requestedName_eq_ok_iff.mpr hname, Session.loadText, hloader]

/-- The loader is asked for the name; a text that it does not know is not reported. -/
theorem answerTextFile_of_unknown (hname : Names s.arena name length file)
    (hloader : s.environment.loader = some load) (hload : load file = none) (re : Reentry σ) :
    answerTextFile re name length s = .ok 0 (s.emit (.textRequested file)) := by
  simp only [answerTextFile, requestedName_eq_ok_iff.mpr hname, Session.loadText, hloader, hload]

/-- A text is placed in a block that the guest grants once the loader was asked. -/
theorem answerTextFile_of_text (hname : Names s.arena name length file)
    (hloader : s.environment.loader = some load) (hload : load file = some text) :
    answerTextFile re name length s =
      match Allocation.writeText re.malloc text (s.emit (.textRequested file)) with
      | .ok p t => .ok p.toInt32 t
      | .error e t => .error (.host e) t := by
  cases hwritten : Allocation.writeText re.malloc text (s.emit (.textRequested file)) <;>
    simp only [answerTextFile, requestedName_eq_ok_iff.mpr hname, Session.loadText, hloader, hload,
      hwritten]

/-- A text that exists is handed over at an address that is not zero, or traps. -/
theorem answerTextFile_granted_or_refused (re : Reentry σ)
    (hname : Names s.arena name length file)
    (hloader : s.environment.loader = some load) (hload : load file = some text) :
    let asked := s.emit (.textRequested file)
    (∃ raw p u t, answerTextFile re name length s = .ok raw t ∧ raw ≠ 0 ∧
      Allocation.Granted re.malloc (Slots.count text) asked raw p u ∧
      Allocation.Filled text p u t) ∨
    ∃ e t, answerTextFile re name length s = .error (.host e) t ∧
      Allocation.Refused re.malloc (Slots.count text) asked e t := by
  intro asked
  rw [answerTextFile_of_text hname hloader hload]
  -- Zero is left to the other cases: the text is placed, or the guest traps.
  cases hwritten : Allocation.writeText re.malloc text asked with
  | ok p t =>
    obtain ⟨raw, u, hgranted, rfl⟩ := Allocation.writeText_eq_ok_iff.mp hwritten
    refine .inl ⟨raw, p, u, _, ?_, hgranted.ne_zero, hgranted,
      Allocation.filled_stored hgranted.fits⟩
    rw [← hgranted.toInt32_eq]
  | error e t => exact .inr ⟨e, t, rfl, Allocation.writeText_eq_error_iff.mp hwritten⟩

end HostCall

/-- **A request for a text file is answered by zero exactly when there is no text.** Whatever the
arena holds, and for all numbers that the guest gives as address and length:

* the guest names no file exactly when the length is negative, the slots leave the arena or one of
  them holds no character; otherwise they name exactly one;
* without a name the answer is zero and one report says why. It is the same for every bridge back
  into the guest, and the session is otherwise as it was: nobody asked the loader, and the allocator
  did not run;
* with a name the loader, if there is one, is asked for it once. If there is no text the answer is
  zero, again for every bridge, and nothing but the request is shown;
* a text is either placed in the block that the allocator granted when it was asked next, and the
  answer is the address of that block and not zero, or the allocation fails and the guest traps with
  its error;
* so zero means that there is no text. -/
theorem text_file_answers_zero_iff_no_text (s : Session σ) (name length : Int32) :
    let answer (re : Reentry σ) := HostCall.answerTextFile re name length s
    (Nameless s.arena name length ∨ ∃! file, Names s.arena name length file) ∧
    (Nameless s.arena name length → ∃ detail, Unreadable s.arena name length detail ∧
      ∀ re, answer re =
        .ok 0 (s.emit (.failure ⟨"core", "loadTextFile", .decode, detail⟩))) ∧
    (∀ file, Names s.arena name length file → ¬ Nameless s.arena name length ∧
      (s.environment.loader = none → ∀ re, answer re = .ok 0 s) ∧
      ∀ load, s.environment.loader = some load →
        let asked := s.emit (.textRequested file)
        (load file = none → ∀ re, answer re = .ok 0 asked) ∧
        ∀ text, load file = some text → ∀ re,
          (∃ raw p u t, answer re = .ok raw t ∧ raw ≠ 0 ∧
            Allocation.Granted re.malloc (Slots.count text) asked raw p u ∧
            Allocation.Filled text p u t) ∨
          ∃ e t, answer re = .error (.host e) t ∧
            Allocation.Refused re.malloc (Slots.count text) asked e t) ∧
    ∀ re, (∃ t, answer re = .ok 0 t) ↔ ¬ ∃ text, Provides s name length text := by
  intro answer
  refine ⟨?names, fun hnameless => ?unreadable, fun file hname => ⟨?named, ?absent, ?loader⟩,
    fun re => ⟨?sound, ?complete⟩⟩
  case names =>
    rw [nameless_iff]
    refine (em' _).imp_right fun ⟨file, hname⟩ => ⟨file, hname, fun other => hname.unique⟩
  case unreadable =>
    cases hread : HostCall.requestedName s name length with
    | ok file => exact absurd ⟨file, requestedName_eq_ok_iff.mp hread⟩ (nameless_iff.mp hnameless)
    | error detail =>
      have hdetail := requestedName_eq_error_iff.mp hread
      exact ⟨detail, hdetail, HostCall.answerTextFile_of_unreadable hdetail⟩
  case named => exact fun hnameless => nameless_iff.mp hnameless ⟨file, hname⟩
  case absent => exact fun hloader => HostCall.answerTextFile_of_no_loader hname hloader
  case loader =>
    intro load hloader
    exact ⟨HostCall.answerTextFile_of_unknown hname hloader,
      fun text hload re => HostCall.answerTextFile_granted_or_refused re hname hloader hload⟩
  case sound =>
    rintro ⟨t, hzero⟩ ⟨text, file, load, hname, hloader, hload⟩
    -- a text that is there is answered by its address or by a trap
    rcases HostCall.answerTextFile_granted_or_refused re hname hloader hload with
      ⟨raw, p, u, t', hanswer, hne, -⟩ | ⟨e, t', herror, -⟩
    · cases hanswer.symm.trans hzero
      exact hne rfl
    · cases herror.symm.trans hzero
  case complete =>
    intro hnone
    -- Along the three stages: the name, the loader, its answer.
    cases hread : HostCall.requestedName s name length with
    | error detail =>
      exact ⟨_, HostCall.answerTextFile_of_unreadable (requestedName_eq_error_iff.mp hread) re⟩
    | ok file =>
      have hname := requestedName_eq_ok_iff.mp hread
      cases hloader : s.environment.loader with
      | none => exact ⟨s, HostCall.answerTextFile_of_no_loader hname hloader re⟩
      | some load =>
        cases hload : load file with
        | none => exact ⟨_, HostCall.answerTextFile_of_unknown hname hloader hload re⟩
        | some text => exact absurd ⟨text, file, load, hname, hloader, hload⟩ hnone

/-! ## A guest that asks for a file -/

/-- The name of a file, closed by zero, and a surrogate behind it. -/
def shelf : Session Unit :=
  let load (name : String) : Option String := if name = "n" then some "hi" else none
  (Session.initial ⟨some load, 0, 0, fun _ => ⟨0⟩⟩ 1 ()).stored ⟨8⟩
    (Slots.encode "n" ++ Word.toBytes Slots.slotBytes 0xD800)

/-- One slot names the file, and its text is placed where the allocator says. Three slots reach the
surrogate. -/
theorem text_file_answers_zero_iff_no_text_shelf :
    let re := Reentry.level (fun _ => (pure 4096 : Code Unit Int32)) 1
    Names shelf.arena 8 1 "n" ∧ Nameless shelf.arena 8 3 ∧
      (∃ t, HostCall.answerTextFile re 8 1 shelf = .ok 4096 t ∧
        t.arena.memory.slots 4096 3 = [104, 105, 0]) ∧
      ∃ detail, HostCall.answerTextFile re 8 3 shelf =
        .ok 0 (shelf.emit (.failure ⟨"core", "loadTextFile", .decode, detail⟩)) := by
  intro re
  have hname : Names shelf.arena 8 1 "n" := requestedName_eq_ok_iff.mp (by decide +kernel)
  have hnameless : Nameless shelf.arena 8 3 := .inr (.inr ⟨2, by decide +kernel⟩)
  obtain ⟨-, -, hnamed, -⟩ := text_file_answers_zero_iff_no_text shelf 8 1
  obtain ⟨-, hunnamed, -⟩ := text_file_answers_zero_iff_no_text shelf 8 3
  obtain ⟨detail, -, hreported⟩ := hunnamed hnameless
  refine ⟨hname, hnameless, ?_, detail, hreported re⟩
  obtain ⟨-, -, hloaded⟩ := hnamed _ hname
  rcases (hloaded _ rfl).2 "hi" rfl re with
    ⟨raw, p, u, t, hanswer, -, hgranted, hfilled⟩ | ⟨e, t, -, hrefused⟩
  · have hran := hgranted.answer
    cases hran
    refine ⟨t, hanswer, ?_⟩
    have hslots := hfilled.inside
    have hoffset : p.offset = 4096 := Int.ofNat_inj.mp hgranted.offset
    rw [hoffset] at hslots
    exact hslots
  · cases hrefused with
    | tooMany hmax => exact absurd hmax (by decide)
    | trapped _ hran => cases hran
    | ungranted _ hran hnone =>
      cases hran
      exact absurd (by decide) hnone

end GuestBridge
