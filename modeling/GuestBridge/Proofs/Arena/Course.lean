import GuestBridge.Proofs.Arena.Ledger
/-!
# The log of a history is its course

The records of a history account for every change of the arena: between one record and the next the
arena changes as the effect of the later one says, and not at all before the first and after the
last (`Course`). So a byte that no effect covers is what it was, wherever the records come from:
guest code, callbacks, or the host.

The proof goes along the definitions of the records, one lemma a clause; each says that a list of
records is the course of an action (`Action.Logged`), whether the action succeeds or not.

## Main statements

* **`Course.byteAt_eq`** — a byte that no effect covers is kept;
* **`Guest.run_logged`** — the log of guest code that is called by the host;
* **`Scheduler.log_course`** — the log of a history.
-/

namespace GuestBridge

variable {ε ε' σ α β : Type}

/-! ## Courses -/

namespace Effect

/-- The effect covers a byte. -/
def Covers : Effect → Nat → Prop
  | granted p content, i => (Block.granted p content.slots).Contains i
  | written range, i => range.Contains i
  | kept, _ => False

/-- The effect accounts for all that differs between two arenas. A block that is granted lies in the
arena and holds its content. -/
structure Explains (e : Effect) (a b : Arena) : Prop where
  size_le : a.size ≤ b.size
  byteAt_eq : ∀ i, ¬ e.Covers i → b.memory.byteAt i = a.memory.byteAt i
  filled : ∀ p content, e = .granted p content →
    p.offset + Slots.slotBytes * content.slots ≤ b.size ∧
      b.memory.read p.offset content.bytes.length = content.bytes

/-- No byte changes, and the arena may have grown. -/
theorem Explains.kept {a b : Arena} (hsize : a.size ≤ b.size)
    (hbytes : ∀ i, b.memory.byteAt i = a.memory.byteAt i) : Effect.kept.Explains a b where
  size_le := hsize
  byteAt_eq i _ := hbytes i
  filled p content h := by cases h

/-- What leaves the arena as it is needs no account. -/
theorem Explains.still (a : Arena) : Effect.kept.Explains a a := .kept (Nat.le_refl _) fun _ => rfl

/-- A store accounts for the range that it writes. -/
theorem Explains.written (a : Arena) (offset : Nat) (bytes : List UInt8) :
    (Effect.written ⟨offset, bytes.length⟩).Explains a
      { a with memory := a.memory.write offset bytes } where
  size_le := (Memory.size_write ..).ge
  byteAt_eq i hi := (Memory.byteAt_write ..).trans (if_neg hi)
  filled p content h := by cases h

/-- A block that was granted and filled: the bytes of the content lie inside the block, so those
outside it are as they were. -/
theorem Explains.granted {s : Session σ} {p : Pointer} {content : Content}
    (h : p.offset + Slots.slotBytes * content.slots ≤ s.arena.size)
    (hlength : content.bytes.length ≤ Slots.slotBytes * content.slots) :
    (Effect.granted p content).Explains s.arena (s.stored p content.bytes).arena where
  size_le := (s.size_stored p content.bytes).ge
  byteAt_eq i hi := by
    refine s.byteAt_stored_of_outside p content.bytes fun hin => hi ⟨hin.1, ?_⟩
    have hlt := hin.2
    simp only [Block.granted]
    omega
  filled q other heq := by
    cases heq
    exact ⟨h.trans (s.size_stored p content.bytes).ge, s.read_stored p content.bytes⟩

end Effect

/-- The records account for the arena's way from `a` to `b`. -/
inductive Course : Arena → List (Record σ) → Arena → Prop
  | done (a : Arena) : Course a [] a
  | next {a b : Arena} {r : Record σ} {log : List (Record σ)}
      (first : r.effect.Explains a r.session.arena) (rest : Course r.session.arena log b) :
      Course a (r :: log) b

namespace Course

variable {a b c : Arena} {log log' : List (Record σ)} {r : Record σ}

/-- One record is a course if its effect accounts for the change. -/
theorem single (h : r.effect.Explains a r.session.arena) : Course a [r] r.session.arena :=
  .next h (.done _)

theorem append (h : Course a log b) (h' : Course b log' c) : Course a (log ++ log') c := by
  -- Induction on the first course: the second begins where it is done.
  induction h with
  | done a => exact h'
  | next first _ ih => exact .next first (ih h')

/-- A course can be cut between any two of its records. -/
theorem split (h : Course a (log ++ log') c) : ∃ b, Course a log b ∧ Course b log' c := by
  -- Induction on the records in front of the cut.
  induction log generalizing a with
  | nil => exact ⟨a, .done a, h⟩
  | cons r rest ih =>
    cases h with
    | next first h =>
      obtain ⟨b, hrest, hlog'⟩ := ih h
      exact ⟨b, .next first hrest, hlog'⟩

theorem size_le (h : Course a log b) : a.size ≤ b.size := by
  induction h with
  | done a => exact Nat.le_refl _
  | next first _ ih => exact first.size_le.trans ih

/-- A byte that no effect covers is kept. -/
theorem byteAt_eq (h : Course a log b) {i : Nat} (hi : ∀ r ∈ log, ¬ r.effect.Covers i) :
    b.memory.byteAt i = a.memory.byteAt i := by
  -- Induction on the course: the byte is kept by the first effect, and by those behind it.
  induction h with
  | done a => rfl
  | next first _ ih =>
    obtain ⟨hfirst, hrest⟩ := List.forall_mem_cons.mp hi
    exact (ih hrest).trans (first.byteAt_eq i hfirst)

end Course

/-! ## Actions -/

/-- The records account for what an action does, whether it succeeds or not. -/
def Action.Logged (log : Session σ → List (Record σ)) (a : Action ε σ α) : Prop :=
  ∀ s, Course s.arena (log s) (Outcome.state (a s)).arena

/-- An action leaves the arena alone. -/
def Action.Still (a : Action ε σ α) : Prop := ∀ s, (Outcome.state (a s)).arena = s.arena

namespace Action.Logged

variable {a : Action ε σ α} {f : α → Action ε σ β} {log : Session σ → List (Record σ)}
  {logs : α → Session σ → List (Record σ)}

/-- An action that leaves the arena alone has nothing to record. -/
theorem of_still (h : Action.Still a) : Action.Logged (fun _ => []) a := by
  intro s
  rw [h s]
  exact .done _

/-- The records of a sequence are those of its first part and, if that succeeds, of the rest. -/
theorem bind (ha : Action.Logged log a) (hf : ∀ r, Action.Logged (logs r) (f r)) :
    Action.Logged (fun s => log s ++ Record.next logs (a s)) (a >>= f) := by
  intro s
  have hs := ha s
  show Course s.arena (log s ++ Record.next logs (a s)) (Outcome.state ((a >>= f) s)).arena
  rw [Outcome.bind_apply]
  cases h : a s with
  | ok r t =>
    rw [h] at hs
    exact hs.append (hf r t)
  | error e t =>
    rw [h] at hs
    rwa [Record.next, List.append_nil]

/-- What leaves the arena alone needs no record. -/
theorem bind_still (ha : Action.Logged log a) (hf : ∀ r, Action.Still (f r)) :
    Action.Logged log (a >>= f) := by
  intro s
  have hs := ha s
  rw [Outcome.bind_apply]
  cases h : a s with
  | ok r t =>
    rw [h] at hs
    show Course s.arena (log s) (Outcome.state (f r t)).arena
    rw [hf r t]
    exact hs
  | error e t => rwa [h] at hs

theorem mapError (ha : Action.Logged log a) (g : ε → ε') : Action.Logged log (a.mapError g) := by
  intro s
  rw [Outcome.state_renamed]
  exact ha s

/-- An error that is delivered as a value leaves the arena as it was thrown in. -/
theorem attempt (ha : Action.Logged log a) (s : Session σ) :
    Course s.arena (log s) (a.attempt s).2.arena := by
  rw [Outcome.state_attempt]
  exact ha s

end Action.Logged

namespace Record

/-- A record holds the session just after its operation. -/
theorem session_of (effect : α → Effect) (r : EStateM.Result ε (Session σ) α) :
    (of effect r).session = Outcome.state r := by
  cases r with
  | ok r t => rfl
  | error e t => rfl

theorem next_mapError (next : α → Session σ → List (Record σ)) (a : Action ε σ α) (g : ε → ε')
    (s : Session σ) : Record.next next (a.mapError g s) = Record.next next (a s) := by
  unfold Action.mapError
  cases a s with
  | ok r t => rfl
  | error e t => rfl

end Record

/-- An operation whose own effect is recorded last. -/
theorem Course.snoc_of {a : Arena} {s : Session σ} {log : List (Record σ)}
    {r : EStateM.Result ε (Session σ) α} {effect : α → Effect} (h : Course a log s.arena)
    (hlast : (Record.of effect r).effect.Explains s.arena (Outcome.state r).arena) :
    Course a (log ++ [.of effect r]) (Outcome.state r).arena := by
  have hsession := Record.session_of effect r
  rw [← hsession] at hlast ⊢
  exact h.append (.single hlast)

/-! ## What leaves the arena alone -/

namespace Session

theorem arena_emit (s : Session σ) (e : Event) : (s.emit e).arena = s.arena := rfl

theorem arena_print (s : Session σ) (text : String) : (s.print text).arena = s.arena := by
  rw [print_eq]

theorem arena_loadText (s : Session σ) (name : String) : (s.loadText name).2.arena = s.arena := by
  unfold loadText
  cases s.environment.loader with
  | none => rfl
  | some load => rfl

theorem arena_requestStop (s : Session σ) (handle : StopHandle) :
    (s.requestStop handle).arena = s.arena := by
  unfold requestStop
  split
  · rfl
  · rfl

theorem arena_setRunState (s : Session σ) (state : RunState) :
    (s.setRunState state).arena = s.arena := by
  unfold setRunState
  split
  · rfl
  · rfl

end Session

/-! ## Placing -/

namespace Content

/-- A content fits the block that is asked for it. -/
theorem length_bytes_le (content : Content) :
    content.bytes.length ≤ Slots.slotBytes * content.slots := by
  cases content with
  | vacant slots => exact Nat.zero_le _
  | text t => exact (Slots.length_encode t).le
  | descriptor name signature => exact (Descriptor.length_encode name signature).le

variable {malloc : Int32 → Action Trap σ Int32} {content : Content} {s t : Session σ}

/-- A block that is granted is filled, whatever the content. -/
theorem place_of_allocate {p : Pointer} (h : Allocation.allocate malloc content.slots s = .ok p t) :
    content.place malloc s = .ok p (t.stored p content.bytes) := by
  cases content with
  | vacant slots => exact h
  | text t => exact Allocation.fill_of_allocate h (Slots.length_encode t)
  | descriptor name signature =>
    exact Allocation.fill_of_allocate h (Descriptor.length_encode name signature)

/-- Where no block is granted, nothing is written. -/
theorem place_of_no_block {e : BridgeError}
    (h : Allocation.allocate malloc content.slots s = .error e t) :
    content.place malloc s = .error e t := by
  have hbind {f : Pointer → Action BridgeError σ Pointer} :
      (Allocation.allocate malloc content.slots >>= f) s = .error e t := by
    rw [Outcome.bind_apply, h]
  cases content with
  | vacant slots => exact h
  | text t => exact hbind
  | descriptor name signature => exact hbind

/-- What the guest's allocator does is all that happens before a block is filled. -/
theorem asked_logged {log : Int32 → Session σ → List (Record σ)}
    (hmalloc : ∀ n, Action.Logged (log n) (malloc n)) (slots : Nat) :
    Action.Logged
      (fun s => if Allocation.maxSlots < slots then [] else log (Int32.ofNat slots) s)
      (Allocation.allocate malloc slots) := by
  unfold Allocation.allocate
  by_cases hmax : Allocation.maxSlots < slots
  · simp only [if_pos hmax]
    exact .of_still fun s => rfl
  · simp only [if_neg hmax]
    refine ((hmalloc _).mapError _).bind_still fun raw s => ?_
    have hget : (get : Action BridgeError σ (Session σ)) s = .ok s s := rfl
    rw [Outcome.bind_apply, hget]
    dsimp only
    cases Allocation.granted? s.arena.size slots raw with
    | some p => rfl
    | none => rfl

/-- Placing a content is what the allocator does, and then the filling of the block. -/
theorem place_logged {log : Int32 → Session σ → List (Record σ)}
    (hmalloc : ∀ n, Action.Logged (log n) (malloc n)) (content : Content) :
    Action.Logged (content.placing malloc log) (content.place malloc) := by
  intro s
  have hasked := asked_logged hmalloc content.slots s
  refine Course.snoc_of hasked ?_
  -- the last record is the content, unless no block was granted
  cases h : Allocation.allocate malloc content.slots s with
  | ok p t =>
    rw [place_of_allocate h]
    exact .granted (Allocation.fits_of_allocate h) content.length_bytes_le
  | error e t =>
    rw [place_of_no_block h]
    exact .still _

end Content

/-! ## Guest code and callbacks -/

/-- The records of a ledger account for what is run through a reentry. -/
structure Reentry.Logged (l : Ledger σ) (re : Reentry σ) : Prop where
  malloc : ∀ slots, Action.Logged (l.malloc slots) (re.malloc slots)
  callback : ∀ function body, Action.Logged (l.callback function body) (re.callback function body)

namespace Ledger

variable {l : Ledger σ} {re : Reentry σ}

/-- An external call does what its callback does, and nothing if it is refused. -/
theorem externalCall_logged (h : Reentry.Logged l re) (call : ExternalCall) :
    Action.Logged (l.externalCall call) (call.run re.callback) := by
  intro s
  unfold Ledger.externalCall ExternalCall.run
  cases call.resolve s with
  | error e => exact .done _
  | ok request =>
    obtain ⟨f, args⟩ := request
    -- setting the guard and releasing it leaves the arena alone
    dsimp only
    rw [ExternalCall.state_guarded]
    exact h.callback f.name (f.callback args) { s with inExternalCall := true }

/-- A host import does what its callback or its allocation does. -/
theorem hostCall_logged (h : Reentry.Logged l re) (call : HostCall) :
    Action.Logged (l.hostCall re call) (call.answer re) := by
  have htext (text : String) :
      Action.Logged (l.placing re (.text text)) (Allocation.writeText re.malloc text) :=
    Content.place_logged h.malloc (.text text)
  cases call with
  | external call =>
    intro s
    have hcall := externalCall_logged h call s
    show Course s.arena _ (Outcome.state (HostCall.answerExternal re call s)).arena
    -- A report may be added behind the call, but it is no change of the arena.
    rcases HostCall.state_answerExternal re s call with hstate | ⟨failure, hstate⟩
    · rw [hstate]
      exact hcall
    · rw [hstate, Session.arena_emit]
      exact hcall
  | floatToString v digits =>
    intro s
    have hwrite := htext (v.fixed digits) s
    show Course s.arena _ (Outcome.state (HostCall.answerFloatText re v digits s)).arena
    rcases HostCall.state_answerFloatText re s v digits with hstate | ⟨failure, hstate⟩
    · rw [hstate]
      exact hwrite
    · rw [hstate, Session.arena_emit]
      exact hwrite
  | loadTextFile name length =>
    intro s
    show Course s.arena _ (Outcome.state (HostCall.answerTextFile re name length s)).arena
    cases hname : HostCall.requestedName s name length with
    | error detail =>
      simp only [Ledger.hostCall, HostCall.answerTextFile, hname]
      exact .done _
    | ok file =>
      -- Loading a text leaves the arena alone; only placing it is recorded.
      have hload := s.arena_loadText file
      cases hfound : s.loadText file with
      | mk found t =>
        rw [hfound] at hload
        simp only [Ledger.hostCall, hname, hfound]
        cases found with
        | none =>
          have hstate : Outcome.state (HostCall.answerTextFile re name length s) = t := by
            simp only [HostCall.answerTextFile, hname, hfound, Outcome.state]
          rw [hstate, hload]
          exact .done _
        | some text =>
          have hwrite := htext text t
          rw [HostCall.state_answerTextFile re hname hfound]
          rwa [hload] at hwrite
  | putChar code => exact .of_still fun s => rfl
  | printDouble v => exact .of_still fun s => s.arena_print _
  | date | time | unary _ _ | binary _ _ _ | test _ _ | random => exact .of_still fun s => rfl

/-- The record of an operation comes behind those of what it runs. -/
theorem guestOp_logged (h : Reentry.Logged l re) (op : Code.Op σ) :
    Action.Logged (l.guestOp re op) (Code.answer re op) := by
  intro s
  have still {t : Session σ} (ht : t.arena = s.arena) : Effect.kept.Explains s.arena t.arena := by
    rw [ht]
    exact .still _
  cases op with
  | host call =>
    -- all that the import does is recorded inside, so its own record finds nothing changed
    refine Course.snoc_of (s := Outcome.state (call.answer re s)) (hostCall_logged h call s) ?_
    have hkept : (Record.of (fun _ => Effect.kept) (call.answer re s)).effect = .kept := by
      cases call.answer re s with
      | ok r t => rfl
      | error e t => rfl
    show (Record.of (fun _ => Effect.kept) (call.answer re s)).effect.Explains _ _
    rw [hkept]
    exact .still _
  | store address bytes =>
    refine Course.snoc_of (.done _) ?_
    simp only [Code.answer]
    by_cases hfits : s.arena.memory.holds address bytes.length = true
    · rw [if_pos hfits]
      exact .written s.arena address bytes
    · rw [if_neg hfits]
      exact still rfl
  | grow pages =>
    refine Course.snoc_of (.done _) ?_
    simp only [Code.answer]
    cases hgrow : s.arena.grow? pages with
    | none => exact still rfl
    | some arena =>
      refine .kept (Arena.size_le_of_grow? hgrow) fun i => ?_
      show arena.memory.byteAt i = _
      rw [Arena.eq_extended_of_grow? hgrow, Arena.byteAt_extended]
  | load address length =>
    refine Course.snoc_of (.done _) ?_
    simp only [Code.answer]
    split
    · exact still rfl
    · exact still rfl
  | getState | setState _ | memoryPages | trap => exact Course.snoc_of (.done _) (still rfl)

/-- A write of the host or of a callback is recorded with its range. -/
theorem write_logged (p : Pointer) (bytes : List UInt8) :
    Action.Logged
      (fun s => [.of (fun _ => .written ⟨p.offset, bytes.length⟩) (Action.writeMemory p bytes s)])
      (Action.writeMemory p bytes : Action BridgeError σ Unit) := by
  intro s
  refine Course.snoc_of (.done _) ?_
  unfold Action.writeMemory Arena.write
  cases (Slots.checkRange s.arena.memory p.offset bytes.length).mapError BridgeError.codec with
  | ok _ => exact .written s.arena p.offset bytes
  | error e => exact .still _

/-- The operations of a callback never fail as such, so each has a course to its end. -/
theorem callbackOp_course (h : Reentry.Logged l re) (function : String) (op : Callback.Op)
    (s : Session σ) :
    Course s.arena (l.callbackOp re function op s) (Callback.answer re function op s).2.arena := by
  have hplace (content : Content) :
      Course s.arena (l.placing re content s) ((content.place re.malloc).attempt s).2.arena :=
    (Content.place_logged h.malloc content).attempt s
  have still {t : Session σ} (ht : t.arena = s.arena) : Course s.arena [⟨.kept, t⟩] t.arena := by
    refine .single (r := ⟨.kept, t⟩) ?_
    rw [ht]
    exact .still _
  cases op with
  | allocate slots => exact hplace (.vacant slots)
  | allocateText text => exact hplace (.text text)
  | write p bytes => exact (write_logged p bytes).attempt s
  | invoke id args =>
    -- the callback that is invoked has records of its own, and the operation adds none
    simp only [Ledger.callbackOp, Callback.answer, Outcome.state_attempt]
    refine .append (b := (Outcome.state (Callback.invoked re function id args s)).arena) ?_
      (.single (.still _))
    unfold Callback.invoked
    cases s.table.get? id with
    | none => exact .done _
    | some f => exact h.callback function (f.callback args) s
  | print text => exact still (s.arena_print text)
  | loadText name => exact still (s.arena_loadText name)
  | requestStop handle => exact still (s.arena_requestStop handle)
  | readText _ _ | function | functionCount | runState | vsync | screen _ | note _ =>
    exact still rfl

/-- The records of a program account for what it does: those of each operation, one after the
other. -/
theorem code_logged (h : Reentry.Logged l re) (code : Code σ α) :
    Action.Logged (l.code re code) (code.exec re) := by
  -- Induction on the program: an operation that fails is the last one.
  induction code with
  | done r => exact .of_still fun s => rfl
  | perform op next ih =>
    intro s
    have hop := guestOp_logged h op s
    show Course s.arena _
      (Outcome.state ((Code.answer re op >>= fun r => Code.exec re (next r)) s)).arena
    rw [Outcome.bind_apply, Ledger.code, Program.visits]
    cases hanswer : Code.answer re op s with
    | ok r t =>
      rw [hanswer] at hop
      exact hop.append (ih r t)
    | error e t =>
      rw [hanswer] at hop
      exact hop.append (.done _)

/-- The records of a callback account for its program, operation by operation. -/
theorem body_course (h : Reentry.Logged l re) (function : String)
    (p : Program Callback.Reply α) (s : Session σ) :
    Course s.arena
      (p.visits (l.callbackOp re function) (fun op s => some (Callback.answer re function op s)) s)
      (p.run (Callback.answer re function) s).2.arena := by
  induction p generalizing s with
  | done r => exact .done _
  | perform op next ih => exact (callbackOp_course h function op s).append (ih _ _)

theorem body_logged (h : Reentry.Logged l re) (function : String) (body : Callback Unit) :
    Action.Logged (l.body re function body) (Callback.exec re function body) := by
  intro s
  rw [Callback.state_exec]
  exact body_course h function body.run s

theorem exhausted_logged : Reentry.Logged (exhausted : Ledger σ) .exhausted where
  malloc _ := .of_still fun _ => rfl
  callback _ _ := .of_still fun _ => rfl

/-- At every depth the records account for what the allocator and the callbacks do. -/
theorem level_logged (malloc : Int32 → Code σ Int32) (depth : Nat) :
    Reentry.Logged (level malloc depth) (.level malloc depth) := by
  -- Induction on the depth: a level runs programs by the level below.
  induction depth with
  | zero => exact ⟨fun _ => .of_still fun _ => rfl, body_logged exhausted_logged⟩
  | succ depth ih => exact ⟨fun slots => code_logged ih (malloc slots), body_logged ih⟩

end Ledger

/-! ## Operations of the host -/

namespace Guest

variable {g : Guest σ}

/-- The log of guest code that is called by the host accounts for it. -/
theorem run_logged (g : Guest σ) (code : Code σ α) : Action.Logged (g.log code) (g.run code) :=
  Ledger.code_logged (Ledger.level_logged g.entry.malloc callDepth) code

theorem place_logged (g : Guest σ) (content : Content) :
    Action.Logged (g.placing content) (g.place content) :=
  Content.place_logged (fun slots => g.run_logged (g.entry.malloc slots)) content

/-- A description places a name, and then a descriptor. -/
theorem describe_logged (g : Guest σ) (f : ExternalFunction) :
    Action.Logged (g.describing f) (g.describe f) :=
  (g.place_logged (.text f.name)).bind fun name => g.place_logged (.descriptor name f.signature)

/-- A registration records what the description and the entry point do; the table is no part of the
arena. -/
theorem register_logged (g : Guest σ) (f : ExternalFunction) :
    Action.Logged (g.registering f) (g.register f) := by
  refine (g.describe_logged f).bind fun p => ?_
  refine ((g.run_logged (g.entry.registerFunction p.toInt32)).mapError _).bind_still fun raw s => ?_
  cases FunctionId.ofRaw? raw with
  | none => rfl
  | some id =>
    simp only [Outcome.bind_apply, record]
    cases s.table.insert id f with
    | ok table => rfl
    | error e => rfl

/-- A bulk registration records each registration that it makes. -/
theorem registerWhile_logged (g : Guest σ) (goesOn : BridgeError → Bool)
    (fs : List ExternalFunction) :
    Action.Logged (g.registeringWhile goesOn fs) (g.registerWhile goesOn fs) := by
  -- Induction on the list, along `registerWhile`: after an error it goes on or is done.
  induction fs with
  | nil => exact .of_still fun s => rfl
  | cons f rest ih =>
    intro s
    have hone := g.register_logged f s
    unfold registeringWhile registerWhile
    cases h : g.register f s with
    | ok id t =>
      rw [h] at hone
      dsimp only
      rw [Outcome.state_map]
      exact hone.append (ih t)
    | error e t =>
      rw [h] at hone
      dsimp only
      cases goesOn e with
      | true => exact hone.append (ih t)
      | false => exact hone.append (.done _)

/-- Handing over a program places two texts and runs the entry point of the guest. -/
theorem setSource_logged (g : Guest σ) (slot : Int32) (file source : String) :
    Action.Logged (g.settingSource slot file source) (g.setSource slot file source) := by
  have htext (text : String) :
      Action.Logged (g.placing (.text text)) ((g.allocateText text).mapError RuntimeError.bridge) :=
    (g.place_logged (.text text)).mapError _
  -- the records do not depend on how an error is named
  have hrecords : g.settingSource slot file source = fun s =>
      g.placing (.text file) s ++
        Record.next (fun p t =>
          g.placing (.text source) t ++
            Record.next (fun q => g.log (g.entry.setSource slot p.toInt32 q.toInt32))
              ((g.allocateText source).mapError RuntimeError.bridge t))
          ((g.allocateText file).mapError RuntimeError.bridge s) := by
    funext s
    simp only [Record.next_mapError]
    rfl
  rw [hrecords]
  refine (htext file).bind fun p => (htext source).bind fun q => ?_
  refine ((g.run_logged _).mapError _).bind_still fun accepted s => ?_
  split
  · exact s.arena_setRunState .stopped
  · rfl

/-- A call of an export records what its code does, and nothing if there is no such export. -/
theorem call_logged (g : Guest σ) (name : String) (operands : List Operand) :
    Action.Logged (g.calling name operands) (g.call name operands) := by
  have hthrow (e : RuntimeError) :
      Action.Logged (fun _ => []) (throw e : Action RuntimeError σ (List Operand)) :=
    .of_still fun _ => rfl
  intro s
  unfold calling call
  cases Export.find? g.exports name with
  | none => exact hthrow _ s
  | some e =>
    cases e with
    | function type code =>
      dsimp only
      by_cases htypes : operands.map Operand.type = type.params
      · rw [if_pos htypes, if_pos htypes]
        exact (g.run_logged (code operands)).mapError _ s
      · rw [if_neg htypes, if_neg htypes]
        exact hthrow _ s
    | global _ | table | memory => exact hthrow _ s

/-- A step records what the step function of the guest does. -/
theorem executeOneStep_logged (g : Guest σ) :
    Action.Logged (g.log g.entry.executeOneStep) g.executeOneStep :=
  ((g.run_logged _).mapError _).bind_still fun _ _ => rfl

end Guest

namespace Scheduler

variable {c : Scheduler σ}

/-- The steps of a batch are recorded one after the other. -/
theorem runSteps_course (c : Scheduler σ) (remaining done : Nat) (s : Session σ) :
    Course s.arena (c.stepping (c.guest.begun remaining s))
      (Outcome.state (c.runSteps remaining done s)).arena := by
  -- Induction on the steps that remain. A step that fails or halts is the last one, and what the
  -- host does then leaves the arena alone.
  induction remaining generalizing done s with
  | zero => exact .done _
  | succ remaining ih =>
    have hstep := c.guest.executeOneStep_logged s
    unfold runSteps Guest.begun stepping
    rw [List.flatMap_cons]
    cases h : c.guest.executeOneStep s with
    | error e t =>
      rw [h] at hstep
      refine hstep.append ?_
      show Course t.arena [] (t.setRunState .stopped).arena
      rw [t.arena_setRunState]
      exact .done _
    | ok more t =>
      rw [h] at hstep
      refine hstep.append ?_
      cases more with
      | true => exact ih (done + 1) t
      | false =>
        show Course t.arena [] ((t.setRunState .stopped).print prompt).arena
        rw [Session.arena_print, t.arena_setRunState]
        exact .done _

/-- A batch records its steps; showing, stopping and prompting leave the arena alone. -/
theorem runBatch_logged (c : Scheduler σ) :
    Action.Logged (fun s => c.stepping (c.batchCalls s)) c.runBatch := by
  intro s
  unfold runBatch batchCalls
  simp only
  split
  · show Course s.arena [] (((s.emit .vsync).clearStop c.stop).setRunState .stopped).arena
    rw [Session.arena_setRunState]
    exact .done _
  · split
    · exact c.runSteps_course c.stepsPerBatch 0 (s.emit .vsync)
    · exact .done _

/-- A run records the steps of its batches. -/
theorem runBatches_course (c : Scheduler σ) (limit batches steps : Nat) (s : Session σ) :
    Course s.arena (c.stepping (c.calls limit s))
      (Outcome.state (c.runBatches limit batches steps s)).arena := by
  -- Induction on the limit: only a batch that yields is followed by another one.
  induction limit generalizing batches steps s with
  | zero => exact .done _
  | succ limit ih =>
    have hbatch := c.runBatch_logged s
    unfold runBatches calls stepping
    rw [List.flatMap_append]
    cases h : c.runBatch s with
    | error e t =>
      rw [h] at hbatch
      exact hbatch.append (.done _)
    | ok outcome t =>
      rw [h] at hbatch
      refine hbatch.append ?_
      cases outcome with
      | yielded n => exact ih (batches + 1) (steps + n) t
      | halted n => exact .done _
      | stopped => exact .done _

theorem arena_started (c : Scheduler σ) (s : Session σ) : (c.started s).arena = s.arena := by
  unfold started
  split
  · rfl
  · exact Session.arena_setRunState _ _

/-- The records of an operation account for what it does, whether it succeeds or not. -/
theorem operating_course (c : Scheduler σ) (op : HostOperation) (s : Session σ) :
    Course s.arena (c.operating op s) (c.after op s).arena := by
  -- Operations without records change the run state or the requests.
  have still {t : Session σ} (ht : t.arena = s.arena) :
      Course s.arena ([] : List (Record σ)) t.arena := by
    rw [ht]
    exact .done _
  cases op with
  | register f => exact c.guest.register_logged f s
  | registerAll fs =>
    rw [after, Guest.registerAll_eq]
    exact c.guest.registerWhile_logged _ fs s
  | registerAvailable fs =>
    rw [after, Guest.registerAvailable_eq]
    exact c.guest.registerWhile_logged _ fs s
  | allocate slots => exact c.guest.place_logged (.vacant slots) s
  | allocateText text => exact c.guest.place_logged (.text text) s
  | writeMemory p bytes => exact Ledger.write_logged p bytes s
  | setSource slot file source => exact c.guest.setSource_logged slot file source s
  | executeOneStep =>
    have hone : c.stepping [s] = c.guest.log c.guest.entry.executeOneStep s := by
      rw [stepping, List.flatMap_singleton]
    rw [operating, hone]
    exact c.guest.executeOneStep_logged s
  | call name operands => exact c.guest.call_logged name operands s
  | runBatch => exact c.runBatch_logged s
  | runUntil limit =>
    have hrun := c.runBatches_course limit 0 0 (c.started s)
    rwa [c.arena_started] at hrun
  | setRunState state => exact still (s.arena_setRunState state)
  | requestStop handle => exact still (s.arena_requestStop handle)
  | start => exact still (c.arena_started s)
  | halt => exact still (s.arena_setRunState .stopped)

/-- The log of a history is its course. -/
theorem log_course (c : Scheduler σ) (ops : List HostOperation) (s : Session σ) :
    Course s.arena (c.log ops s) (c.history ops s).arena := by
  induction ops generalizing s with
  | nil => exact .done _
  | cons op rest ih => exact (c.operating_course op s).append (ih (c.after op s))

end Scheduler

end GuestBridge
