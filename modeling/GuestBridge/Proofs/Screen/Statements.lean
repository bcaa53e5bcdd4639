import GuestBridge.Proofs.Arena.Grants
import GuestBridge.Proofs.Nesting.TypedFunctions
import GuestBridge.Screen.Grid
/-!
# Statements change the screen in call order

A program draws in two ways: by output, and by external calls of the statements of the screen. Both
end up in the trace of the session, and the grid is what the trace makes of it. What is meant by the
program is said without a trace, a table or a frame: a list of acts on the grid (`Act.apply`), in
the order in which a run passes through the moments that draw them (`Drawing`).

Most moments draw nothing, but some of them run guest code of their own: an import that hands over a
text runs the guest's allocator, which may print and call in turn. So a run is followed through
every level (`Watch.Faithful`). The callback of a statement changes the screen or does nothing; it
never gets back into the guest.

## Main statements

* **`Statement.answer_of_called`** — a statement is answered by zero, and shows its change if it is
  one of a screen;
* **`Watch.Faithful.code`**, **`Watch.faithful_level`** — guest code shows what it draws, at every
  depth;
* **`statements_change_screen_in_order`** — the grid after a run, and the answers.
-/

namespace GuestBridge

variable {σ α : Type}

namespace Screen

/-! ## Acts -/

/-- A statement of the screen with its operands. -/
inductive Statement
  | cls
  | clsOn (screen : Int32)
  | color (rgba : Int32)
  | colorOn (screen rgba : Int32)
  deriving DecidableEq, Repr

namespace Statement

/-- Its place in the order of registration. -/
def index : Statement → Nat
  | cls => 0
  | clsOn _ => 1
  | color _ => 2
  | colorOn _ _ => 3

/-- Its operands, as the callback of the statement takes them. -/
def args : Statement → List Value
  | cls => []
  | clsOn screen => [.int screen]
  | color rgba => [.int rgba]
  | colorOn screen rgba => [.int screen, .int rgba]

/-- What it does to the grid. The numbers from 0 to 4 name the screen. -/
def apply (g : Grid) : Statement → Grid
  | cls => g.clear
  | clsOn screen => if 0 ≤ screen.toInt ∧ screen.toInt ≤ 4 then g.clear else g
  | color rgba => g.setColor rgba.toUInt32
  | colorOn screen rgba =>
    if 0 ≤ screen.toInt ∧ screen.toInt ≤ 4 then g.setColor rgba.toUInt32 else g

end Statement

/-- One thing that a program does to the screen. -/
inductive Act
  | output (code : UInt32)
  | statement (st : Statement)
  deriving DecidableEq, Repr

namespace Act

/-- What it does to the grid. -/
def apply (g : Grid) : Act → Grid
  | output code => g.put code
  | statement st => st.apply g

/-- The acts of a text. -/
def ofText (text : String) : List Act := text.toList.map fun c => output c.val

end Act

/-- The grid that a session shows, if it was this one before anything happened. -/
def Grid.after (g : Grid) (s : Session σ) : Grid := s.trace.toList.foldl Grid.observed g

/-- What the session `t` shows behind the session `s` are these acts. -/
def Shows (acts : List Act) (s t : Session σ) : Prop :=
  ∃ events, t.trace.toList = s.trace.toList ++ events ∧
    ∀ g : Grid, events.foldl Grid.observed g = acts.foldl Act.apply g

namespace Shows

variable {s t u : Session σ} {acts more : List Act}

theorem of_trace (h : t.trace = s.trace) : Shows [] s t :=
  ⟨[], by rw [h, List.append_nil], fun _ => rfl⟩

/-- What is shown first is drawn first. -/
theorem trans (hst : Shows acts s t) (htu : Shows more t u) : Shows (acts ++ more) s u := by
  obtain ⟨first, ht, hfirst⟩ := hst
  obtain ⟨second, hu, hsecond⟩ := htu
  refine ⟨first ++ second, by rw [hu, ht, List.append_assoc], fun g => ?_⟩
  rw [List.foldl_append, List.foldl_append, hfirst, hsecond]

theorem emit {e : Event} (h : ∀ g : Grid, g.observed e = acts.foldl Act.apply g) (s : Session σ) :
    Shows acts s (s.emit e) :=
  ⟨[e], Array.toList_push, h⟩

theorem print (s : Session σ) (text : String) : Shows (Act.ofText text) s (s.print text) := by
  rw [Session.print_eq]
  refine ⟨text.toList.map fun c => .output c.val, Array.toList_append, fun g => ?_⟩
  rw [Act.ofText, List.foldl_map, List.foldl_map]
  rfl

/-- Asking for a text is not seen on the screen. -/
theorem loadText (s : Session σ) (file : String) : Shows [] s (s.loadText file).2 := by
  unfold Session.loadText
  cases s.environment.loader with
  | none => exact .of_trace rfl
  | some load => exact .emit (fun _ => rfl) s

/-- The grid after a session that shows some acts is the one before it with the acts applied. -/
theorem after (h : Shows acts s t) (g : Grid) : g.after t = acts.foldl Act.apply (g.after s) := by
  obtain ⟨events, ht, hevents⟩ := h
  rw [Grid.after, ht, List.foldl_append, hevents]
  rfl

end Shows

/-! ## Statements -/

namespace Statement

/-- The screen of a statement, and what it asks for there. -/
def screen : Statement → Int32
  | cls | color _ => defaultScreen
  | clsOn screen | colorOn screen _ => screen

/-- What it changes on that screen. -/
def change : Statement → Change
  | cls | clsOn _ => .clear
  | color rgba | colorOn _ rgba => penColor rgba

/-- The session in which a change of a screen was shown. -/
def changed (number : Int32) (change : Change) (s : Session σ) : Session σ :=
  if isScreen number then s.emit (.screen change) else s

variable {st : Statement}

/-- The numbers of screens are those from 0 to 4. -/
theorem isScreen_iff {number : Int32} :
    isScreen number = true ↔ 0 ≤ number.toInt ∧ number.toInt ≤ 4 := by
  rw [isScreen, Bool.and_eq_true, decide_eq_true_iff, decide_eq_true_iff, Int32.le_iff_toInt_le,
    Int32.le_iff_toInt_le]
  rfl

/-- A statement makes its change if it names a screen, and otherwise nothing. -/
theorem apply_eq (g : Grid) :
    st.apply g = if isScreen st.screen then g.apply st.change else g := by
  cases st with
  | cls => rfl
  | color rgba => rfl
  | clsOn number => simp only [apply, screen, change, isScreen_iff, Grid.apply]
  | colorOn number rgba => simp only [apply, screen, change, isScreen_iff, Grid.apply, penColor]

theorem shows_changed (st : Statement) (s : Session σ) :
    Shows [.statement st] s (changed st.screen st.change s) := by
  unfold changed
  by_cases hscreen : isScreen st.screen
  · rw [if_pos hscreen]
    refine .emit (fun g => ?_) s
    show g.apply st.change = st.apply g
    rw [apply_eq, if_pos hscreen]
  · rw [if_neg hscreen]
    refine ⟨[], (List.append_nil _).symm, fun g => ?_⟩
    show g = st.apply g
    rw [apply_eq, if_neg hscreen]

/-- A registered statement enters its change of the screen. -/
theorem exists_function (st : Statement) :
    ∃ f, statements[st.index]? = some f ∧ f.signature = ⟨st.args.map Value.tag, []⟩ ∧
      f.callback st.args = onScreen st.screen st.change := by
  cases st <;> exact ⟨_, rfl, rfl, rfl⟩

/-- The callback of a statement shows its change at every level, and never fails. -/
theorem exec_onScreen (re : Reentry σ) (function : String) (number : Int32) (change : Change)
    (s : Session σ) :
    Callback.exec re function (onScreen number change) s = .ok () (changed number change s) := by
  unfold onScreen changed
  by_cases hscreen : isScreen number
  · rw [if_pos hscreen, if_pos hscreen]
    rfl
  · rw [if_neg hscreen, if_neg hscreen]
    rfl

/-- The change of the screen is the only operation of such a callback. -/
theorem body_onScreen (w : Watch σ) (re : Reentry σ) (active : Nat) (function : String)
    (number : Int32) (change : Change) (s : Session σ) :
    ∀ m ∈ w.body re active function (onScreen number change) s,
      ∃ op, m.happening = .callback op := by
  unfold onScreen
  by_cases hscreen : isScreen number
  · rw [if_pos hscreen]
    intro m hm
    rw [List.mem_singleton.mp hm]
    exact ⟨_, rfl⟩
  · rw [if_neg hscreen]
    exact List.forall_mem_nil _

/-- A call of a statement that no other call contains: its id is one under which the statement is
registered, its frame spells the operands, and it asks for nothing in return. -/
structure Called (s : Session σ) (call : ExternalCall) (st : Statement) : Prop where
  outermost : s.inExternalCall = false
  registered : s.table.get? call.id = statements[st.index]?
  argWords : 0 ≤ call.argWords
  retWords : 0 ≤ call.retWords
  operands : ∃ frame : Frame,
    Frame.at? s.arena.memory (.ofInt32 call.args) call.argWords.toInt.toNat = .ok frame ∧
    frame.count = .ok st.args.length ∧
    Arguments.Spells frame.memory frame.start frame.words Frame.firstPosition
      (st.args.map Value.tag) st.args
  noReturns : call.returnCount s call.retWords.toInt.toNat = .ok 0

/-- A well-formed call of a statement is a valid external call of its function. -/
theorem Called.valid {s : Session σ} {call : ExternalCall} (h : Called s call st) :
    ∃ f, call.Valid s f st.args ∧ f.callback st.args = onScreen st.screen st.change := by
  obtain ⟨f, hf, hsignature, hcallback⟩ := st.exists_function
  obtain ⟨frame, hframe, hcount, hspells⟩ := h.operands
  refine ⟨f, ⟨⟨⟨h.outermost, h.registered.trans hf, h.argWords, h.retWords⟩, h.noReturns, ?_, ?_⟩,
    Arguments.decode_eq_ok_iff_exists.mpr ⟨frame, hframe, ?_⟩⟩, hcallback⟩
  · rw [hsignature]
  · rw [hsignature]
    exact hspells.array_notMem
  · rw [hsignature, List.length_map]
    exact ⟨hcount, hspells⟩

/-- Whatever answers a call of a statement runs its change of the screen. -/
theorem answer_of_called {re : Reentry σ} {s : Session σ} {call : ExternalCall}
    (hre : ∀ function number change (s : Session σ),
      re.callback function (onScreen number change) s = .ok () (changed number change s))
    (h : Called s call st) :
    HostCall.answerExternal re call s = .ok 0 (changed st.screen st.change s) := by
  obtain ⟨f, hvalid, hcallback⟩ := h.valid
  have hgets : ExternalCall.GuestGets _ (HostCall.answerExternal re call s) :=
    ExternalCall.answer_of_valid re hvalid
  rw [hcallback, hre] at hgets
  -- The change does not touch the guard, which was released before the call.
  have hrelease : { changed st.screen st.change { s with inExternalCall := true } with
      inExternalCall := false } = changed st.screen st.change s := by
    have hs : { s with inExternalCall := false } = s := by rw [← h.outermost]
    unfold changed
    by_cases hscreen : isScreen st.screen
    · rw [if_pos hscreen, if_pos hscreen]
      exact congrArg (fun u : Session σ => u.emit _) hs
    · rw [if_neg hscreen, if_neg hscreen]
      exact hs
  rw [← hrelease]
  generalize HostCall.answerExternal re call s = answer at hgets ⊢
  cases hgets
  rfl

end Statement

/-! ## What a run draws -/

/-- The acts that are due at a moment of a run. -/
def Draws (m : Moment σ) (acts : List Act) : Prop :=
  match m.happening with
  | .guest (.host (.putChar code)) => acts = [.output code.toUInt32]
  | .guest (.host (.printDouble v)) => acts = Act.ofText (v.fixed HostCall.printedPlaces)
  | .guest (.host (.external call)) =>
    ∃ st, Statement.Called m.session call st ∧ acts = [.statement st]
  | _ => acts = []

/-- The acts that are due at some moments, in order. Their external calls are of statements. -/
inductive Drawing : List (Moment σ) → List Act → Prop
  | nil : Drawing [] []
  | cons {m : Moment σ} {ms : List (Moment σ)} {first rest : List Act} (hm : Draws m first)
      (hms : Drawing ms rest) : Drawing (m :: ms) (first ++ rest)

namespace Drawing

variable {ms : List (Moment σ)} {acts : List Act}

/-- What a run draws is what its first part draws, followed by what the rest draws. -/
theorem split {more : List (Moment σ)} (h : Drawing (ms ++ more) acts) :
    ∃ first rest, acts = first ++ rest ∧ Drawing ms first ∧ Drawing more rest := by
  induction ms generalizing acts with
  | nil => exact ⟨[], acts, rfl, .nil, h⟩
  | cons m ms ih =>
    cases h with
    | cons hm hms =>
      obtain ⟨first, rest, rfl, hfirst, hrest⟩ := ih hms
      exact ⟨_, rest, (List.append_assoc ..).symm, .cons hm hfirst, hrest⟩

/-- Moments of callbacks draw nothing. -/
theorem eq_nil (h : Drawing ms acts)
    (hms : ∀ m ∈ ms, (∃ op, m.happening = .callback op) ∨ ∃ f args, m.happening = .entry f args) :
    acts = [] := by
  induction h with
  | nil => rfl
  | @cons m ms first rest hm _ ih =>
    obtain ⟨hfirst, hothers⟩ := List.forall_mem_cons.mp hms
    have hnone : first = [] := by
      unfold Draws at hm
      rcases hfirst with ⟨op, hop⟩ | ⟨f, args, hentry⟩
      · rwa [hop] at hm
      · rwa [hentry] at hm
    rw [hnone, ih hothers, List.append_nil]

/-- Moments whose external calls are statements draw something. -/
theorem exists_of_called (h : ∀ m ∈ ms, ∀ call, m.happening = .guest (.host (.external call)) →
    ∃ st, Statement.Called m.session call st) : ∃ acts, Drawing ms acts := by
  induction ms with
  | nil => exact ⟨[], .nil⟩
  | cons m ms ih =>
    obtain ⟨hfirst, hothers⟩ := List.forall_mem_cons.mp h
    obtain ⟨rest, hrest⟩ := ih hothers
    -- Only an external call can fail to draw, so the cases are those of `Draws`.
    have hdraws : ∃ first, Draws m first := by
      unfold Draws
      split
      · exact ⟨_, rfl⟩
      · exact ⟨_, rfl⟩
      · next call hcall =>
        obtain ⟨st, hst⟩ := hfirst call hcall
        exact ⟨_, st, hst, rfl⟩
      · exact ⟨_, rfl⟩
    obtain ⟨first, hm⟩ := hdraws
    exact ⟨_, .cons hm hrest⟩

end Drawing

end Screen

open Screen Screen.Statement

/-! ## Every level -/

/-- What `re` runs, and `w` watches, shows what it draws. -/
structure Watch.Faithful (w : Watch σ) (re : Reentry σ) : Prop where
  callback : ∀ function number change s,
    re.callback function (onScreen number change) s = .ok () (changed number change s)
  entered : ∀ active function number change s,
    ∀ m ∈ w.callback active function (onScreen number change) s, ∃ op, m.happening = .callback op
  malloc : ∀ active slots s acts, Drawing (w.malloc active slots s) acts →
    Shows acts s (Outcome.state (re.malloc slots s))

namespace Watch.Faithful

variable {w : Watch σ} {re : Reentry σ} {active : Nat} {s : Session σ} {acts : List Act}

/-- Writing a text shows what the allocator draws. -/
theorem writeText (h : w.Faithful re) (text : String)
    (hacts : Drawing (w.allocation active (Slots.count text) s) acts) :
    Shows acts s (Outcome.state (Allocation.writeText re.malloc text s)) := by
  rw [Allocation.writeText_eq, Allocation.allocate_eq]
  unfold Watch.allocation at hacts
  by_cases hmax : Allocation.maxSlots < Slots.count text
  · rw [if_pos hmax] at hacts ⊢
    cases hacts
    exact .of_trace rfl
  · rw [if_neg hmax] at hacts ⊢
    have hmalloc := h.malloc active _ s acts hacts
    cases hanswer : re.malloc (Int32.ofNat (Slots.count text)) s with
    | error trap t =>
      rw [hanswer] at hmalloc
      exact hmalloc
    | ok raw t =>
      rw [hanswer] at hmalloc
      dsimp only [Allocation.answered]
      by_cases hgrants : Allocation.Grants t.arena.size (Slots.count text) raw
      · rw [if_pos hgrants]
        exact hmalloc
      · rw [if_neg hgrants]
        exact hmalloc

/-- What a host import shows is drawn by the call of it and by what it runs. -/
theorem hostCall (h : w.Faithful re) (call : HostCall)
    (hacts : Drawing (w.guestOp active (.host call) s) acts) :
    Shows acts s (Outcome.state (call.answer re s)) := by
  obtain _ | ⟨hm, hms⟩ := hacts
  cases call with
  | putChar code =>
    obtain rfl := hm
    cases hms
    exact .emit (fun _ => rfl) s
  | printDouble v =>
    obtain rfl := hm
    cases hms
    rw [List.append_nil]
    exact .print s _
  | external call =>
    obtain ⟨st, hcalled, rfl⟩ := hm
    obtain ⟨f, hvalid, hcallback⟩ := hcalled.valid
    -- below the call there is the entry of its callback, and perhaps one operation
    have hsilent := hms.eq_nil (by
      show ∀ m ∈ w.externalCall active call s, _
      unfold Watch.externalCall
      rw [ExternalCall.resolve_of_valid hvalid]
      refine List.forall_mem_cons.mpr ⟨.inr ⟨f, _, rfl⟩, fun m hm => .inl ?_⟩
      rw [hcallback] at hm
      exact h.entered _ _ _ _ _ m hm)
    show Shows _ s (Outcome.state (HostCall.answerExternal re call s))
    rw [hsilent, answer_of_called h.callback hcalled]
    exact shows_changed st s
  | floatToString v digits =>
    obtain rfl := hm
    have hwritten := h.writeText (v.fixed digits) hms
    show Shows _ s (Outcome.state (HostCall.answerFloatText re v digits s))
    rcases HostCall.state_answerFloatText re s v digits with hstate | ⟨failure, hstate⟩
    · rw [hstate]
      exact hwritten
    · have hreport (u : Session σ) : Shows [] u (u.emit (.failure failure)) :=
        .emit (fun _ => rfl) u
      have hreported := hwritten.trans (hreport _)
      rw [hstate]
      rwa [List.append_nil] at hreported
  | loadTextFile name length =>
    obtain rfl := hm
    show Shows _ s (Outcome.state (HostCall.answerTextFile re name length s))
    simp only [Watch.hostCall] at hms
    cases hname : HostCall.requestedName s name length with
    | error detail =>
      rw [hname] at hms
      cases hms
      simp only [HostCall.answerTextFile, hname]
      exact .emit (fun _ => rfl) s
    | ok file =>
      have hload := Shows.loadText s file
      rw [hname] at hms
      cases hfound : s.loadText file with
      | mk found t =>
        simp only [hfound] at hms hload
        cases found with
        | none =>
          cases hms
          simp only [HostCall.answerTextFile, hname, hfound]
          exact hload
        | some text =>
          rw [HostCall.state_answerTextFile re hname hfound]
          exact hload.trans (h.writeText text hms)
  | date | time | unary _ _ | binary _ _ _ | test _ _ | random =>
    obtain rfl := hm
    cases hms
    exact .of_trace rfl

/-- Of the operations of guest code only calls of the host draw. -/
theorem guestOp (h : w.Faithful re) (op : Code.Op σ)
    (hacts : Drawing (w.guestOp active op s) acts) :
    Shows acts s (Outcome.state (Code.answer re op s)) := by
  cases op with
  | host call => exact h.hostCall call hacts
  | load _ _ | store _ _ | grow _ =>
    obtain _ | ⟨hm, hms⟩ := hacts
    obtain rfl := hm
    cases hms
    refine .of_trace ?_
    dsimp only [Code.answer]
    split <;> rfl
  | getState | setState _ | memoryPages | trap =>
    obtain _ | ⟨hm, hms⟩ := hacts
    obtain rfl := hm
    cases hms
    exact .of_trace rfl

/-- **Guest code shows what it draws**, also when it traps. -/
theorem code (h : w.Faithful re) (code : Code σ α)
    (hacts : Drawing (w.code re active code s) acts) :
    Shows acts s (Outcome.state (code.exec re s)) := by
  -- Induction on the code: what an operation draws is shown before what follows it.
  induction code generalizing s acts with
  | done a =>
    cases hacts
    exact .of_trace rfl
  | perform op next ih =>
    unfold Watch.code Program.visits at hacts
    obtain ⟨first, rest, rfl, hfirst, hrest⟩ := hacts.split
    have hop := h.guestOp op hfirst
    unfold Code.exec Program.run
    rw [Outcome.bind_apply]
    cases hanswer : Code.answer re op s with
    | ok r t =>
      rw [hanswer] at hop hrest
      exact hop.trans (ih r hrest)
    | error e t =>
      -- nothing follows an operation that fails
      rw [hanswer] at hop hrest
      cases hrest
      rwa [List.append_nil]

end Watch.Faithful

/-- What a guest runs is watched faithfully, however deeply the two sides call each other. -/
theorem Watch.faithful_level (malloc : Int32 → Code σ Int32) (depth : Nat) :
    (Watch.level malloc depth).Faithful (Reentry.level malloc depth) := by
  -- Induction on the depth: the allocator of a level runs by the level below.
  induction depth with
  | zero =>
    exact ⟨fun function => exec_onScreen _ function, fun active => body_onScreen _ _ active,
      fun active slots s acts hacts => by
        cases hacts
        exact .of_trace rfl⟩
  | succ depth ih =>
    exact ⟨fun function => exec_onScreen _ function, fun active => body_onScreen _ _ active,
      fun active slots s acts hacts => ih.code (malloc slots) hacts⟩

/-- **Statements change the screen in call order.** Take any run of guest code in which every
external call is one of a statement of the screen, under whatever id it was registered, that no
other call contains and whose frames are well-formed. Then the moments of the run draw a list of
acts, and

* the grid after the run, also after one that traps, is the grid before it with these acts applied
  in order: each code point of output is put; clearing clears, and setting a colour sets the
  unsigned number with the same bits, for the numbers of screens and without a number; any other
  number changes nothing;
* the guest gets zero for each of these calls.

For the number of a screen a statement with it is answered exactly as the one without it. -/
theorem statements_change_screen_in_order (g : Guest σ) (code : Code σ α) (s : Session σ)
    (calls : ∀ m ∈ g.moments code s, ∀ call, m.happening = .guest (.host (.external call)) →
      ∃ st, Called m.session call st) :
    let answer (depth : Nat) (call : ExternalCall) (t : Session σ) :=
      HostCall.answerExternal (Reentry.level g.entry.malloc depth) call t
    (∃ acts, Drawing (g.moments code s) acts) ∧
    (∀ acts, Drawing (g.moments code s) acts → ∀ grid : Grid,
      grid.after (Outcome.state (g.run code s)) = acts.foldl Act.apply (grid.after s)) ∧
    (∀ m ∈ g.moments code s, ∀ call, m.happening = .guest (.host (.external call)) →
      ∀ depth, ∃ t, answer depth call m.session = .ok 0 t) ∧
    ∀ number : Int32, 0 ≤ number.toInt → number.toInt ≤ 4 →
      ∀ (depth : Nat) (t : Session σ) (call call' : ExternalCall),
        (Called t call .cls → Called t call' (.clsOn number) →
          answer depth call' t = answer depth call t) ∧
        ∀ rgba, Called t call (.color rgba) → Called t call' (.colorOn number rgba) →
          answer depth call' t = answer depth call t := by
  intro answer
  have hanswer (depth : Nat) {call : ExternalCall} {t : Session σ} {st : Statement}
      (h : Called t call st) : answer depth call t = .ok 0 (changed st.screen st.change t) :=
    answer_of_called (Watch.faithful_level g.entry.malloc depth).callback h
  refine ⟨Drawing.exists_of_called calls, ?shown, ?zero, ?screens⟩
  case shown =>
    intro acts drawing
    exact ((Watch.faithful_level g.entry.malloc _).code code drawing).after
  case zero =>
    intro m hm call hcall depth
    obtain ⟨st, hst⟩ := calls m hm call hcall
    exact ⟨_, hanswer depth hst⟩
  case screens =>
    intro number hlow hhigh depth t call call'
    have hscreen : isScreen number = true := isScreen_iff.mpr ⟨hlow, hhigh⟩
    have hdefault : isScreen defaultScreen = true := rfl
    have hsame (change : Change) : changed number change t = changed defaultScreen change t := by
      rw [changed, changed, if_pos hscreen, if_pos hdefault]
    refine ⟨fun h h' => ?_, fun rgba h h' => ?_⟩
    · rw [hanswer depth h, hanswer depth h']
      exact congrArg _ (hsame .clear)
    · rw [hanswer depth h, hanswer depth h']
      exact congrArg _ (hsame (penColor rgba))

/-! ## A program that sets the pen -/

/-- The operands of a screen and a colour. -/
def penFrame : List UInt8 :=
  [2, 1, 4, 1, 0xFFFFFFFFFFFFFFFE].flatMap (Word.toBytes wordBytes)

/-- A session in which the statements are registered from the last to the first. -/
def paintingSession : Session Unit :=
  { Session.initial ⟨none, 0, 0, fun _ => ⟨0⟩⟩ 1 () with
    table := ⟨#[none, statements[3]?, statements[2]?, statements[1]?, statements[0]?]⟩
    arena := ⟨(Memory.zeros pageBytes).write 16 penFrame, 2⟩ }

/-- Sets the pen and prints. -/
def painting : Code Unit Unit := do
  let _ ← Code.host (.external ⟨1, 16, 5, 0, 0⟩)
  Code.host (.putChar 66)

theorem called_painting : Called paintingSession ⟨1, 16, 5, 0, 0⟩ (.colorOn 4 (-2)) := by
  have hdecode : Arguments.decode "COLOR" [.int, .int] paintingSession.arena.memory
      (.ofInt32 16) 5 = .ok [.int 4, .int (-2)] := by rfl
  exact ⟨rfl, rfl, by decide, by decide, Arguments.decode_eq_ok_iff_exists.mp hdecode, rfl⟩

/-- The colour is the negative number read as unsigned, and what is printed behind it has it. -/
theorem statements_change_screen_in_order_painting :
    (∀ m ∈ callingGuest.moments painting paintingSession, ∀ call,
      m.happening = .guest (.host (.external call)) → ∃ st, Called m.session call st) ∧
    ∀ grid : Grid, grid.after (Outcome.state (callingGuest.run painting paintingSession)) =
      (grid.setColor 0xFFFFFFFE).put 66 := by
  have hcalls : ∀ m ∈ callingGuest.moments painting paintingSession, ∀ call,
      m.happening = .guest (.host (.external call)) → ∃ st, Called m.session call st := by
    intro m hm call hcall
    change m ∈ [_, _, _, _] at hm
    simp only [List.mem_cons, List.not_mem_nil, or_false] at hm
    rcases hm with rfl | rfl | rfl | rfl
    · cases hcall
      exact ⟨_, called_painting⟩
    · cases hcall
    · cases hcall
    · cases hcall
  have hdrawing : Drawing (callingGuest.moments painting paintingSession)
      ([.statement (.colorOn 4 (-2))] ++ ([] ++ ([] ++ ([.output 66] ++ [])))) :=
    .cons ⟨_, called_painting, rfl⟩ (.cons rfl (.cons rfl (.cons rfl .nil)))
  obtain ⟨-, hshown, -⟩ :=
    statements_change_screen_in_order callingGuest painting paintingSession hcalls
  refine ⟨hcalls, fun grid => ?_⟩
  rw [hshown _ hdrawing]
  rfl

end GuestBridge
