import GuestBridge.Bridge.Table
import GuestBridge.Session.Arena
/-!
# Sessions

A session is everything that changes while one guest instance lives: the arena, the function table,
the run state, the pending stop requests, the guest's private state and the trace of what was shown.
What the session gets from outside (a text loader, the clock, random numbers) is its environment.

Actions on a session keep the changes made before an error.
-/

namespace GuestBridge

/-- What a session gets from outside. -/
structure Environment where
  /-- Resolves the name of a text file to its text. -/
  loader : Option (String → Option String)
  /-- The date as eight decimal digits, year first. -/
  date : Int32
  /-- The time of day as six decimal digits, hours first. -/
  time : Int32
  /-- The random numbers in the order of their use, each in `[0, 1)`. -/
  random : Nat → Double

/-- Everything that changes while a guest with private state `σ` lives. -/
structure Session (σ : Type) where
  environment : Environment
  arena : Arena
  table : FunctionTable
  /-- An external call is in progress. -/
  inExternalCall : Bool
  runState : RunState
  /-- The handles whose stop request is still to be observed. -/
  pendingStops : List StopHandle
  handles : Nat
  draws : Nat
  guest : σ
  trace : Array Event

/-- A change of a session that can fail. -/
abbrev Action (ε σ : Type) := EStateM ε (Session σ)

namespace Session

variable {σ : Type}

/-- A session before anything happened. -/
def initial (environment : Environment) (pages : Nat) (guest : σ) : Session σ where
  environment := environment
  arena := .create pages
  table := .empty
  inExternalCall := false
  runState := .stopped
  pendingStops := []
  handles := 0
  draws := 0
  guest := guest
  trace := #[]

/-! ## Showing -/

def emit (s : Session σ) (e : Event) : Session σ := { s with trace := s.trace.push e }

/-- One output event for each character. -/
def print (s : Session σ) (text : String) : Session σ :=
  text.toList.foldl (fun s c => s.emit (.output c.val)) s

/-- Asks the loader, if there is one, and shows that it was asked. -/
def loadText (s : Session σ) (name : String) : Option String × Session σ :=
  match s.environment.loader with
  | none => (none, s)
  | some load => (load name, s.emit (.textRequested name))

/-- Changes the run state, and shows it when it differs. -/
def setRunState (s : Session σ) (state : RunState) : Session σ :=
  if s.runState = state then s else { s.emit (.stateChanged state) with runState := state }

/-- Printing shows the characters in order and changes nothing else. -/
theorem print_eq (s : Session σ) (text : String) :
    s.print text =
      { s with trace := s.trace ++ (text.toList.map fun c => Event.output c.val).toArray } := by
  have shown (cs : List Char) : ∀ s : Session σ,
      cs.foldl (fun s c => s.emit (.output c.val)) s =
        { s with trace := s.trace ++ (cs.map fun c => Event.output c.val).toArray } := by
    induction cs with
    | nil =>
      intro s
      simp only [List.foldl_nil, List.map_nil, Array.append_empty]
    | cons c rest ih =>
      intro s
      -- The first character is pushed, the others are appended behind it.
      have pushed (l : List Event) (e : Event) :
          s.trace.push e ++ l.toArray = s.trace ++ (e :: l).toArray := by
        apply Array.toList_inj.mp
        simp only [Array.toList_append, Array.toList_push, List.append_assoc, List.cons_append,
          List.nil_append]
      rw [List.foldl_cons, ih (s.emit (.output c.val))]
      simp only [emit, List.map_cons, pushed]
  exact shown text.toList s

/-- The run state is what it was last set to. -/
@[simp] theorem runState_setRunState (s : Session σ) (state : RunState) :
    (s.setRunState state).runState = state := by
  by_cases h : s.runState = state
  · rw [setRunState, if_pos h, h]
  · rw [setRunState, if_neg h]

/-! ## Stop requests -/

/-- A handle that no scheduler has used. -/
def freshHandle (s : Session σ) : StopHandle × Session σ :=
  (⟨s.handles⟩, { s with handles := s.handles + 1 })

/-- The request of a handle is pending. -/
def stopRequested (s : Session σ) (h : StopHandle) : Bool := s.pendingStops.contains h

def requestStop (s : Session σ) (h : StopHandle) : Session σ :=
  if s.stopRequested h then s else { s with pendingStops := h :: s.pendingStops }

def clearStop (s : Session σ) (h : StopHandle) : Session σ :=
  { s with pendingStops := s.pendingStops.filter (· ≠ h) }

/-- A request is pending until it is cleared, and no other handle is affected. -/
theorem stopRequested_requestStop (s : Session σ) (h other : StopHandle) :
    (s.requestStop h).stopRequested other = (other == h || s.stopRequested other) := by
  by_cases pending : s.stopRequested h = true
  · rw [requestStop, if_pos pending]
    by_cases same : other = h
    · rw [same, pending, Bool.or_true]
    · rw [beq_eq_false_iff_ne.mpr same, Bool.false_or]
  · rw [requestStop, if_neg pending]
    simp only [stopRequested, List.contains_cons]

theorem stopRequested_clearStop (s : Session σ) (h other : StopHandle) :
    (s.clearStop h).stopRequested other = (other != h && s.stopRequested other) := by
  rw [Bool.eq_iff_iff]
  simp only [stopRequested, clearStop, List.contains_iff_mem, List.mem_filter, Bool.and_eq_true,
    bne_iff_ne, decide_eq_true_eq]
  exact And.comm

/-! ## Random numbers -/

def draw (s : Session σ) : Double × Session σ :=
  (s.environment.random s.draws, { s with draws := s.draws + 1 })

end Session

namespace Action

variable {ε ε' σ α : Type}

/-- An answer that changes nothing. -/
def ofExcept (r : Except ε α) : Action ε σ α := fun s =>
  match r with
  | .ok a => .ok a s
  | .error e => .error e s

/-- Renames the error. -/
def mapError (f : ε → ε') (a : Action ε σ α) : Action ε' σ α := fun s =>
  match a s with
  | .ok r s' => .ok r s'
  | .error e s' => .error (f e) s'

/-- Delivers an error as a value. -/
def attempt (a : Action ε σ α) : StateM (Session σ) (Except ε α) := fun s =>
  match a s with
  | .ok r s' => (.ok r, s')
  | .error e s' => (.error e, s')

def writeMemory (p : Pointer) (bytes : List UInt8) : Action BridgeError σ Unit := fun s =>
  match s.arena.write p bytes with
  | .ok arena => .ok () { s with arena }
  | .error e => .error e s

end Action

end GuestBridge
