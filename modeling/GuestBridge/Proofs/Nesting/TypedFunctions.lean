import GuestBridge.Proofs.Frame.Faults
import GuestBridge.Proofs.Nesting.Dispatch
import GuestBridge.Screen.Statements
/-!
# Typed functions

A typed function declares the tags of its parameters and converts the values that it is called with;
both conversions and the count of the values are checked again by its callback. The dispatcher has
compared the values with the declared tags already, so where an external call enters a callback
these checks succeed: the callback is the body of the function at the decoded values
(`TypedBody.Enters`), and nothing else.

The tags are compared while the frame is read, and an array has no payload to be read. Calls of
signatures with arrays are therefore refused before their frame is looked at.

## Main statements

* **`ExternalCall.valid_of_entry`** — each entry of a callback belongs to a valid external call;
* **`TypedBody.enters_of_tags`** — values of the declared tags enter the body;
* **`ExternalCall.resolve_ne_unsupported`** — no call is refused for the kind of a value;
* **`typed_functions_get_their_arguments`** — the parts together, for every run.
-/

namespace GuestBridge

variable {σ α : Type}

/-! ## Native types -/

/-- The host types of the parameters of typed functions. -/
inductive Native
  | int | real | string

namespace Native

/-- The values of a native type. -/
def Content : Native → Type
  | int => Int32
  | real => Double
  | string => String

instance : (n : Native) → Argument n.Content
  | int => inferInstanceAs (Argument Int32)
  | real => inferInstanceAs (Argument Double)
  | string => inferInstanceAs (Argument String)

/-- The value with a given content. -/
def value : (n : Native) → n.Content → Value
  | int => .int
  | real => .real
  | string => .string

/-- A value of the tag of a native type has a content of that type, and is converted to it. -/
theorem exists_content {n : Native} {v : Value} (h : v.tag = Argument.tag n.Content) :
    ∃ x : n.Content, v = n.value x ∧ ExternalFunction.convert n.Content v = pure x := by
  cases n with
  | int =>
    cases v with
    | int x => exact ⟨x, rfl, rfl⟩
    | real _ | string _ => cases h
  | real =>
    cases v with
    | real x => exact ⟨x, rfl, rfl⟩
    | int _ | string _ => cases h
  | string =>
    cases v with
    | string x => exact ⟨x, rfl, rfl⟩
    | int _ | real _ => cases h

end Native

/-- The body of a typed function, with the types of its parameters. -/
inductive TypedBody
  | none (body : Callback Unit)
  | one (a : Native) (body : a.Content → Callback Unit)
  | two (a b : Native) (body : a.Content → b.Content → Callback Unit)

namespace TypedBody

/-- The external function with this body. -/
def function (name : String) : TypedBody → ExternalFunction
  | none body => .procedure0 name body
  | one a body => .procedure1 a.Content name body
  | two a b body => .procedure2 a.Content b.Content name body

/-- What runs is the body at exactly the given values, each in its position. -/
inductive Enters : TypedBody → List Value → Callback Unit → Prop
  | none (body : Callback Unit) : Enters (.none body) [] body
  | one {a : Native} (body : a.Content → Callback Unit) (x : a.Content) :
    Enters (.one a body) [a.value x] (body x)
  | two {a b : Native} (body : a.Content → b.Content → Callback Unit) (x : a.Content)
    (y : b.Content) : Enters (.two a b body) [a.value x, b.value y] (body x y)

/-- Values of the declared tags enter the body: no conversion fails, and the count is right. -/
theorem enters_of_tags {body : TypedBody} {name : String} {args : List Value}
    (h : args.map Value.tag = (body.function name).signature.args) :
    body.Enters args ((body.function name).callback args) := by
  cases body with
  | none body =>
    obtain rfl : args = [] := List.map_eq_nil_iff.mp h
    exact .none body
  | one a body =>
    obtain ⟨v, rest, rfl, hv, hrest⟩ := List.map_eq_cons_iff.mp h
    obtain rfl : rest = [] := List.map_eq_nil_iff.mp hrest
    -- A value with the tag of a native type has a content of that type.
    obtain ⟨x, rfl, hconvert⟩ := Native.exists_content hv
    have hcallback : (function name (one a body)).callback [a.value x] =
        (ExternalFunction.convert a.Content (a.value x) >>= body) := rfl
    rw [hcallback, hconvert, LawfulMonad.pure_bind]
    exact .one body x
  | two a b body =>
    obtain ⟨v, rest, rfl, hv, hrest⟩ := List.map_eq_cons_iff.mp h
    obtain ⟨w, rest', rfl, hw, hrest'⟩ := List.map_eq_cons_iff.mp hrest
    obtain rfl : rest' = [] := List.map_eq_nil_iff.mp hrest'
    obtain ⟨x, rfl, hx⟩ := Native.exists_content hv
    obtain ⟨y, rfl, hy⟩ := Native.exists_content hw
    have hcallback : (function name (two a b body)).callback [a.value x, b.value y] = (do
        let x ← ExternalFunction.convert a.Content (a.value x)
        let y ← ExternalFunction.convert b.Content (b.value y)
        body x y) := rfl
    rw [hcallback, hx, LawfulMonad.pure_bind, hy, LawfulMonad.pure_bind]
    exact .two body x y

end TypedBody

/-! ## Entries of callbacks -/

namespace ExternalCall

variable {s : Session σ} {call : ExternalCall} {f : ExternalFunction} {args : List Value}

/-- Only a valid call is resolved to a function. -/
theorem valid_of_resolve (h : call.resolve s = .ok (f, args)) : call.Valid s f args := by
  rcases valid_or_refused s call with ⟨f', args', hvalid⟩ | ⟨e, hrefused⟩
  · rw [resolve_of_valid hvalid] at h
    cases h
    exact hvalid
  · rw [resolve_of_refused hrefused] at h
    cases h

/-- The session of an entry, before the guard of the call was set. -/
def before (m : Moment σ) : Session σ := { m.session with inExternalCall := false }

/-- Each entry of a callback belongs to a valid external call. -/
theorem valid_of_entry (g : Guest σ) (code : Code σ α) (s : Session σ) :
    ∀ m ∈ g.moments code s, ∀ f args, m.happening = .entry f args →
      ∃ call : ExternalCall, call.Valid (before m) f args := by
  have hcontext : Moment.Context (σ := σ) (fun _ _ => True) fun m => ∀ f args,
      m.happening = .entry f args → ∃ call : ExternalCall, call.Valid (before m) f args := {
    keeps := fun _ _ => trivial
    guest := fun _ _ _ _ h => nomatch h
    callback := fun _ _ _ _ h => nomatch h
    entry := fun {n s call f args} _ hresolve => by
      refine ⟨trivial, fun f' args' h => ?_⟩
      cases h
      -- a call that is not refused finds the guard released
      have hidle : s.inExternalCall = false := resolve_ok_idle hresolve
      have hbefore : before ⟨n + 1, { s with inExternalCall := true }, .entry f args⟩ = s := by
        show { s with inExternalCall := false } = s
        rw [← hidle]
      refine ⟨call, ?_⟩
      rw [hbefore]
      exact valid_of_resolve hresolve }
  exact g.moments_induction hcontext code s trivial

/-- The arguments of a valid call are what its frame spells. -/
theorem Valid.spelled (h : call.Valid s f args) :
    ∃ frame : Frame, Frame.at? s.arena.memory (.ofInt32 call.args) call.argWords.toInt.toNat =
        .ok frame ∧ frame.count = .ok f.signature.args.length ∧
      Arguments.Spells frame.memory frame.start frame.words Frame.firstPosition f.signature.args
        args :=
  Arguments.decode_eq_ok_iff_exists.mp h.arguments

/-- The arguments of a valid call have the tags of the signature. -/
theorem Valid.tags (h : call.Valid s f args) : args.map Value.tag = f.signature.args := by
  obtain ⟨frame, -, -, hspells⟩ := h.spelled
  exact hspells.map_tag

/-! ## Refusals -/

/-- Of a return frame just the count is read, so no value in it is judged. -/
theorem returnCount_ne_unsupported (words : Nat) (tag : Tag) :
    call.returnCount s words ≠ .error (.unsupported tag) := by
  intro h
  rcases Outcome.except_bind_eq_error_iff.mp h with h | ⟨frame, -, h⟩
  · exact Frame.at?_ne_unsupported _ _ _ _ h
  · exact Frame.count_ne_unsupported _ h

/-- No call is refused for the kind of a value in its frames. -/
theorem resolve_ne_unsupported (s : Session σ) (call : ExternalCall) (function : String)
    (tag : Tag) : call.resolve s ≠ .error (.frame function (.unsupported tag)) := by
  rcases valid_or_refused s call with ⟨f, args, hvalid⟩ | ⟨e, hrefused⟩
  · rw [resolve_of_valid hvalid]
    exact nofun
  · rw [resolve_of_refused hrefused]
    intro h
    rw [Except.error.injEq] at h
    subst h
    -- only the two frames can be refused for what stands in them
    cases hrefused with
    | returnFrame known unreadable => exact returnCount_ne_unsupported _ _ unreadable
    | arguments shaped refused => exact Arguments.decode_ne_unsupported shaped.arrays refused

/-- A call of a signature with arrays is refused for its shape before its arguments are looked at,
once the return frame is read. -/
theorem resolve_of_usesArray (h : call.Known s f) (harray : f.signature.usesArray = true) {n : Nat}
    (hreturns : call.returnCount s call.retWords.toInt.toNat = .ok n) :
    ∃ reason, ∀ pointer,
      ({ call with args := pointer } : ExternalCall).resolve s =
        .error (.unsupportedShape f.name reason) := by
  -- either check refuses for the shape, and neither looks at the argument frame
  by_cases hreturned : 0 < n ∨ f.signature.rets ≠ []
  · exact ⟨_, fun pointer => resolve_of_refused
      (.returns ⟨h.idle, h.registered, h.argWords, h.retWords⟩ hreturns hreturned)⟩
  · have hzero : n = 0 := by omega
    have hnone : f.signature.rets = [] := by
      by_contra hsome
      exact hreturned (.inr hsome)
    subst hzero
    exact ⟨_, fun pointer => resolve_of_refused
      (.arrays ⟨h.idle, h.registered, h.argWords, h.retWords⟩ hreturns hnone
        ((usesArray_of_noReturns hnone).mp harray))⟩

end ExternalCall

/-- The statement with two parameters gets an integer for each. -/
theorem Screen.callback_of_tags {f : ExternalFunction} (hf : Screen.statements[3]? = some f)
    {args : List Value} (h : args.map Value.tag = f.signature.args) :
    ∃ number rgba, args = [.int number, .int rgba] ∧
      f.callback args = onScreen number (penColor rgba) := by
  obtain rfl := Option.some.inj hf
  obtain ⟨v, rest, rfl, hv, hrest⟩ := List.map_eq_cons_iff.mp h
  obtain ⟨w, rest', rfl, hw, hrest'⟩ := List.map_eq_cons_iff.mp hrest
  obtain rfl : rest' = [] := List.map_eq_nil_iff.mp hrest'
  obtain ⟨number, rfl, -⟩ := Native.exists_content (n := .int) hv
  obtain ⟨rgba, rfl, -⟩ := Native.exists_content (n := .int) hw
  exact ⟨number, rgba, rfl, rfl⟩

/-- **Typed functions get exactly their declared arguments.** At every moment of every run at which an
external call enters the callback of a function:

* the call is valid for the function registered under its id, and the arguments are what its frame
  spells, in order and with the bits of its doubles, in the number and with the tags of the
  signature;
* a typed function, with declared returns or without, enters its body at the contents of these
  arguments, so no conversion fails and no count is wrong; the statement with a screen and a colour
  gets an integer for each.

A call enters one callback once, whatever the callback does. No call is refused for the kind of a
value in a frame: a known call of a signature with arrays is refused for its shape, wherever its
arguments are said to be, as soon as its return frame is read. -/
theorem typed_functions_get_their_arguments (g : Guest σ) (code : Code σ α) (s : Session σ) :
    (∀ m ∈ g.moments code s, ∀ f args, m.happening = .entry f args →
      (∃ call : ExternalCall, call.Valid (ExternalCall.before m) f args ∧
        ∃ frame : Frame, Frame.at? m.session.arena.memory (.ofInt32 call.args)
            call.argWords.toInt.toNat = .ok frame ∧
          frame.count = .ok f.signature.args.length ∧
          Arguments.Spells frame.memory frame.start frame.words Frame.firstPosition
            f.signature.args args) ∧
      args.map Value.tag = f.signature.args ∧
      (∀ (body : TypedBody) name rets, f = (body.function name).withReturns rets →
        body.Enters args (f.callback args)) ∧
      (Screen.statements[3]? = some f → ∃ number rgba, args = [.int number, .int rgba] ∧
        f.callback args = Screen.onScreen number (Screen.penColor rgba))) ∧
    ∀ (t : Session σ) (call : ExternalCall),
      (∀ f args, call.resolve t = .ok (f, args) → ∀ depth active,
        ((Watch.level g.entry.malloc depth).externalCall active call t).filterMap Moment.entry? =
          [(f, args)]) ∧
      (∀ function tag, call.resolve t ≠ .error (.frame function (.unsupported tag))) ∧
      (∀ f n, call.Known t f → f.signature.usesArray = true →
        call.returnCount t call.retWords.toInt.toNat = .ok n →
        ∃ reason, ∀ pointer, ({ call with args := pointer } : ExternalCall).resolve t =
          .error (.unsupportedShape f.name reason)) := by
  refine ⟨fun m hm f args hentry => ?_, fun t call => ⟨fun f args hresolve depth active => ?_,
    ExternalCall.resolve_ne_unsupported t call, fun f n hknown harray hreturns => ?_⟩⟩
  · obtain ⟨call, hvalid⟩ := ExternalCall.valid_of_entry g code s m hm f args hentry
    have htags : args.map Value.tag = f.signature.args := hvalid.tags
    refine ⟨⟨call, hvalid, hvalid.spelled⟩, htags, fun body name rets hf => ?_,
      fun hf => Screen.callback_of_tags hf htags⟩
    subst hf
    exact TypedBody.enters_of_tags htags
  · exact ExternalCall.entries_of_valid _ depth active (ExternalCall.valid_of_resolve hresolve)
  · exact ExternalCall.resolve_of_usesArray hknown harray hreturns

/-! ## A call with a text and a double -/

/-- Prints its text and passes over its number. -/
def labelling : TypedBody := .two .string .real fun text _ => Callback.print (text : String)

/-- The function with that body. -/
def labels : ExternalFunction := labelling.function "LABEL"

/-- Calls the function with id 7 with the frame of six words at 16. -/
def callLabels : ExternalCall := ⟨7, 16, 6, 0, 0⟩

/-- A frame with the text `é`, which stands at 80, and a double that is no number. -/
def labelFrame : List UInt8 :=
  [2, 3, 1, 80, 2, 0x7FF8000000000001].flatMap (Word.toBytes wordBytes)

/-- A session in which the function is registered and the frame is laid out. -/
def labelSession : Session Unit :=
  { Session.initial ⟨none, 0, 0, fun _ => ⟨0⟩⟩ 1 () with
    table := ⟨#[none, none, none, none, none, none, none, some labels]⟩
    arena := ⟨((Memory.zeros pageBytes).write 16 labelFrame).write 80 (Slots.encode "é"), 2⟩ }

/-- The body gets the text and the bits of the double. -/
theorem typed_functions_get_their_arguments_label :
    ∃ m ∈ callingGuest.moments (Code.host (.external callLabels)) labelSession,
      m.happening = .entry labels [.string "é", .real ⟨0x7FF8000000000001⟩] ∧
      labels = (labelling.function "LABEL").withReturns [] ∧
      labelling.Enters [.string "é", .real ⟨0x7FF8000000000001⟩]
        (labels.callback [.string "é", .real ⟨0x7FF8000000000001⟩]) := by
  have hresolve : callLabels.resolve labelSession =
      .ok (labels, [.string "é", .real ⟨0x7FF8000000000001⟩]) := by rfl
  let entered : Moment Unit := ⟨1, { labelSession with inExternalCall := true },
    .entry labels [.string "é", .real ⟨0x7FF8000000000001⟩]⟩
  have hmem : entered ∈ callingGuest.moments (Code.host (.external callLabels)) labelSession := by
    have hcall : entered ∈ (Watch.level callingGuest.entry.malloc Guest.callDepth).externalCall 0
        callLabels labelSession := by
      rw [Watch.externalCall, hresolve]
      exact List.mem_cons_self
    exact List.mem_append_left _ (List.mem_cons_of_mem _ hcall)
  obtain ⟨hentries, -⟩ := typed_functions_get_their_arguments callingGuest
    (Code.host (.external callLabels)) labelSession
  obtain ⟨-, -, henters, -⟩ := hentries entered hmem labels _ rfl
  exact ⟨entered, hmem, rfl, rfl, henters labelling "LABEL" [] rfl⟩

end GuestBridge
