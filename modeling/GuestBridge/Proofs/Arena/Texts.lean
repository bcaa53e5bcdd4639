import GuestBridge.Proofs.Arena.Course
import GuestBridge.Proofs.Registry.Announcement
import GuestBridge.Proofs.Wire.Texts
/-!
# Texts stay as they were placed

The host places a text in a block that it is granted and never writes there again on its own account.
What may still change the text is a write that reaches into its block, by guest code, a callback or
the host, and a second block that is granted over it. An allocator that keeps its blocks apart rules
out the second. Its own stores count as stores of guest code: one that leaves the blocks it has handed
out alone does not touch a text.

A text stands at the pointer that comes out of placing it (`Content.stands_of_place`). So it is for
each way to ask for a text: the host, a callback and guest code get the pointer, a registration and a
new program hand it on to the guest.

The invariant is a matter of single bytes: the log of a history accounts for every change of the
arena (`Scheduler.log_course`), and after the text was placed no effect covers a byte of its block
(`Effect.Separated.not_covers`).

## Main statement

* **`placed_texts_stay`** — after every operation of a history, failed ones included, every text that
  nobody wrote over can be read, and the slot behind it is zero.
-/

namespace GuestBridge

variable {σ : Type}

namespace Effect

/-- The block that was granted. -/
def block? : Effect → Option Block
  | granted p content => some (.granted p content.slots)
  | _ => none

/-- No two blocks that were granted overlap. -/
def Separated (effects : List Effect) : Prop := (effects.filterMap block?).Pairwise Block.Apart

/-- The effect is not a write that touches a block. -/
def Spares (b : Block) : Effect → Prop
  | written range => range.Apart b
  | _ => True

/-- A text was placed, and no write has touched its block since. -/
def Stands (effects : List Effect) (p : Pointer) (text : String) : Prop :=
  ∃ before after, effects = before ++ .granted p (.text text) :: after ∧
    ∀ e ∈ after, e.Spares (.granted p (Slots.count text))

instance (b : Block) : (e : Effect) → Decidable (e.Spares b)
  | written range => inferInstanceAs (Decidable (range.Apart b))
  | granted _ _ | kept => inferInstanceAs (Decidable True)

end Effect

namespace Record

/-- The effects of a log. -/
def effects (log : List (Record σ)) : List Effect := log.map Record.effect

end Record

/-- A text is read by its length, and a zero slot follows it. -/
def Arena.Holds (a : Arena) (p : Pointer) (text : String) : Prop :=
  a.readText p text.length = .ok text ∧
    a.memory.word (p.offset + Slots.slotBytes * text.length) Slots.slotBytes = 0

/-- The bytes of a text hold it. -/
theorem Arena.holds_of_read {a : Arena} {p : Pointer} {text : String}
    (hfits : p.offset + Slots.slotBytes * Slots.count text ≤ a.size)
    (hread : a.memory.read p.offset (Slots.encode text).length = Slots.encode text) :
    a.Holds p text := by
  constructor
  · rw [Arena.readText, Slots.decode_of_read hfits hread]
    rfl
  · exact (Slots.read_encode_iff.mp hread).2

namespace Effect

variable {p : Pointer} {text : String} {effects before after : List Effect}

/-- An effect behind the placing of a text covers no byte of its block. -/
theorem Separated.not_covers (hapart : Separated (before ++ .granted p (.text text) :: after))
    (hspares : ∀ e ∈ after, e.Spares (.granted p (Slots.count text))) {i : Nat}
    (hi : (Block.granted p (Slots.count text)).Contains i) : ∀ e ∈ after, ¬ e.Covers i := by
  intro e he hcovers
  -- A write spares the block by assumption. A later block keeps apart from it.
  cases e with
  | written range => exact hspares _ he i hcovers hi
  | kept => exact hcovers
  | granted q content =>
    obtain ⟨-, hlater, -⟩ := List.pairwise_append.mp (List.pairwise_filterMap.mp hapart)
    obtain ⟨hfirst, -⟩ := List.pairwise_cons.mp hlater
    have hblocks : (Block.granted p (Slots.count text)).Apart (.granted q content.slots) :=
      hfirst _ he _ rfl _ rfl
    exact hblocks i hi hcovers

end Effect

namespace Course

variable {a b : Arena} {log : List (Record σ)} {p : Pointer} {text : String}

/-- A text that stands is held by the arena. -/
theorem holds (h : Course a log b) (hapart : Effect.Separated (Record.effects log))
    (hstands : Effect.Stands (Record.effects log) p text) : b.Holds p text := by
  obtain ⟨before, after, heffects, hspares⟩ := hstands
  rw [heffects] at hapart
  -- the log is cut where the text was placed
  obtain ⟨earlier, others, rfl, -, hothers⟩ := List.map_eq_append_iff.mp heffects
  obtain ⟨r, later, rfl, hr, hlater⟩ := List.map_eq_cons_iff.mp hothers
  obtain ⟨m, -, hrest⟩ := h.split
  cases hrest with
  | next first rest =>
    obtain ⟨hfits, hread⟩ := first.filled p (.text text) hr
    have hkept (i : Nat) (hi : (Block.granted p (Slots.count text)).Contains i) :
        b.memory.byteAt i = r.session.arena.memory.byteAt i := by
      refine rest.byteAt_eq fun w hw => ?_
      have hmem : w.effect ∈ after := hlater ▸ List.mem_map_of_mem hw
      exact hapart.not_covers hspares hi w.effect hmem
    refine Arena.holds_of_read (hfits.trans rest.size_le) (Eq.trans ?_ hread)
    refine Memory.read_congr fun i hlow hhigh => hkept i ⟨hlow, ?_⟩
    rwa [Slots.length_encode] at hhigh

/-- A course up to one of its records. -/
theorem upto {before after : List (Record σ)} {r : Record σ}
    (h : Course a (before ++ r :: after) b) : Course a (before ++ [r]) r.session.arena := by
  obtain ⟨m, hbefore, hrest⟩ := h.split
  cases hrest with
  | next first _ => exact hbefore.append (.single first)

end Course

/-- Blocks that are kept apart over a whole history are kept apart up to each point of it. -/
theorem Effect.Separated.take {before after : List (Record σ)}
    (h : Separated (Record.effects (before ++ after))) : Separated (Record.effects before) := by
  unfold Separated Record.effects at h ⊢
  rw [List.map_append, List.filterMap_append] at h
  exact (List.pairwise_append.mp h).1

/-- A history is logged operation by operation. -/
theorem Scheduler.log_append (c : Scheduler σ) (ops more : List HostOperation) (s : Session σ) :
    c.log (ops ++ more) s = c.log ops s ++ c.log more (c.history ops s) := by
  -- Induction on the operations: what follows is logged from the session that they lead to.
  induction ops generalizing s with
  | nil => rfl
  | cons op rest ih =>
    rw [List.cons_append, log, log, ih, List.append_assoc]
    rfl

/-! ## Where texts are placed -/

namespace Effect.Stands

variable {effects later : List Effect} {p : Pointer} {text : String}

/-- A text stands until a write touches its block, whatever came before it was placed. -/
theorem within (h : Stands effects p text) (earlier : List Effect)
    (hspares : ∀ e ∈ later, e.Spares (.granted p (Slots.count text))) :
    Stands (earlier ++ effects ++ later) p text := by
  -- the text is placed at the same record, with more in front of it and behind it
  obtain ⟨before, after, rfl, hafter⟩ := h
  refine ⟨earlier ++ before, after ++ later, ?_, List.forall_mem_append.mpr ⟨hafter, hspares⟩⟩
  simp only [List.append_assoc, List.cons_append]

end Effect.Stands

namespace Content

variable {malloc : Int32 → Action Trap σ Int32} {content : Content} {p : Pointer}
  {s t : Session σ}

/-- The last record of a placing is the content, at the pointer that comes out. -/
theorem exists_placing_of_place (log : Int32 → Session σ → List (Record σ))
    (h : content.place malloc s = .ok p t) :
    ∃ asked, content.placing malloc log s = asked ++ [⟨.granted p content, t⟩] := by
  unfold placing
  rw [h]
  exact ⟨_, rfl⟩

/-- A text stands where it was placed. -/
theorem stands_of_place (log : Int32 → Session σ → List (Record σ)) {text : String}
    (h : (Content.text text).place malloc s = .ok p t) :
    Effect.Stands (Record.effects ((Content.text text).placing malloc log s)) p text := by
  obtain ⟨asked, hplacing⟩ := exists_placing_of_place log h
  refine ⟨Record.effects asked, [], ?_, List.forall_mem_nil _⟩
  rw [hplacing]
  exact List.map_append

end Content

namespace Ledger

variable {l : Ledger σ} {re : Reentry σ} {s t : Session σ} {raw : Int32}

/-- What an import places stands after the operation that calls it. -/
theorem stands_of_hostCall {call : HostCall} {p : Pointer} {text : String}
    (h : Effect.Stands (Record.effects (l.hostCall re call s)) p text) :
    Effect.Stands (Record.effects (l.guestOp re (.host call) s)) p text := by
  have hlog : Record.effects (l.guestOp re (.host call) s) =
      [] ++ Record.effects (l.hostCall re call s) ++ [.kept] := by
    unfold Record.effects guestOp
    rw [List.map_append, List.nil_append]
    cases Code.answer re (.host call) s with
    | ok r t => rfl
    | error e t => rfl
  rw [hlog]
  exact h.within [] fun e he => by
    cases List.mem_singleton.mp he
    exact trivial

/-- The digits of a number stand at the address that the guest gets for them. -/
theorem stands_of_floatToString {v : Double} {digits : Int32}
    (h : (HostCall.floatToString v digits).answer re s = .ok raw t) :
    ∃ p : Pointer, raw = p.toInt32 ∧
      Effect.Stands (Record.effects (l.guestOp re (.host (.floatToString v digits)) s)) p
        (v.fixed digits) := by
  simp only [HostCall.answer, HostCall.answerFloatText] at h
  cases hplace : Allocation.writeText re.malloc (v.fixed digits) s with
  | error e u =>
    rw [hplace] at h
    cases h
  | ok p u =>
    rw [hplace] at h
    cases h
    exact ⟨p, rfl, stands_of_hostCall (Content.stands_of_place l.malloc hplace)⟩

/-- A text file stands at the address that the guest gets for it. Where that is zero there is no
such file. -/
theorem stands_of_loadTextFile {name length : Int32}
    (h : (HostCall.loadTextFile name length).answer re s = .ok raw t) (hraw : raw ≠ 0) :
    ∃ file text, HostCall.requestedName s name length = .ok file ∧
      (s.loadText file).1 = some text ∧
      ∃ p : Pointer, raw = p.toInt32 ∧
        Effect.Stands (Record.effects (l.guestOp re (.host (.loadTextFile name length)) s)) p
          text := by
  simp only [HostCall.answer, HostCall.answerTextFile] at h
  cases hname : HostCall.requestedName s name length with
  | error detail =>
    rw [hname] at h
    cases h
    exact absurd rfl hraw
  | ok file =>
    rw [hname] at h
    cases hfound : s.loadText file with
    | mk found u =>
      simp only [hfound] at h
      cases found with
      | none =>
        cases h
        exact absurd rfl hraw
      | some text =>
        cases hplace : Allocation.writeText re.malloc text u with
        | error e v =>
          simp only [hplace] at h
          cases h
        | ok p v =>
          simp only [hplace] at h
          cases h
          refine ⟨file, text, rfl, by rw [hfound], p, rfl, stands_of_hostCall ?_⟩
          -- the name is read and the loader asked before anything is placed
          have hlog : l.hostCall re (.loadTextFile name length) s = l.placing re (.text text) u := by
            simp only [hostCall, hname, hfound]
          rw [hlog]
          exact Content.stands_of_place l.malloc hplace

/-- A callback's own text stands at the pointer that the callback gets. -/
theorem stands_of_callback {function text : String} {p : Pointer}
    (h : (Callback.answer re function (.allocateText text) s).1 = .ok p) :
    Effect.Stands (Record.effects (l.callbackOp re function (.allocateText text) s)) p text := by
  have hplace : ∃ u, (Content.text text).place re.malloc s = .ok p u := by
    simp only [Callback.answer, Action.attempt] at h
    cases hwrite : Allocation.writeText re.malloc text s with
    | ok q u =>
      rw [hwrite] at h
      cases h
      exact ⟨u, hwrite⟩
    | error e u =>
      rw [hwrite] at h
      cases h
  obtain ⟨u, hplace⟩ := hplace
  exact Content.stands_of_place l.malloc hplace

end Ledger

namespace Guest

variable {g : Guest σ} {s t : Session σ}

/-- The host's own text stands at the pointer that it gets. -/
theorem stands_of_allocateText {text : String} {p : Pointer}
    (h : g.allocateText text s = .ok p t) :
    Effect.Stands (Record.effects (g.placing (.text text) s)) p text :=
  Content.stands_of_place _ h

/-- The name of a function stands at the pointer that is written into its descriptor, when the block
of the descriptor is asked for. The descriptor is placed last. -/
theorem stands_of_describe {f : ExternalFunction} {d : Pointer} (h : g.describe f s = .ok d t) :
    ∃ p named described,
      g.describing f s = named ++ (described ++ [⟨.granted d (.descriptor p f.signature), t⟩]) ∧
      Effect.Stands (Record.effects named) p f.name := by
  obtain ⟨p, u, hname, h⟩ := Outcome.bind_eq_ok_iff.mp h
  have hplace : g.place (.text f.name) s = .ok p u := hname
  have hdescriptor : g.place (.descriptor p f.signature) u = .ok d t := h
  obtain ⟨described, hlast⟩ := Content.exists_placing_of_place
    (fun slots => g.log (g.entry.malloc slots)) hdescriptor
  refine ⟨p, g.placing (.text f.name) s, described, ?_, stands_of_allocateText hname⟩
  unfold describing
  rw [hplace, ← hlast]
  rfl

/-- A function that is registered was offered by the descriptor that was placed for it. -/
theorem stands_of_register {f : ExternalFunction} {id : FunctionId}
    (h : g.register f s = .ok id t) :
    ∃ p d u named described raw v,
      g.registering f s =
        named ++ (described ++ [⟨.granted d (.descriptor p f.signature), u⟩]) ++
          g.log (g.entry.registerFunction d.toInt32) u ∧
      Effect.Stands (Record.effects named) p f.name ∧
      g.run (g.entry.registerFunction d.toInt32) u = .ok raw v := by
  obtain ⟨d, u, hdescribe, h⟩ := Outcome.bind_eq_ok_iff.mp h
  obtain ⟨raw, v, hrun, -⟩ := Outcome.bind_eq_ok_iff.mp h
  obtain ⟨p, named, described, hlog, hstands⟩ := stands_of_describe hdescribe
  refine ⟨p, d, u, named, described, raw, v, ?_, hstands, Outcome.renamed_eq_ok_iff.mp hrun⟩
  unfold registering
  rw [hdescribe, hlog]
  rfl

/-- The guest is told of a program by the pointers at which its two texts stand: the name when the
block of the program is asked for, the program when the guest is told. -/
theorem stands_of_setSource {slot : Int32} {file source : String} {accepted : Bool}
    (h : g.setSource slot file source s = .ok accepted t) :
    ∃ p q u v raw w,
      g.settingSource slot file source s =
        g.placing (.text file) s ++ (g.placing (.text source) u ++
          g.log (g.entry.setSource slot p.toInt32 q.toInt32) v) ∧
      Effect.Stands (Record.effects (g.placing (.text file) s)) p file ∧
      Effect.Stands (Record.effects (g.placing (.text source) u)) q source ∧
      g.run (g.entry.setSource slot p.toInt32 q.toInt32) v = .ok raw w := by
  obtain ⟨p, u, hfile, h⟩ := Outcome.bind_eq_ok_iff.mp h
  obtain ⟨q, v, hsource, h⟩ := Outcome.bind_eq_ok_iff.mp h
  obtain ⟨raw, w, hrun, -⟩ := Outcome.bind_eq_ok_iff.mp h
  have hfirst : g.place (.text file) s = .ok p u := Outcome.renamed_eq_ok_iff.mp hfile
  have hsecond : g.place (.text source) u = .ok q v := Outcome.renamed_eq_ok_iff.mp hsource
  refine ⟨p, q, u, v, raw, w, ?_, stands_of_allocateText hfirst, stands_of_allocateText hsecond,
    Outcome.renamed_eq_ok_iff.mp hrun⟩
  unfold settingSource
  rw [hfirst]
  show _ ++ (_ ++ Record.next _ (g.place (.text source) u)) = _
  rw [hsecond]
  rfl

end Guest

/-- **Texts stay as they were placed.** Let no two blocks overlap that the guest's allocator grants in
a history. Then after every prefix of the history, and after every operation of guest code and of
callbacks in it, the arena holds each text that was placed so far and whose block no write has
touched since. Operations that fail are no exception. A text that the host has allocated itself was
placed where it was told. -/
theorem placed_texts_stay (c : Scheduler σ) (ops : List HostOperation) (s : Session σ)
    (hapart : Effect.Separated (Record.effects (c.log ops s))) :
    (∀ n p text, Effect.Stands (Record.effects (c.log (ops.take n) s)) p text →
      (c.history (ops.take n) s).arena.Holds p text) ∧
    (∀ before r after, c.log ops s = before ++ r :: after →
      ∀ p text, Effect.Stands (Record.effects (before ++ [r])) p text →
        r.session.arena.Holds p text) ∧
    ∀ text t p u, c.guest.allocateText text t = .ok p u →
      Effect.Stands (Record.effects (c.operating (.allocateText text) t)) p text := by
  refine ⟨fun n p text hstands => ?_, fun before r after hlog p text hstands => ?_,
    fun text t p u h => Guest.stands_of_allocateText h⟩
  · -- after a prefix, only the blocks that were granted in it have to be apart
    have hprefix : Effect.Separated (Record.effects (c.log (ops.take n) s)) := by
      rw [← List.take_append_drop n ops, c.log_append] at hapart
      exact hapart.take
    exact (c.log_course (ops.take n) s).holds hprefix hstands
  · have hcourse := c.log_course ops s
    rw [hlog] at hcourse hapart
    have hprefix : Effect.Separated (Record.effects (before ++ [r])) := by
      rw [List.append_cons] at hapart
      exact hapart.take
    exact hcourse.upto.holds hprefix hstands

/-! ## A guest that calls a function that places a text -/

/-- Places a text whenever it is called. -/
def greet : ExternalFunction :=
  .procedure0 "HI" do
    let _ ← Callback.allocateText "hi"

/-- The guest with the allocator that never reuses memory; each of its steps calls the function that
was registered. -/
def greeting : Guest Nat :=
  { bumping with
    entry := { bumping.entry with executeOneStep := Code.host (.external ⟨5, 0, 0, 0, 0⟩) } }

/-- Registers the function, hands over a program, runs a step, writes into the block of the program's
name, and asks for more memory than there is. -/
def greetingHistory : List HostOperation :=
  [.register greet, .setSource 0 "f" "é", .executeOneStep, .writeMemory ⟨1048⟩ [0x67],
    .allocate 100000]

/-- The program and the text of the function stand at the end: the write touched the block before
theirs, and the allocation failed. -/
theorem placed_texts_stay_greeting :
    let c : Scheduler Nat := ⟨greeting, 1, 0, ⟨0⟩⟩
    let blocks := (Record.effects (c.log greetingHistory onePage)).filterMap Effect.block?
    blocks = [⟨1024, 12⟩, ⟨1036, 12⟩, ⟨1048, 8⟩, ⟨1056, 8⟩, ⟨1064, 12⟩] ∧
    Effect.Separated (Record.effects (c.log greetingHistory onePage)) ∧
    (c.history greetingHistory onePage).arena.Holds ⟨1056⟩ "é" ∧
    (c.history greetingHistory onePage).arena.Holds ⟨1064⟩ "hi" := by
  intro c blocks
  let asked : List Effect := [.kept, .kept, .kept]
  let registered : List Effect :=
    asked ++ .granted ⟨1024⟩ (.text "HI") ::
      (asked ++ [.granted ⟨1036⟩ (.descriptor ⟨1024⟩ greet.signature)])
  let handed : List Effect := asked ++ .granted ⟨1048⟩ (.text "f") :: asked
  let after : List Effect := [.kept, .written ⟨1048, 1⟩, .kept, .kept, .kept]
  have heffects : Record.effects (c.log greetingHistory onePage) =
      registered ++ handed ++ .granted ⟨1056⟩ (.text "é") ::
        (asked ++ .granted ⟨1064⟩ (.text "hi") :: after) := by decide +kernel
  have hblocks : blocks = [⟨1024, 12⟩, ⟨1036, 12⟩, ⟨1048, 8⟩, ⟨1056, 8⟩, ⟨1064, 12⟩] := by
    show List.filterMap _ _ = _
    rw [heffects]
    rfl
  have hapart : Effect.Separated (Record.effects (c.log greetingHistory onePage)) := by
    show blocks.Pairwise _
    rw [hblocks]
    decide
  obtain ⟨hends, -⟩ := placed_texts_stay c greetingHistory onePage hapart
  refine ⟨hblocks, hapart, hends 5 ⟨1056⟩ "é" ?_, hends 5 ⟨1064⟩ "hi" ?_⟩
  · exact ⟨_, _, heffects, by decide⟩
  · refine ⟨registered ++ handed ++ .granted ⟨1056⟩ (.text "é") :: asked, after, ?_, by decide⟩
    rw [List.append_assoc, List.cons_append]
    exact heffects

end GuestBridge
