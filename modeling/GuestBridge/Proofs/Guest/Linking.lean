import GuestBridge.Guest.Boot
import GuestBridge.Proofs.Outcome
/-!
# Making the host's definitions

A linker takes a definition where its pair of interface and name is free. The standard definitions
are made one after the other, beginning with the memory, and the first of them whose pair is taken
ends this: those before it are made, it and those behind it are not. The standard pairs are all
different, so only a definition from before can stand in the way.

The memory decides more than the others. It comes first, so a linker in which it is taken is left as
it was, and it is the only one whose refusal is an error of the memory. And once linking was tried it
is taken, so linking again fails at once, however the first time ended.

## The bricks

* **`defineAll_append`** — definitions under different free names are made, and the rest is done
  behind them. Induction on these definitions;
* **`nodup_standard`** — the standard pairs are different;
* **`first_taken_cases`** — which definition is the first collision, and what its error is.

## Main statement

* **`standard_definitions_up_to_collision`** — when linking succeeds, and what it leaves.
-/

namespace GuestBridge.Linker

/-! ## Pairs -/

/-- Where a definition is looked up. -/
def key (d : Definition) : String × String := (d.interface, d.name)

theorem find?_eq_none_iff {l : Linker} {interface name : String} :
    l.find? interface name = none ↔ (interface, name) ∉ l.definitions.map key := by
  rw [find?, Option.map_eq_none_iff, List.find?_eq_none, List.mem_map]
  refine ⟨fun h hmem => ?_, fun h d hd hkey => ?_⟩
  · obtain ⟨d, hd, hkey⟩ := hmem
    obtain ⟨rfl, rfl⟩ := Prod.mk.inj hkey
    exact h d hd (by simp only [beq_self_eq_true, Bool.and_self])
  · rw [Bool.and_eq_true, beq_iff_eq, beq_iff_eq] at hkey
    exact h ⟨d, hd, Prod.ext hkey.1 hkey.2⟩

/-- An import is offered where its pair is taken. -/
theorem offers_iff {l : Linker} {i : Import} :
    l.offers i = true ↔ (i.interface, i.name) ∈ l.definitions.map key := by
  rw [offers, Option.isSome_iff_ne_none, ne_eq, find?_eq_none_iff, Decidable.not_not]

/-- The pair of a definition is not taken. -/
def Free (l : Linker) (d : Definition) : Prop := l.find? d.interface d.name = none

theorem free_iff {l : Linker} {d : Definition} : l.Free d ↔ key d ∉ l.definitions.map key :=
  find?_eq_none_iff

/-- What is defined stays so, whatever is defined behind it. -/
theorem find?_append_of_eq_some {l : Linker} {interface name : String} {item : Provision}
    (h : l.find? interface name = some item) (defs : List Definition) :
    (⟨l.definitions ++ defs⟩ : Linker).find? interface name = some item := by
  obtain ⟨d, hd, hitem⟩ := Option.map_eq_some_iff.mp h
  rw [find?, List.find?_append, hd, Option.some_or, Option.map_some, hitem]

/-! ## Definitions in a row -/

/-- One definition more leaves another pair free. -/
theorem free_append_singleton {l : Linker} {b d : Definition} (hfree : l.Free d)
    (hother : key d ≠ key b) : (⟨l.definitions ++ [b]⟩ : Linker).Free d := by
  rw [free_iff] at hfree ⊢
  rw [List.map_append, List.mem_append, not_or]
  refine ⟨hfree, ?_⟩
  rw [List.map_singleton, List.mem_singleton]
  exact hother

/-- A free definition is put behind the others. -/
theorem define_of_free {l : Linker} {d : Definition} (h : l.Free d) :
    define d l = .ok () ⟨l.definitions ++ [d]⟩ := by
  rw [define, show l.find? d.interface d.name = none from h]

/-- A definition whose pair is taken is refused, and nothing is defined. -/
theorem define_of_taken {l : Linker} {d : Definition} (h : ¬ l.Free d) :
    define d l = .error (duplicate d) l := by
  obtain ⟨item, hitem⟩ := Option.ne_none_iff_exists'.mp h
  rw [define, hitem]

/-- The first definitions are made, and what follows is done behind them. -/
theorem defineAll_append {before rest : List Definition} {l : Linker}
    (hnodup : (before.map key).Nodup) (hfree : ∀ b ∈ before, l.Free b) :
    defineAll (before ++ rest) l = defineAll rest ⟨l.definitions ++ before⟩ := by
  -- Induction on the first definitions. Each one that is made takes its own pair only, and that is
  -- none of those that follow.
  induction before generalizing l with
  | nil => rw [List.nil_append, List.append_nil]
  | cons b before ih =>
    rw [List.map_cons, List.nodup_cons] at hnodup
    have hb : l.Free b := hfree b (List.mem_cons_self ..)
    have hrest : ∀ d ∈ before, (⟨l.definitions ++ [b]⟩ : Linker).Free d := by
      intro d hd
      have hother : key d ≠ key b := fun h => hnodup.1 (h ▸ List.mem_map_of_mem hd)
      exact free_append_singleton (hfree d (List.mem_cons_of_mem b hd)) hother
    rw [List.cons_append, defineAll, Outcome.bind_apply, define_of_free hb]
    show defineAll (before ++ rest) ⟨l.definitions ++ [b]⟩ = _
    rw [ih hnodup.2 hrest, List.append_assoc, List.singleton_append]

/-- Definitions under different free names are all made. -/
theorem defineAll_of_free {defs : List Definition} {l : Linker} (hnodup : (defs.map key).Nodup)
    (hfree : ∀ d ∈ defs, l.Free d) : defineAll defs l = .ok () ⟨l.definitions ++ defs⟩ := by
  have h : defineAll (defs ++ []) l = defineAll [] ⟨l.definitions ++ defs⟩ :=
    defineAll_append hnodup hfree
  rw [List.append_nil] at h
  rw [h]
  rfl

/-- Definitions under different names are made up to the first whose name is taken. -/
theorem defineAll_of_taken {before after : List Definition} {d : Definition} {l : Linker}
    (hnodup : ((before ++ d :: after).map key).Nodup) (hfree : ∀ b ∈ before, l.Free b)
    (htaken : ¬ l.Free d) :
    defineAll (before ++ d :: after) l = .error (duplicate d) ⟨l.definitions ++ before⟩ := by
  rw [List.map_append, List.nodup_append] at hnodup
  -- the definitions in front of it do not free what was taken before
  have hstill : ¬ (⟨l.definitions ++ before⟩ : Linker).Free d := by
    obtain ⟨item, hitem⟩ := Option.ne_none_iff_exists'.mp htaken
    intro h
    cases (find?_append_of_eq_some hitem before).symm.trans h
  rw [defineAll_append hnodup.1 hfree, defineAll, Outcome.bind_apply, define_of_taken hstill]

/-- Either all of some definitions are free, or there is a first one that is not. -/
theorem free_or_first_taken (l : Linker) (defs : List Definition) :
    (∀ d ∈ defs, l.Free d) ∨
      ∃ before d after, defs = before ++ d :: after ∧ (∀ b ∈ before, l.Free b) ∧ ¬ l.Free d := by
  -- Induction on the definitions; the first one is taken, or free and in front of the rest.
  induction defs with
  | nil => exact .inl fun d hd => absurd hd List.not_mem_nil
  | cons d rest ih =>
    by_cases hd : l.find? d.interface d.name = none
    · rcases ih with hfree | ⟨before, e, after, rfl, hbefore, he⟩
      · exact .inl (List.forall_mem_cons.mpr ⟨hd, hfree⟩)
      · exact .inr ⟨d :: before, e, after, rfl, List.forall_mem_cons.mpr ⟨hd, hbefore⟩, he⟩
    · exact .inr ⟨[], d, rest, rfl, fun b hb => absurd hb List.not_mem_nil, hd⟩

/-! ## The standard definitions -/

/-- The names of the standard definitions do not depend on the size of the memory. -/
theorem keys_standard (pages : Nat) : (standard pages).map key = (standard 0).map key := rfl

/-- The standard definitions do not stand in the way of one another. -/
theorem nodup_standard (pages : Nat) : ((standard pages).map key).Nodup := by
  rw [keys_standard]
  decide

/-- The host can always make its own definitions. -/
theorem hostDefinitions_standard (pages : Nat) :
    Module.hostDefinitions pages [] = .ok ⟨standard pages⟩ := by
  have hall : defineAll (standard pages) .empty = .ok () ⟨standard pages⟩ :=
    defineAll_of_free (nodup_standard pages) fun _ _ => rfl
  have hextra (f : String × String × FuncType → EStateM LinkerError Linker Unit) :
      List.forM [] f = pure () := rfl
  simp only [Module.hostDefinitions, hextra, LawfulMonad.pure_bind, hall]

/-- What a report knows of the host's names holds for every size of the memory. -/
theorem offers_standard (pages : Nat) (i : Import) :
    (⟨standard pages⟩ : Linker).offers i = (⟨standard 1⟩ : Linker).offers i := by
  rw [Bool.eq_iff_iff, offers_iff, offers_iff, keys_standard pages, keys_standard 1]

/-- All standard definitions but the memory are functions. -/
theorem duplicate_of_standardFunction {d : Definition} (hd : d ∈ standardFunctions) :
    ∃ reason, duplicate d = .functionRegistration reason := by
  have hall : standardFunctions.all (fun d => d.item matches .function _) = true := by decide
  have hitem := List.all_eq_true.mp hall d hd
  cases h : d.item with
  | function type => exact ⟨_, by rw [duplicate, h]⟩
  | memory pages maxPages =>
    rw [h] at hitem
    cases hitem

/-- The definition that is made first. -/
def memoryDefinition (pages : Nat) : Definition := ⟨"env", "memory", .memory pages (pages + 1)⟩

/-- Where the memory is taken, linking fails at once. -/
theorem defineAll_standard_of_memory {l : Linker} (pages : Nat)
    (h : l.find? "env" "memory" ≠ none) :
    ∃ reason, defineAll (standard pages) l = .error (.memory reason) l := by
  have htaken : ¬ l.Free (memoryDefinition pages) := h
  have hnone : ∀ b ∈ ([] : List Definition), l.Free b := fun b hb => absurd hb List.not_mem_nil
  have hfirst := defineAll_of_taken (nodup_standard pages) hnone htaken
  rw [List.append_nil] at hfirst
  exact ⟨_, hfirst⟩

/-- All standard definitions are made, or those before the first one that is not free. -/
theorem defineAll_standard_cases (l : Linker) (pages : Nat) :
    ((∀ d ∈ standard pages, l.Free d) ∧
      defineAll (standard pages) l = .ok () ⟨l.definitions ++ standard pages⟩) ∨
    ∃ before d after, standard pages = before ++ d :: after ∧ (∀ b ∈ before, l.Free b) ∧
      ¬ l.Free d ∧
      defineAll (standard pages) l = .error (duplicate d) ⟨l.definitions ++ before⟩ := by
  have hnodup := nodup_standard pages
  rcases free_or_first_taken l (standard pages) with hfree | ⟨before, d, after, hsplit, hfree, hd⟩
  · exact .inl ⟨hfree, defineAll_of_free hnodup hfree⟩
  · refine .inr ⟨before, d, after, hsplit, hfree, hd, ?_⟩
    rw [hsplit] at hnodup ⊢
    exact defineAll_of_taken hnodup hfree hd

/-- The first collision is one of the memory, and nothing was made before, or the memory was made
and it is one of a function. -/
theorem first_taken_cases {l : Linker} {pages : Nat} {before after : List Definition}
    {d : Definition} (hsplit : standard pages = before ++ d :: after)
    (hfree : ∀ b ∈ before, l.Free b) (hd : ¬ l.Free d) :
    (l.find? "env" "memory" ≠ none ∧ before = [] ∧ ∃ reason, duplicate d = .memory reason) ∨
    (l.find? "env" "memory" = none ∧ memoryDefinition pages ∈ before ∧
      ∃ reason, duplicate d = .functionRegistration reason) := by
  -- the memory is the first of the standard definitions, and all that follow are functions
  cases before with
  | nil =>
    obtain ⟨rfl, -⟩ := List.cons.inj hsplit
    exact .inl ⟨hd, rfl, _, rfl⟩
  | cons b rest =>
    obtain ⟨rfl, hfunctions⟩ := List.cons.inj hsplit
    have hmem : d ∈ standardFunctions := by
      rw [hfunctions]
      exact List.mem_append_right rest (List.mem_cons_self ..)
    exact .inr ⟨hfree _ (List.mem_cons_self ..), List.mem_cons_self ..,
      duplicate_of_standardFunction hmem⟩

/-- Once linking was tried, the memory is taken. -/
theorem memory_taken_of_mem {l : Linker} (pages : Nat) {made : List Definition}
    (h : memoryDefinition pages ∈ made) :
    (⟨l.definitions ++ made⟩ : Linker).find? "env" "memory" ≠ none := by
  rw [Ne, find?_eq_none_iff, List.map_append, List.mem_append, Decidable.not_not]
  exact .inr (List.mem_map_of_mem (f := key) h)

/-- Linking leaves the memory taken, whether it succeeds or not. -/
theorem memory_taken_of_linked (l : Linker) (pages : Nat) :
    (Outcome.state (defineAll (standard pages) l)).find? "env" "memory" ≠ none := by
  rcases defineAll_standard_cases l pages with
    ⟨-, hok⟩ | ⟨before, d, after, hsplit, hfree, hd, herror⟩
  · rw [hok]
    exact memory_taken_of_mem pages (List.mem_cons_self ..)
  · rw [herror]
    rcases first_taken_cases hsplit hfree hd with ⟨htaken, rfl, -⟩ | ⟨-, hmade, -⟩
    · show (⟨l.definitions ++ []⟩ : Linker).find? "env" "memory" ≠ none
      rw [List.append_nil]
      exact htaken
    · exact memory_taken_of_mem pages hmade

/-- **The standard definitions are made up to the first collision.** In any linker:
* they are all made exactly when their pairs are all free, and then stand behind the earlier ones;
* otherwise those before the first one whose pair is taken are made, and no other. The error is one
  of the memory if that was defined, and one of a function if not;
* whatever was defined before is defined in the same way afterwards;
* linking again, with whatever memory, fails and changes nothing. -/
theorem standard_definitions_up_to_collision (l : Linker) (pages : Nat) :
    let linked := defineAll (standard pages) l
    ((∃ l', linked = .ok () l') ↔
      ∀ d ∈ standard pages, l.find? d.interface d.name = none) ∧
    (∀ l', linked = .ok () l' → l'.definitions = l.definitions ++ standard pages) ∧
    (∀ e l', linked = .error e l' →
      (∃ before d after, standard pages = before ++ d :: after ∧
        (∀ b ∈ before, l.find? b.interface b.name = none) ∧
        l.find? d.interface d.name ≠ none ∧
        l'.definitions = l.definitions ++ before) ∧
      ((∃ reason, e = .memory reason) ↔ l.find? "env" "memory" ≠ none) ∧
      ((∃ reason, e = .functionRegistration reason) ↔ l.find? "env" "memory" = none)) ∧
    (∀ interface name item, l.find? interface name = some item →
      (Outcome.state linked).find? interface name = some item) ∧
    (∀ pages', ∃ reason,
      defineAll (standard pages') (Outcome.state linked) =
        .error (.memory reason) (Outcome.state linked)) := by
  intro linked
  have hstays (made : List Definition) (hmade : Outcome.state linked = ⟨l.definitions ++ made⟩)
      (interface name : String) (item : Provision) (h : l.find? interface name = some item) :
      (Outcome.state linked).find? interface name = some item := by
    rw [hmade]
    exact find?_append_of_eq_some h made
  -- after any attempt the memory is taken, which is the first thing that linking defines
  have hagain (pages' : Nat) := defineAll_standard_of_memory pages' (memory_taken_of_linked l pages)
  rcases defineAll_standard_cases l pages with
    ⟨hfree, hok⟩ | ⟨before, d, after, hsplit, hfree, hd, herror⟩
  · have hlinked : linked = .ok () ⟨l.definitions ++ standard pages⟩ := hok
    refine ⟨⟨fun _ => hfree, fun _ => ⟨_, hlinked⟩⟩, fun l' h => ?_, fun e l' h => ?_,
      hstays _ (congrArg Outcome.state hlinked), hagain⟩
    · cases hlinked.symm.trans h
      rfl
    · cases hlinked.symm.trans h
  · have hlinked : linked = .error (duplicate d) ⟨l.definitions ++ before⟩ := herror
    have hmem : d ∈ standard pages := hsplit ▸ List.mem_append_right _ (List.mem_cons_self ..)
    refine ⟨⟨fun h => ?_, fun h => absurd (h d hmem) hd⟩, fun l' h => ?_, fun e l' h => ?_,
      hstays _ (congrArg Outcome.state hlinked), hagain⟩
    · obtain ⟨l', h⟩ := h
      cases hlinked.symm.trans h
    · cases hlinked.symm.trans h
    · cases hlinked.symm.trans h
      refine ⟨⟨before, d, after, hsplit, hfree, hd, rfl⟩, ?_⟩
      rcases first_taken_cases hsplit hfree hd with
        ⟨htaken, -, reason, hkind⟩ | ⟨hfreed, -, reason, hkind⟩
      · simp [hkind, htaken]
      · simp [hkind, hfreed]

/-- A linker in which only the date is taken: the memory and four functions are made. -/
theorem standard_definitions_up_to_collision_date :
    let l : Linker := ⟨[⟨"core", "date", .function ⟨[], [.i32]⟩⟩]⟩
    ∃ reason l', defineAll (standard 2) l = .error (.functionRegistration reason) l' ∧
      l'.definitions.map key = [("core", "date"), ("env", "memory"), ("js", "putchar"),
        ("js", "printDouble"), ("js", "floatToString"), ("core", "extFunctionCall")] ∧
      l'.find? "core" "date" = some (.function ⟨[], [.i32]⟩) ∧
      ∃ reason', defineAll (standard 3) l' = .error (.memory reason') l' := by
  intro l
  obtain ⟨-, -, hfails, hstays, hagain⟩ := standard_definitions_up_to_collision l 2
  obtain ⟨e, l', hlinked, hkeys⟩ : ∃ e l', defineAll (standard 2) l = .error e l' ∧
      l'.definitions.map key = [("core", "date"), ("env", "memory"), ("js", "putchar"),
        ("js", "printDouble"), ("js", "floatToString"), ("core", "extFunctionCall")] :=
    ⟨_, _, rfl, by decide⟩
  obtain ⟨-, -, hkind⟩ := hfails e l' hlinked
  obtain ⟨reason, rfl⟩ := hkind.mpr rfl
  rw [hlinked] at hstays hagain
  exact ⟨reason, l', hlinked, hkeys, hstays _ _ _ rfl, hagain 3⟩

end GuestBridge.Linker
