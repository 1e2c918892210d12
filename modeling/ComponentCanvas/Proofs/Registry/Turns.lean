import ComponentCanvas.Proofs.Blueprint.Factory
import ComponentCanvas.Proofs.Registry.OneByOne

/-!
# The Turns of a Batch

A batch takes its definitions in order, one turn each, as registering one by one does.  The two
differ in what a turn asks.  A turn of a batch goes by the registry as it was before the batch: a
source that was registered then is not compiled again, and any other source is, whatever the batch
has registered in the meantime.
-/

namespace ComponentCanvas.Registry

variable {registry before now : Registry} {definition : Definition}

/-! ## Turn by turn -/

/-- The outcome of registering a definition. -/
abbrev Outcome := Except Diagnostic Blueprint

/-- Takes definitions in order, each in a turn that may change the registry. -/
def takeAll (turn : Registry → Definition → Registry × Outcome) (registry : Registry) :
    List Definition → Registry × List Outcome
  | [] => (registry, [])
  | definition :: rest =>
    let (between, outcome) := turn registry definition
    let (final, outcomes) := takeAll turn between rest
    (final, outcome :: outcomes)

section TakeAll

variable {turn other : Registry → Definition → Registry × Outcome}

theorem takeAll_cons (registry : Registry) (definition : Definition) (rest : List Definition) :
    takeAll turn registry (definition :: rest) =
      ((takeAll turn (turn registry definition).1 rest).1,
        (turn registry definition).2 :: (takeAll turn (turn registry definition).1 rest).2) := rfl

/-- Taking some definitions and then others is taking all of them. -/
theorem takeAll_append (registry : Registry) (definitions others : List Definition) :
    takeAll turn registry (definitions ++ others) =
      ((takeAll turn (takeAll turn registry definitions).1 others).1,
        (takeAll turn registry definitions).2 ++
          (takeAll turn (takeAll turn registry definitions).1 others).2) := by
  induction definitions generalizing registry with
  | nil => rfl
  | cons definition rest ih => rw [List.cons_append, takeAll_cons, takeAll_cons, ih]; rfl

/-- The definitions up to a turn, with that turn as the last one. -/
theorem takeAll_take_succ {definitions : List Definition} (i : Fin definitions.length) :
    takeAll turn registry (definitions.take (i + 1)) =
      ((turn (takeAll turn registry (definitions.take i)).1 definitions[i]).1,
        (takeAll turn registry (definitions.take i)).2 ++
          [(turn (takeAll turn registry (definitions.take i)).1 definitions[i]).2]) := by
  rw [← List.take_append_getElem i.isLt, takeAll_append]
  rfl

/-- Each outcome is that of its turn, in the registry that the turns before it have made. -/
theorem getElem?_takeAll (registry : Registry) (definitions : List Definition) (i : Nat) :
    (takeAll turn registry definitions).2[i]? =
      definitions[i]?.map fun definition =>
        (turn (takeAll turn registry (definitions.take i)).1 definition).2 := by
  induction definitions generalizing registry i with
  | nil => rfl
  | cons definition rest ih =>
    cases i with
    | zero => rfl
    | succ i =>
      rw [takeAll_cons, List.getElem?_cons_succ, ih, List.getElem?_cons_succ, List.take_succ_cons,
        takeAll_cons]

/-- Two ways of taking definitions agree after every turn exactly if no turn tells them apart. -/
theorem takeAll_take_eq_iff {definitions : List Definition} :
    (∀ n, takeAll turn registry (definitions.take n) = takeAll other registry (definitions.take n))
      ↔ ∀ i : Fin definitions.length,
        turn (takeAll other registry (definitions.take i)).1 definitions[i] =
          other (takeAll other registry (definitions.take i)).1 definitions[i] := by
  constructor
  · intro h i
    -- the turn is what the definitions up to it have more than those before it
    have hnext := h (i + 1)
    rw [takeAll_take_succ, takeAll_take_succ, h i] at hnext
    obtain ⟨hregistry, houtcomes⟩ := Prod.mk.inj hnext
    exact Prod.ext hregistry (List.singleton_inj.mp (List.append_cancel_left houtcomes))
  · intro h n
    -- the induction is on the number of turns, and runs out of definitions at their number
    induction n with
    | zero => rfl
    | succ n ih =>
      by_cases hn : n < definitions.length
      · have hturn := h ⟨n, hn⟩
        rw [takeAll_take_succ ⟨n, hn⟩, takeAll_take_succ ⟨n, hn⟩, ih, hturn]
      · rw [List.take_of_length_le (by omega)] at ih ⊢
        exact ih

end TakeAll

theorem register_of_current {b : Blueprint} (h : registry.current? definition = some b) :
    registry.register definition = (registry, .ok b) := by
  rw [register, h]

theorem register_of_not_current (h : registry.current? definition = none) :
    registry.register definition =
      (registry.settle definition (registry.compile definition), registry.compile definition) := by
  rw [register, h]

/-- Registering one by one goes turn by turn. -/
theorem registerEach_eq_takeAll (registry : Registry) (definitions : List Definition) :
    registry.registerEach definitions = takeAll register registry definitions := by
  induction definitions generalizing registry with
  | nil => rfl
  | cons definition rest ih => rw [registerEach_cons, takeAll_cons, ih]

/-- What a batch does when it comes to a definition.  Whether the source is registered already, and
what it is compiled to, was found out in the registry before the batch. -/
def takeTurn (before now : Registry) (definition : Definition) : Registry × Outcome :=
  match before.current? definition with
  | some _ =>
    (now, match now.current? definition with
      | some blueprint => .ok blueprint
      | none => .error (.general .lostUnit))
  | none => (now.settle definition (before.compile definition), before.compile definition)

/-- Settling what was compiled beforehand is letting each definition take its turn. -/
theorem settleAll_eq_takeAll (before now : Registry) (definitions : List Definition) :
    now.settleAll (before.pendingOf definitions) = takeAll (takeTurn before) now definitions := by
  induction definitions generalizing now with
  | nil => rfl
  | cons definition rest ih =>
    rw [takeAll_cons, ← ih, takeTurn, pendingOf, List.map_cons, ← pendingOf]
    -- a unit that was current at first is looked up again when its turn comes
    cases before.current? definition with
    | some b =>
      cases hcurrent : now.current? definition with
      | none => simp only [Option.isSome_some, if_true, settleAll, hcurrent]
      | some b => simp only [Option.isSome_some, if_true, settleAll, hcurrent]
    | none => simp only [Option.isSome_none, Bool.false_eq_true, if_false, settleAll]

/-- A batch goes turn by turn. -/
theorem registerBatch_eq_takeAll (registry : Registry) (definitions : List Definition) :
    registry.registerBatch definitions = takeAll registry.takeTurn registry definitions :=
  settleAll_eq_takeAll registry registry definitions

/-! ## When a turn of a batch is like registering -/

/-- Whether the registry that a batch went by has no other answer for a definition than the
registry now. -/
structure Timely (before now : Registry) (definition : Definition) : Prop where
  /-- A source that was registered before the batch still is. -/
  kept : before.current? definition ≠ none → now.current? definition ≠ none
  /-- A source that only the batch has registered is compiled to the same again, and is registered
  with the same definition. -/
  renewed : before.current? definition = none → ∀ b, now.current? definition = some b →
    now.compile definition = .ok b ∧
      now.get? definition.typeId = some (entryOf definition b)

theorem compile_ne_lostUnit :
    registry.compile definition ≠ .error (.general .lostUnit) := by
  intro h
  rw [compile] at h
  exact Blueprint.blamesSource_compile _ h trivial

/-- A compiled definition that is registered already changes nothing. -/
theorem settle_eq_self {b : Blueprint} (hcompile : registry.compile definition = .ok b) :
    registry.settle definition (.ok b) = registry ↔
      registry.get? definition.typeId = some (entryOf definition b) := by
  rw [get?, ← Blueprint.typeId_of_compile hcompile, ← Fields.insert_eq_self, settle]
  constructor
  · intro h
    exact congrArg entries h
  · intro h
    rw [h]

theorem takeTurn_of_none (hscope : now.scope = before.scope)
    (hbefore : before.current? definition = none) :
    before.takeTurn now definition =
      (now.settle definition (now.compile definition), now.compile definition) := by
  have hcompile : before.compile definition = now.compile definition := by
    rw [compile, compile, hscope]
  rw [takeTurn, hbefore, hcompile]

/-- Where nothing is compiled, the source has to be registered still. -/
theorem takeTurn_eq_register_of_some {b : Blueprint}
    (hbefore : before.current? definition = some b) :
    before.takeTurn now definition = now.register definition ↔
      now.current? definition ≠ none := by
  rw [takeTurn, hbefore]
  cases hnow : now.current? definition with
  | some b' =>
    rw [register_of_current hnow]
    exact iff_of_true rfl (Option.some_ne_none b')
  | none =>
    -- the turn has no unit to give, and a compilation never fails for want of one
    rw [register_of_not_current hnow]
    refine iff_of_false ?_ fun h => h rfl
    intro h
    obtain ⟨-, hlost⟩ := Prod.mk.inj h
    exact compile_ne_lostUnit hlost.symm

/-- Where the definition is compiled, what is registered has to be what it is compiled to. -/
theorem takeTurn_eq_register_of_none (hscope : now.scope = before.scope)
    (hbefore : before.current? definition = none) :
    before.takeTurn now definition = now.register definition ↔
      ∀ b, now.current? definition = some b →
        now.compile definition = .ok b ∧
          now.get? definition.typeId = some (entryOf definition b) := by
  -- the batch compiles the definition in any case, registering it only if its unit is not current
  rw [takeTurn_of_none hscope hbefore]
  cases hnow : now.current? definition with
  | none =>
    rw [register_of_not_current hnow]
    exact iff_of_true rfl nofun
  | some b =>
    rw [register_of_current hnow]
    constructor
    · intro h b' hb
      obtain rfl := Option.some.inj hb
      obtain ⟨hregistry, hcompile⟩ := Prod.mk.inj h
      rw [hcompile] at hregistry
      exact ⟨hcompile, (settle_eq_self hcompile).mp hregistry⟩
    · intro h
      obtain ⟨hcompile, hget⟩ := h b rfl
      rw [hcompile, (settle_eq_self hcompile).mpr hget]

/-- A turn of a batch registers its definition exactly if it is timely. -/
theorem takeTurn_eq_register_iff (hscope : now.scope = before.scope) :
    before.takeTurn now definition = now.register definition ↔ Timely before now definition := by
  -- what was current at first has to be so still, and what was not must not matter since
  cases hbefore : before.current? definition with
  | some b =>
    have hsome : before.current? definition ≠ none := by
      rw [hbefore]
      exact Option.some_ne_none b
    rw [takeTurn_eq_register_of_some hbefore]
    constructor
    · intro hnow
      exact ⟨fun _ => hnow, fun hnone => absurd hnone hsome⟩
    · intro h
      exact h.kept hsome
  | none =>
    rw [takeTurn_eq_register_of_none hscope hbefore]
    constructor
    · intro h
      exact ⟨fun hsome => absurd hbefore hsome, fun _ => h⟩
    · intro h
      exact h.renewed hbefore

/-- A turn of a batch loses a unit exactly if its source was registered before the batch and no
longer is. -/
theorem takeTurn_lost_iff (hscope : now.scope = before.scope) :
    (before.takeTurn now definition).2 = .error (.general .lostUnit) ↔
      before.current? definition ≠ none ∧ now.current? definition = none := by
  cases hbefore : before.current? definition with
  | some b =>
    rw [takeTurn, hbefore]
    cases now.current? definition with
    | some b' => exact iff_of_false nofun nofun
    -- current at first, and overwritten by an earlier definition of the batch
    | none => exact iff_of_true rfl ⟨Option.some_ne_none b, rfl⟩
  | none =>
    rw [takeTurn_of_none hscope hbefore]
    dsimp only
    exact iff_of_false compile_ne_lostUnit fun h => h.1 rfl

/-! ## Whole batches -/

theorem scope_register (registry : Registry) (definition : Definition) :
    (registry.register definition).1.scope = registry.scope := by
  cases hcurrent : registry.current? definition with
  | some b => rw [register_of_current hcurrent]
  | none => rw [register_of_not_current hcurrent, scope_settle]

theorem scope_takeTurn (before now : Registry) (definition : Definition) :
    (before.takeTurn now definition).1.scope = now.scope := by
  rw [takeTurn]
  split
  · rfl
  · dsimp only
    rw [scope_settle]

/-- Turns that keep the scope keep it to the end. -/
theorem scope_takeAll {turn : Registry → Definition → Registry × Outcome}
    (hturn : ∀ now definition, (turn now definition).1.scope = now.scope) (registry : Registry)
    (definitions : List Definition) :
    (takeAll turn registry definitions).1.scope = registry.scope := by
  induction definitions generalizing registry with
  | nil => rfl
  | cons definition rest ih => rw [takeAll_cons, ih, hturn]

/-- A batch is registering one by one, up to each of its definitions, exactly if all of its turns
are timely.  The unit of a definition is lost exactly if its source was registered before the batch
and is not when its turn comes. -/
theorem registerBatch_eq_iff_timely (registry : Registry) (definitions : List Definition) :
    ((∀ n, registry.registerBatch (definitions.take n) =
        registry.registerEach (definitions.take n)) ↔
      ∀ i : Fin definitions.length,
        Timely registry (registry.registerEach (definitions.take i)).1 definitions[i]) ∧
    ∀ i : Fin definitions.length,
      (registry.registerBatch definitions).2[i.1]? = some (.error (.general .lostUnit)) ↔
        registry.current? definitions[i] ≠ none ∧
          (registry.registerBatch (definitions.take i)).1.current? definitions[i] = none := by
  constructor
  · simp only [registerBatch_eq_takeAll, registerEach_eq_takeAll]
    rw [takeAll_take_eq_iff]
    exact forall_congr' fun i => takeTurn_eq_register_iff (scope_takeAll scope_register ..)
  · intro i
    rw [registerBatch_eq_takeAll, registerBatch_eq_takeAll, getElem?_takeAll,
      List.getElem?_eq_getElem i.isLt, Option.map_some, Option.some_inj]
    exact takeTurn_lost_iff (scope_takeAll (scope_takeTurn registry) ..)

/-- A card with a division. -/
def divisionCard : Definition :=
  ⟨"Card", .other, [], "function Card() \x7b return <div/>; \x7d"⟩

/-- A card with a paragraph. -/
def paragraphCard : Definition :=
  ⟨"Card", .other, [], "function Card() \x7b return <p/>; \x7d"⟩

/-- A registry with the division. -/
def divisionRegistry : Registry := (register ⟨Scope.ofConfig {}, []⟩ divisionCard).1

/-- A batch that replaces the division by the paragraph and goes back to it loses its unit. -/
theorem registerBatch_of_reverted :
    (divisionRegistry.registerBatch [paragraphCard, divisionCard]).2.map (·.isOk) =
      [true, false] ∧
    (divisionRegistry.registerEach [paragraphCard, divisionCard]).2.map (·.isOk) =
      [true, true] ∧
    divisionRegistry.registerBatch [paragraphCard, divisionCard] ≠
      divisionRegistry.registerEach [paragraphCard, divisionCard] := by
  have hbatch : (divisionRegistry.registerBatch [paragraphCard, divisionCard]).2.map (·.isOk) =
      [true, false] := by decide +kernel
  have heach : (divisionRegistry.registerEach [paragraphCard, divisionCard]).2.map (·.isOk) =
      [true, true] := by decide +kernel
  refine ⟨hbatch, heach, fun h => ?_⟩
  rw [h, heach] at hbatch
  cases hbatch

end ComponentCanvas.Registry
