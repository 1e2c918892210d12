import ComponentCanvas.Payload.Merging
import ComponentCanvas.Proofs.Registry

/-!
# Batches of Definitions, One by One

A batch compiles all of its definitions against the registry as it was, before it registers the
first of them.  As long as no two definitions make the same type, this is the same as registering
one definition after the other: what one of them writes is no entry that another one asks for.
-/

namespace ComponentCanvas.Registry

/-- Registers definitions one after the other. -/
def registerEach (registry : Registry) :
    List Definition → Registry × List (Except Diagnostic Blueprint)
  | [] => (registry, [])
  | definition :: rest =>
    let (between, outcome) := registry.register definition
    let (final, outcomes) := registerEach between rest
    (final, outcome :: outcomes)

theorem registerEach_cons (registry : Registry) (definition : Definition)
    (rest : List Definition) :
    registry.registerEach (definition :: rest) =
      (((registry.register definition).1.registerEach rest).1,
        (registry.register definition).2 ::
          ((registry.register definition).1.registerEach rest).2) := rfl

/-! ## What a definition leaves alone -/

variable {registry before : Registry} {definition other : Definition}

@[simp] theorem scope_settle (registry : Registry) (definition : Definition)
    (outcome : Except Diagnostic Blueprint) :
    (registry.settle definition outcome).scope = registry.scope := by
  cases outcome <;> rfl

/-- Whether two definitions make different types. -/
def MakesOther (definition other : Definition) : Prop :=
  Payload.definitionKey definition ≠ Payload.definitionKey other

/-- A definition writes no entry but that of its own type. -/
theorem get?_settle {outcome : Except Diagnostic Blueprint} (h : MakesOther definition other)
    (houtcome : IsOutcome definition outcome) :
    (registry.settle definition outcome).get? other.typeId = registry.get? other.typeId := by
  cases outcome with
  | error e => rfl
  | ok b =>
    rw [get?, get?, settle]
    apply Fields.get?_insert_of_ne
    rw [houtcome b rfl]
    exact Ne.symm h

/-! ## The snapshot of a batch -/

/-- The definitions of a batch, each with its compilation unless its source is registered
already. -/
def pendingOf (registry : Registry) (definitions : List Definition) :
    List (Definition × Option (Except Diagnostic Blueprint)) :=
  definitions.map fun definition =>
    (definition,
      if (registry.current? definition).isSome then none else some (registry.compile definition))

/-- Whether a registry answers for a definition as it did before. -/
def Agrees (before registry : Registry) (definition : Definition) : Prop :=
  registry.get? definition.typeId = before.get? definition.typeId

theorem Agrees.current? (h : Agrees before registry definition) :
    registry.current? definition = before.current? definition := by
  rw [Registry.current?, Registry.current?, h]

theorem Agrees.settle {outcome : Except Diagnostic Blueprint}
    (h : Agrees before registry other) (hother : MakesOther definition other)
    (houtcome : IsOutcome definition outcome) :
    Agrees before (registry.settle definition outcome) other := by
  rw [Agrees, get?_settle hother houtcome]
  exact h

/-- Settling what was compiled against a registry is registering one by one in every later one that
answers for these definitions in the same way. -/
theorem settleAll_pendingOf {definitions : List Definition}
    (hscope : registry.scope = before.scope)
    (hagrees : ∀ definition ∈ definitions, Agrees before registry definition)
    (hdistinct : definitions.Pairwise MakesOther) :
    registry.settleAll (before.pendingOf definitions) = registry.registerEach definitions := by
  -- the registry that the batch was compiled against stays, the one that is written to goes along
  induction definitions generalizing registry with
  | nil => rfl
  | cons definition rest ih =>
    obtain ⟨hagree, hagrees⟩ := List.forall_mem_cons.mp hagrees
    obtain ⟨hother, hdistinct⟩ := List.pairwise_cons.mp hdistinct
    have hcurrent := hagree.current?
    rw [registerEach, register, hcurrent]
    cases hbefore : before.current? definition with
    | some b =>
      -- what was current from the start changes nothing
      have hrest := ih hscope hagrees hdistinct
      simp only [pendingOf] at hrest
      simp only [pendingOf, List.map_cons, hbefore, Option.isSome_some, if_true, settleAll,
        hcurrent, hrest]
    | none =>
      -- the registry that is written to has the same scope, so it compiles to the same
      have hcompile : registry.compile definition = before.compile definition := by
        rw [compile, compile, hscope]
      have houtcome := isOutcome_compile before definition
      have hsettled : ∀ d ∈ rest, Agrees before
          (registry.settle definition (before.compile definition)) d :=
        fun d hd => (hagrees d hd).settle (hother d hd) houtcome
      have hrest := ih (by rw [scope_settle, hscope]) hsettled hdistinct
      simp only [pendingOf] at hrest
      simp only [pendingOf, List.map_cons, hbefore, Option.isSome_none, Bool.false_eq_true,
        if_false, settleAll, hcompile, hrest]

/-- Registering a batch of definitions that make distinct types is registering them one by one. -/
theorem registerBatch_eq_registerEach {definitions : List Definition}
    (h : (definitions.map Payload.definitionKey).Nodup) :
    registry.registerBatch definitions = registry.registerEach definitions := by
  rw [List.Nodup, List.pairwise_map] at h
  exact settleAll_pendingOf rfl (fun _ _ => rfl) h

end ComponentCanvas.Registry
