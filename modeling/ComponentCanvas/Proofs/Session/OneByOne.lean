import ComponentCanvas.Proofs.Payload.Merging
import ComponentCanvas.Proofs.Registry.OneByOne
import ComponentCanvas.Proofs.Session.Placement

/-!
# Batches, One by One

A batch is registered as a whole, and the outcomes are handed out to its definitions while it is
placed.  The reference is simpler: each definition is registered by itself and keeps its outcome,
and then each choice has one fate, in order.  The two are the same for every session and batch.
-/

namespace ComponentCanvas.Session

/-! ## The reference -/

/-- A choice that is ready to be placed: a definition has the outcome of its registration. -/
inductive Decided where
  | picked (key : String) (pick : Pick)
  | defined (definition : Definition) (outcome : Except Diagnostic Blueprint)

/-- Registers the definitions among choices, one after the other. -/
def registerChoices (registry : Registry) : Fields Choice → Registry × List Decided
  | [] => (registry, [])
  | (key, .picked pick) :: rest =>
    let (final, decided) := registerChoices registry rest
    (final, .picked key pick :: decided)
  | (_, .defined definition) :: rest =>
    let (between, outcome) := registry.register definition
    let (final, decided) := registerChoices between rest
    (final, .defined definition outcome :: decided)

/-- What comes of a choice: an instance, for a definition with the type that it registers, or a
warning. -/
inductive Fate where
  | placed (added : Instance) (registered : Option String)
  | warned (warning : Warning)

/-- What comes of a choice in a session. -/
def fate (session : Session) : Decided → Fate
  | .picked key pick =>
    match session.resolve? pick.typeId with
    | some component =>
      .placed (instanceOf component pick.category pick.properties session.nextPosition) none
    | none => .warned (.unknownType key)
  | .defined definition (.ok blueprint) =>
    .placed
      { typeId := blueprint.typeId
        category := definition.category
        properties := definition.defaultProperties
        position := session.nextPosition } (some blueprint.typeId)
  | .defined definition (.error diagnostic) =>
    .warned (.rejectedSource definition.typeId diagnostic)

/-- The session and the report after a fate: an instance is appended and its identifier reported,
or the warning is. -/
def meet (session : Session) (report : Report) : Fate → Session × Report
  | .placed added registered =>
    let (session, id) := session.add added
    (session, { report with
      placed := report.placed ++ [id]
      registered := report.registered ++ registered.toList })
  | .warned warning => (session, report.warn warning)

/-- Lets choices meet their fates in order. -/
def meetAll (session : Session) (report : Report) : List Decided → Session × Report
  | [] => (session, report)
  | choice :: rest =>
    let (session, report) := session.meet report (session.fate choice)
    meetAll session report rest

/-- Takes in a batch one by one: each definition that stays is registered, and then each choice
meets its fate. -/
def ingestEach (session : Session) (picks : List Pick) (definitions : List Definition) :
    Session × Report :=
  let (registry, decided) := registerChoices session.registry (session.merged picks definitions)
  meetAll { session with registry } {} decided

/-! ## Handing out outcomes -/

/-- Hands outcomes out to the definitions among choices, in order, and gives back those that are
left.  There is no result if they run out. -/
def handOut : Fields Choice → List (Except Diagnostic Blueprint) →
    Option (List Decided × List (Except Diagnostic Blueprint))
  | [], outcomes => some ([], outcomes)
  | (key, .picked pick) :: rest, outcomes =>
    (handOut rest outcomes).map fun (decided, left) => (.picked key pick :: decided, left)
  | (_, .defined _) :: _, [] => none
  | (_, .defined definition) :: rest, outcome :: outcomes =>
    (handOut rest outcomes).map fun (decided, left) =>
      (.defined definition outcome :: decided, left)

/-- A pick meets its fate. -/
theorem placePick_eq_meet (session : Session) (report : Report) (key : String) (pick : Pick) :
    session.placePick report key pick =
      session.meet report (session.fate (.picked key pick)) := by
  rw [placePick, fate]
  cases session.resolve? pick.typeId with
  | none => rfl
  | some component => simp [meet]

/-- A definition meets its fate. -/
theorem placeDefinition_eq_meet (session : Session) (report : Report) (definition : Definition)
    (outcome : Except Diagnostic Blueprint) :
    session.placeDefinition report definition outcome =
      session.meet report (session.fate (.defined definition outcome)) := by
  cases outcome <;> rfl

/-- Where the outcomes do not run out, placing a batch lets each choice meet its fate. -/
theorem placeAll_eq_meetAll {merged : Fields Choice}
    {outcomes left : List (Except Diagnostic Blueprint)} {decided : List Decided}
    (h : handOut merged outcomes = some (decided, left)) (session : Session) (report : Report) :
    placeAll session report merged outcomes = meetAll session report decided := by
  -- the two walks take the choices in one order, and an outcome is taken off for each definition
  induction merged generalizing session report outcomes decided with
  | nil =>
    obtain ⟨rfl, rfl⟩ := Prod.mk.inj (Option.some.inj h)
    rfl
  | cons entry rest ih =>
    obtain ⟨key, choice⟩ := entry
    cases choice with
    | picked pick =>
      obtain ⟨⟨ds, l⟩, hrest, heq⟩ := Option.map_eq_some_iff.mp h
      obtain ⟨rfl, rfl⟩ := Prod.mk.inj heq
      rw [placeAll, meetAll, placePick_eq_meet]
      exact ih hrest _ _
    | defined definition =>
      cases outcomes with
      | nil => cases h
      | cons outcome outcomes =>
        obtain ⟨⟨ds, l⟩, hrest, heq⟩ := Option.map_eq_some_iff.mp h
        obtain ⟨rfl, rfl⟩ := Prod.mk.inj heq
        rw [placeAll, meetAll, placeDefinition_eq_meet]
        exact ih hrest _ _

/-- Registering the definitions of a batch one by one gives as many outcomes as are handed out. -/
theorem handOut_registerEach (registry : Registry) (merged : Fields Choice) :
    (registry.registerEach (definitionsOf merged)).1 = (registerChoices registry merged).1 ∧
    handOut merged (registry.registerEach (definitionsOf merged)).2 =
      some ((registerChoices registry merged).2, []) := by
  induction merged generalizing registry with
  | nil => exact ⟨rfl, rfl⟩
  | cons entry rest ih =>
    obtain ⟨key, choice⟩ := entry
    cases choice with
    -- a pick takes no outcome
    | picked pick =>
      obtain ⟨hregistry, hrest⟩ := ih registry
      have hdefinitions : definitionsOf ((key, .picked pick) :: rest) = definitionsOf rest := rfl
      rw [hdefinitions, handOut, hrest]
      exact ⟨hregistry, rfl⟩
    -- a definition takes the first outcome, which is that of its own registering
    | defined definition =>
      obtain ⟨hregistry, hrest⟩ := ih (registry.register definition).1
      have hdefinitions : definitionsOf ((key, .defined definition) :: rest) =
        definition :: definitionsOf rest := rfl
      rw [hdefinitions, Registry.registerEach_cons, handOut, hrest]
      exact ⟨hregistry, rfl⟩

/-! ## What is reported -/

/-- A fate is reported once, as an instance or as a warning. -/
theorem length_meet (session : Session) (report : Report) (what : Fate) :
    (session.meet report what).2.placed.length + (session.meet report what).2.warnings.length =
      report.placed.length + report.warnings.length + 1 := by
  cases what with
  -- a choice is placed or warned of, never both
  | placed added registered =>
    have hplaced : (session.meet report (.placed added registered)).2.placed.length =
        report.placed.length + 1 := by simp [meet]
    have hwarnings : (session.meet report (.placed added registered)).2.warnings =
        report.warnings := rfl
    rw [hplaced, hwarnings]
    omega
  | warned warning =>
    have hwarnings : (session.meet report (.warned warning)).2.warnings.length =
        report.warnings.length + 1 := by simp [meet, Report.warn]
    have hplaced : (session.meet report (.warned warning)).2.placed = report.placed := rfl
    rw [hplaced, hwarnings]
    omega

/-- Each choice is reported once. -/
theorem length_meetAll (session : Session) (report : Report) (decided : List Decided) :
    (meetAll session report decided).2.placed.length +
        (meetAll session report decided).2.warnings.length =
      report.placed.length + report.warnings.length + decided.length := by
  induction decided generalizing session report with
  | nil => rfl
  | cons choice rest ih =>
    rw [meetAll, ih, length_meet, List.length_cons]
    omega

theorem length_registerChoices (registry : Registry) (merged : Fields Choice) :
    (registerChoices registry merged).2.length = merged.length := by
  induction merged generalizing registry with
  | nil => rfl
  | cons entry rest ih =>
    obtain ⟨key, choice⟩ := entry
    cases choice with
    | picked pick => simp only [registerChoices, List.length_cons, ih]
    | defined definition => simp only [registerChoices, List.length_cons, ih]

/-! ## Taking in a batch -/

variable {session : Session} {picks : List Pick} {definitions : List Definition}

/-- Helper: the types that the definitions of a batch make are among its keys. -/
private theorem keys_definitionsOf_sublist {merged : Fields Choice}
    (h : ∀ key definition, (key, Choice.defined definition) ∈ merged →
      key = Payload.definitionKey definition) :
    ((definitionsOf merged).map Payload.definitionKey).Sublist (Fields.keys merged) := by
  induction merged with
  | nil => exact List.Sublist.refl _
  | cons entry rest ih =>
    obtain ⟨key, choice⟩ := entry
    have hrest := ih fun k d hmem => h k d (List.mem_cons_of_mem _ hmem)
    -- the key of a pick is left out, that of a definition is its type
    cases choice with
    | picked pick => exact hrest.cons _
    | defined definition =>
      obtain rfl := h key definition (List.mem_cons_self ..)
      exact hrest.cons_cons _

/-- The definitions that stay of a batch make distinct types. -/
theorem nodup_definitionsOf :
    ((definitionsOf (session.merged picks definitions)).map Payload.definitionKey).Nodup := by
  refine Payload.nodup_keys_merge.sublist (keys_definitionsOf_sublist ?_)
  intro key definition hmem
  have hkey : key = Payload.choiceKey session.catalog (.defined definition) :=
    Payload.key_of_mem_merge hmem
  exact hkey

/-- Taking in a batch is registering its definitions one by one and letting each choice meet its
fate in order.  So the instances and the warnings that are reported are as many as the choices; the
instances that are reported are appended to those that are there, in the order of the report; and
each definition finds an outcome, and no outcome is left. -/
theorem ingest_eq_ingestEach (session : Session) (picks : List Pick)
    (definitions : List Definition) :
    let merged := session.merged picks definitions
    let after := session.ingest picks definitions
    after = session.ingestEach picks definitions ∧
      after.2.placed.length + after.2.warnings.length = merged.length ∧
      (∃ added : List (InstanceId × Instance),
        after.1.document.instances = session.document.instances ++ added ∧
        after.2.placed = added.map (·.1)) ∧
      handOut merged (session.registered picks definitions).2 =
        some ((registerChoices session.registry merged).2, []) := by
  intro merged after
  -- the definitions of a merged batch have distinct types, so none overwrites another
  have hbatch : session.registered picks definitions =
      session.registry.registerEach (definitionsOf merged) :=
    Registry.registerBatch_eq_registerEach nodup_definitionsOf
  obtain ⟨hregistry, hhanded⟩ := handOut_registerEach session.registry merged
  rw [← hbatch] at hregistry hhanded
  -- every definition meets its own outcome, as it would if it were registered by itself
  have hafter : after = session.ingestEach picks definitions := by
    show placeAll { session with registry := (session.registered picks definitions).1 } {} merged
      (session.registered picks definitions).2 = _
    rw [placeAll_eq_meetAll hhanded, hregistry]
    rfl
  obtain ⟨-, -, added, hinstances, hplaced, -⟩ := session.appends_ingest picks definitions
  refine ⟨hafter, ?_, ⟨added, hinstances, by simpa using hplaced⟩, hhanded⟩
  rw [hafter, ingestEach, length_meetAll, length_registerChoices]
  exact Nat.zero_add _

end ComponentCanvas.Session
