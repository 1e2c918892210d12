import ComponentCanvas.Proofs.Registry
import ComponentCanvas.Session

/-!
# Placing a Batch

Taking in a batch registers first and places then.  Placing leaves the registry and the instances
that are there alone; it appends an instance for each choice that has a type, in the order of the
choices.
-/

namespace ComponentCanvas.Session

/-! ## Appended instances -/

/-- Whether placing went from one session and report to another by appending instances of some
types, and by nothing else that the types of instances depend on. -/
structure Appends (session : Session) (report : Report) (types : List String)
    (after : Session × Report) : Prop where
  registry : after.1.registry = session.registry
  catalog : after.1.catalog = session.catalog
  instances : ∃ added : List (InstanceId × Instance),
    after.1.document.instances = session.document.instances ++ added ∧
      after.2.placed = report.placed ++ added.map (·.1) ∧ added.map (·.2.typeId) = types

theorem Appends.nil {session : Session} {report after : Report}
    (h : after.placed = report.placed) : Appends session report [] (session, after) :=
  ⟨rfl, rfl, [], by simp, by simp [h], rfl⟩

/-- What is appended in two goes is appended in one. -/
theorem Appends.trans {session : Session} {report : Report} {types others : List String}
    {between after : Session × Report} (h : Appends session report types between)
    (h' : Appends between.1 between.2 others after) :
    Appends session report (types ++ others) after := by
  obtain ⟨hregistry, hcatalog, added, hinstances, hplaced, htypes⟩ := h
  obtain ⟨hregistry', hcatalog', added', hinstances', hplaced', htypes'⟩ := h'
  refine ⟨hregistry'.trans hregistry, hcatalog'.trans hcatalog, added ++ added', ?_, ?_, ?_⟩
  · rw [hinstances', hinstances, List.append_assoc]
  · rw [hplaced', hplaced, List.map_append, List.append_assoc]
  · rw [List.map_append, htypes, htypes']

/-- A placed instance is appended. -/
theorem appends_add {session : Session} {report : Report} (placed : Instance)
    {after : Session × Report} (hsession : after.1 = (session.add placed).1)
    (hreport : after.2.placed = report.placed ++ [(session.add placed).2]) :
    Appends session report [placed.typeId] after := by
  obtain ⟨session', report'⟩ := after
  obtain rfl : session' = (session.add placed).1 := hsession
  exact ⟨rfl, rfl, [((session.add placed).2,
    { placed with properties := dropNulls placed.properties })], rfl, hreport, rfl⟩

/-! ## The types of a batch -/

/-- The type under which a choice is placed, if it is. -/
def placedType? (registry : Registry) (catalog : Catalog) : Choice →
    Option (Except Diagnostic Blueprint) → Option String
  | .picked pick, _ => (registry.resolve? catalog pick.typeId).map (·.typeId)
  | .defined _, some (.ok blueprint) => some blueprint.typeId
  | .defined _, _ => none

/-- The keys of the choices that are placed, each with the type of its instance, in order. -/
def placements (registry : Registry) (catalog : Catalog) :
    Fields Choice → List (Except Diagnostic Blueprint) → List (String × String)
  | [], _ => []
  | (key, .picked pick) :: rest, outcomes =>
    ((placedType? registry catalog (.picked pick) none).map (key, ·)).toList ++
      placements registry catalog rest outcomes
  | (key, .defined definition) :: rest, outcomes =>
    ((placedType? registry catalog (.defined definition) outcomes.head?).map (key, ·)).toList ++
      placements registry catalog rest outcomes.tail

private theorem map_snd_toList (key : String) (typeId? : Option String) :
    ((typeId?.map (key, ·)).toList).map (·.2) = typeId?.toList := by
  cases typeId? <;> rfl

/-- A definition is placed under the type of its blueprint. -/
theorem appends_placeDefinition (session : Session) (report : Report) (definition : Definition)
    (outcome : Except Diagnostic Blueprint) :
    Appends session report
      (placedType? session.registry session.catalog (.defined definition) (some outcome)).toList
      (session.placeDefinition report definition outcome) := by
  cases outcome with
  | error e => exact .nil rfl
  | ok b =>
    exact appends_add
      { typeId := b.typeId
        category := definition.category
        properties := definition.defaultProperties
        position := session.nextPosition } rfl rfl

/-- A pick is placed under the type of what it stands for. -/
theorem appends_placePick (session : Session) (report : Report) (key : String) (pick : Pick) :
    Appends session report
      (placedType? session.registry session.catalog (.picked pick) none).toList
      (session.placePick report key pick) := by
  rw [placePick, resolve?, placedType?]
  cases session.registry.resolve? session.catalog pick.typeId with
  | none => exact .nil rfl
  | some component =>
    exact appends_add (instanceOf component pick.category pick.properties session.nextPosition)
      rfl rfl

/-- What stays of a batch is placed in order. -/
theorem appends_placeAll (session : Session) (report : Report) (merged : Fields Choice)
    (outcomes : List (Except Diagnostic Blueprint)) :
    Appends session report
      ((placements session.registry session.catalog merged outcomes).map (·.2))
      (placeAll session report merged outcomes) := by
  -- each choice is placed in the session that the ones before it leave, where the registry and the
  -- catalog are still those of the start
  induction merged generalizing session report outcomes with
  | nil => exact .nil rfl
  | cons entry rest ih =>
    obtain ⟨key, choice⟩ := entry
    cases choice with
    | picked pick =>
      have hpick := appends_placePick session report key pick
      have hrest := ih (session.placePick report key pick).1
        (session.placePick report key pick).2 outcomes
      rw [hpick.registry, hpick.catalog] at hrest
      rw [placements, List.map_append, map_snd_toList]
      exact hpick.trans hrest
    | defined definition =>
      cases outcomes with
      | nil =>
        -- a definition without an outcome is passed over
        rw [placements, List.map_append, map_snd_toList]
        exact ih session report []
      | cons outcome outcomes =>
        have hdefinition := appends_placeDefinition session report definition outcome
        have hrest := ih (session.placeDefinition report definition outcome).1
          (session.placeDefinition report definition outcome).2 outcomes
        rw [hdefinition.registry, hdefinition.catalog] at hrest
        rw [placements, List.map_append, map_snd_toList]
        exact hdefinition.trans hrest

/-! ## Where the types of a batch come from -/

/-- The definitions that stay of a batch. -/
def definitionsOf (merged : Fields Choice) : List Definition :=
  merged.filterMap fun (_, choice) => definition? choice

/-- Where the type of a placed choice comes from: it is that of what a pick stands for, or the
canonical type of a definition that has been registered. -/
inductive Placed (registry : Registry) (catalog : Catalog) : Choice → String → Prop
  | picked {pick : Pick} {component : Component}
      (h : registry.resolve? catalog pick.typeId = some component) :
      Placed registry catalog (.picked pick) component.typeId
  | defined {definition : Definition} (h : registry.contains definition.typeId = true) :
      Placed registry catalog (.defined definition) (TypeId.canonical definition.typeId)

section Settled

variable {registry : Registry} {catalog : Catalog} {merged : Fields Choice}
  {outcomes : List (Except Diagnostic Blueprint)}

/-- Helper: the type of a choice that is placed, given a settled outcome for a definition. -/
private theorem placed_of_placedType? {choice : Choice}
    {outcome : Option (Except Diagnostic Blueprint)} {typeId : String}
    (houtcome : ∀ definition o, choice = .defined definition → outcome = some o →
      Registry.IsSettled registry definition o)
    (h : placedType? registry catalog choice outcome = some typeId) :
    Placed registry catalog choice typeId := by
  -- a pick is placed under the type it resolves to, a definition under the type it was settled for
  cases choice with
  | picked pick =>
    obtain ⟨component, hresolve, rfl⟩ := Option.map_eq_some_iff.mp h
    exact .picked hresolve
  | defined definition =>
    cases outcome with
    | none => cases h
    | some o =>
      cases o with
      | error e => cases h
      | ok b =>
        obtain ⟨htype, hcontains⟩ := houtcome definition (.ok b) rfl rfl b rfl
        obtain rfl : b.typeId = typeId := Option.some.inj h
        rw [htype]
        exact .defined hcontains

/-- Every placement is one of a choice that stays. -/
theorem exists_of_mem_placements
    (hsettled : List.Forall₂ (Registry.IsSettled registry) (definitionsOf merged) outcomes)
    {key typeId : String} (h : (key, typeId) ∈ placements registry catalog merged outcomes) :
    ∃ choice, (key, choice) ∈ merged ∧ Placed registry catalog choice typeId := by
  induction merged generalizing outcomes with
  | nil => cases h
  | cons entry rest ih =>
    obtain ⟨k, choice⟩ := entry
    cases choice with
    | picked pick =>
      rw [placements, List.mem_append] at h
      rcases h with h | h
      · obtain ⟨t, htype, heq⟩ := Option.map_eq_some_iff.mp (Option.mem_toList.mp h)
        obtain ⟨rfl, rfl⟩ := Prod.mk.inj heq
        exact ⟨.picked pick, List.mem_cons_self .., placed_of_placedType? (by simp) htype⟩
      · obtain ⟨c, hc, hplaced⟩ := ih hsettled h
        exact ⟨c, List.mem_cons_of_mem _ hc, hplaced⟩
    | defined definition =>
      -- only a definition takes an outcome off the list
      cases hsettled with
      | @cons _ outcome _ outcomes hfirst hrest =>
        rw [placements, List.mem_append] at h
        rcases h with h | h
        · obtain ⟨t, htype, heq⟩ := Option.map_eq_some_iff.mp (Option.mem_toList.mp h)
          obtain ⟨rfl, rfl⟩ := Prod.mk.inj heq
          refine ⟨.defined definition, List.mem_cons_self .., placed_of_placedType? ?_ htype⟩
          rintro _ _ ⟨rfl⟩ ⟨rfl⟩
          exact hfirst
        -- it is one of the later choices
        · obtain ⟨c, hc, hplaced⟩ := ih hrest h
          exact ⟨c, List.mem_cons_of_mem _ hc, hplaced⟩

/-- A pick that stands for something is placed under its key. -/
theorem mem_placements_of_picked {key : String} {pick : Pick} {component : Component}
    (hmem : (key, .picked pick) ∈ merged)
    (hresolve : registry.resolve? catalog pick.typeId = some component) :
    (key, component.typeId) ∈ placements registry catalog merged outcomes := by
  induction merged generalizing outcomes with
  | nil => cases hmem
  | cons entry rest ih =>
    obtain ⟨k, choice⟩ := entry
    rcases List.mem_cons.mp hmem with heq | hrest
    · obtain ⟨rfl, rfl⟩ := Prod.mk.inj heq
      rw [placements]
      exact List.mem_append_left _ (by simp [placedType?, hresolve])
    -- an earlier choice takes an outcome only if it is a definition
    · cases choice with
      | picked other => exact List.mem_append_right _ (ih hrest)
      | defined definition => exact List.mem_append_right _ (ih hrest)

/-- The placements are under keys of the batch, in their order. -/
theorem keys_placements_sublist :
    ((placements registry catalog merged outcomes).map (·.1)).Sublist (Fields.keys merged) := by
  -- each choice is placed once or not at all
  have hfirst : ∀ (key : String) (typeId? : Option String),
      (((typeId?.map (key, ·)).toList).map (·.1)).Sublist [key] := by
    rintro key (_ | typeId)
    · exact List.nil_sublist _
    · exact List.Sublist.refl _
  induction merged generalizing outcomes with
  | nil => exact List.Sublist.refl _
  | cons entry rest ih =>
    obtain ⟨key, choice⟩ := entry
    show List.Sublist _ ([key] ++ Fields.keys rest)
    cases choice with
    | picked pick =>
      simp only [placements, List.map_append]
      exact (hfirst key _).append ih
    | defined definition =>
      simp only [placements, List.map_append]
      exact (hfirst key _).append ih

end Settled

/-! ## Taking in a batch -/

/-- What stays of a batch of picks and definitions. -/
abbrev merged (session : Session) (picks : List Pick) (definitions : List Definition) :
    Fields Choice :=
  Payload.merge session.catalog picks definitions

/-- The registry after the definitions of a batch, and their outcomes. -/
abbrev registered (session : Session) (picks : List Pick) (definitions : List Definition) :
    Registry × List (Except Diagnostic Blueprint) :=
  session.registry.registerBatch (definitionsOf (session.merged picks definitions))

/-- The placements of a batch: the keys of the choices that are placed, each with the type of its
instance. -/
def batchPlacements (session : Session) (picks : List Pick) (definitions : List Definition) :
    List (String × String) :=
  placements (session.registered picks definitions).1 session.catalog
    (session.merged picks definitions) (session.registered picks definitions).2

/-- Taking in a batch registers its definitions and then appends its placements. -/
theorem appends_ingest (session : Session) (picks : List Pick) (definitions : List Definition) :
    Appends { session with registry := (session.registered picks definitions).1 } {}
      ((session.batchPlacements picks definitions).map (·.2))
      (session.ingest picks definitions) :=
  appends_placeAll _ _ _ _

end ComponentCanvas.Session
