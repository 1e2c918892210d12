import ComponentCanvas.Proofs.Document
import ComponentCanvas.Proofs.Except
import ComponentCanvas.Proofs.Session.Placement

/-!
# Runs of a Session

A run is a sequence of actions on a session, of which one that fails changes nothing.  Along every
run the catalog is the one that was accepted and the registry keeps its keys; if no instance is
added as it comes, the type of each placed instance stands for a component.
-/

namespace ComponentCanvas

/-! ## Actions -/

/-- What is done to a session. -/
inductive Action where
  /-- Adds an instance of any type as it comes. -/
  | add (placed : Instance)
  | ingest (picks : List Pick) (definitions : List Definition)
  | ingestText (text : String)
  | register (definition : Definition)
  | place (typeId : String) (properties : Option Bag) (position : Option Position)
  | update (id : InstanceId) (changes : Bag)
  | remove (id : InstanceId)
  | move (id : InstanceId) (position : Position)

/-- Whether an action adds an instance as it comes. -/
def Action.IsRaw : Action → Prop
  | .add _ => True
  | _ => False

namespace Session

/-- The session after an action. -/
def act (session : Session) : Action → Session
  | .add placed => (session.add placed).1
  | .ingest picks definitions => (session.ingest picks definitions).1
  | .ingestText text =>
    match session.ingestText text with
    | .ok (after, _) => after
    | .error _ => session
  | .register definition => (session.register definition).1
  | .place typeId properties position =>
    match session.place typeId properties position with
    | .ok (after, _) => after
    | .error _ => session
  | .update id changes =>
    match session.update id changes with
    | .ok after => after
    | .error _ => session
  | .remove id =>
    match session.remove id with
    | .ok (after, _) => after
    | .error _ => session
  | .move id position =>
    match session.move id position with
    | .ok after => after
    | .error _ => session

/-- The session after a run. -/
def run (session : Session) (actions : List Action) : Session := actions.foldl act session

theorem place_of_resolve? {session : Session} {typeId : String} {component : Component}
    (h : session.resolve? typeId = some component) (properties : Option Bag)
    (position : Option Position) :
    session.place typeId properties position =
      .ok (session.add (instanceOf component none (properties.getD [])
        (position.getD session.nextPosition))) := by
  rw [place, h]

/-! ## What one action does -/

/-- What an action can do to a session.  A change of the document leaves only types that were
there. -/
inductive Step (session : Session) : Action → Session → Prop
  | fail {action : Action} : Step session action session
  | add (placed : Instance) : Step session (.add placed) (session.add placed).1
  | ingest {action : Action} (picks : List Pick) (definitions : List Definition) :
    Step session action (session.ingest picks definitions).1
  | register {action : Action} (definition : Definition) :
    Step session action (session.register definition).1
  | place {action : Action} {typeId : String} {component : Component} {placed : Instance}
    (hresolve : session.resolve? typeId = some component)
    (htype : placed.typeId = component.typeId) : Step session action (session.add placed).1
  | change {action : Action} {document : Document}
    (h : ∀ entry ∈ document.instances, ∃ entry' ∈ session.document.instances,
      entry.2.typeId = entry'.2.typeId) : Step session action { session with document }

/-- Helper: a change of one instance that leaves its type. -/
private theorem exists_of_mem_modify {document after : Document} {id : InstanceId}
    {change : Instance → Instance} (h : document.modify id change = .ok after)
    (hchange : ∀ placed, (change placed).typeId = placed.typeId) :
    ∀ entry ∈ after.instances, ∃ entry' ∈ document.instances,
      entry.2.typeId = entry'.2.typeId := by
  rw [Document.modify] at h
  -- the instance that was changed, or one that was not
  split at h
  · cases h
  · obtain rfl := Except.ok.inj h
    intro entry hmem
    obtain ⟨⟨other, placed⟩, hmem', rfl⟩ := List.mem_map.mp hmem
    refine ⟨_, hmem', ?_⟩
    dsimp only
    split
    · exact hchange placed
    · rfl

/-- Every action takes one of the steps. -/
theorem step_act (session : Session) (action : Action) :
    Step session action (session.act action) := by
  -- the lookups that can fail are made first, and their failure leaves the session as it was
  cases action with
  | add placed => exact .add placed
  | ingest picks definitions => exact .ingest picks definitions
  | ingestText text =>
    rw [act, ingestText]
    cases Payload.read text with
    | error e => exact .fail
    | ok payload => exact .ingest payload.picks payload.definitions
  | register definition => exact .register definition
  | place typeId properties position =>
    rw [act, place]
    cases hresolve : session.resolve? typeId with
    | none => exact .fail
    | some component => exact .place hresolve rfl
  | update id changes =>
    rw [act, update, Document.update]
    cases hmodify : session.document.modify id _ with
    | error e => exact .fail
    | ok document => exact .change (exists_of_mem_modify hmodify fun _ => rfl)
  | remove id =>
    rw [act, remove, Document.remove]
    cases session.document.get? id with
    | none => exact .fail
    | some placed =>
      -- what is left was there before
      exact .change fun entry hmem => ⟨entry, List.mem_of_mem_filter hmem, rfl⟩
  | move id position =>
    rw [act, move, Document.move]
    cases hmodify : session.document.modify id _ with
    | error e => exact .fail
    | ok document => exact .change (exists_of_mem_modify hmodify fun _ => rfl)

/-! ## What one action preserves -/

/-- A session with an accepted catalog and a registry that keeps its keys. -/
structure Sound (session : Session) : Prop where
  catalog : session.catalog.Valid
  registry : session.registry.Keyed

/-- A session in which the type of each placed instance stands for a component. -/
structure Resolved (session : Session) : Prop extends Sound session where
  instances : ∀ entry ∈ session.document.instances,
    (session.resolve? entry.2.typeId).isSome = true

/-- Taking in a batch keeps a session sound, and its registry grows. -/
theorem Sound.ingest {session : Session} (h : session.Sound) (picks : List Pick)
    (definitions : List Definition) :
    (session.ingest picks definitions).1.Sound ∧
    (∀ typeId, session.registry.contains typeId = true →
      (session.ingest picks definitions).1.registry.contains typeId = true) := by
  obtain ⟨hregistry, hcatalog, -⟩ := session.appends_ingest picks definitions
  obtain ⟨hkeyed, hgrow, -⟩ :=
    h.registry.registerBatch (definitionsOf (session.merged picks definitions))
  exact ⟨⟨hcatalog ▸ h.catalog, hregistry ▸ hkeyed⟩, hregistry ▸ hgrow⟩

/-- A step keeps a session sound. -/
theorem Sound.step {session after : Session} {action : Action} (h : session.Sound)
    (hstep : Step session action after) : after.Sound := by
  cases hstep with
  | fail => exact h
  | ingest picks definitions => exact (h.ingest picks definitions).1
  | register definition => exact ⟨h.catalog, (h.registry.register definition).1⟩
  | add | place | change => exact ⟨h.catalog, h.registry⟩

/-- The types of the placements of a batch stand for components. -/
theorem Sound.isSome_resolve?_of_mem {session : Session} (h : session.Sound) {picks : List Pick}
    {definitions : List Definition} {key typeId : String}
    (hmem : (key, typeId) ∈ session.batchPlacements picks definitions) :
    ((session.registered picks definitions).1.resolve? session.catalog typeId).isSome = true := by
  obtain ⟨hkeyed, -, hsettled⟩ :=
    h.registry.registerBatch (definitionsOf (session.merged picks definitions))
  obtain ⟨choice, -, hplaced⟩ := exists_of_mem_placements hsettled hmem
  cases hplaced with
  | picked hresolve => exact hkeyed.isSome_resolve?_typeId h.catalog hresolve
  | defined hcontains =>
    rw [Registry.isSome_resolve?_iff, Registry.contains_canonical]
    exact Or.inl hcontains

private theorem isSome_resolve?_mono {registry after : Registry} {catalog : Catalog}
    (hgrow : ∀ typeId, registry.contains typeId = true → after.contains typeId = true)
    {typeId : String} (h : (registry.resolve? catalog typeId).isSome = true) :
    (after.resolve? catalog typeId).isSome = true := by
  rw [Registry.isSome_resolve?_iff] at h ⊢
  exact h.imp_left (hgrow typeId)

/-- A step that does not add an instance as it comes leaves nothing unresolved. -/
theorem Resolved.step {session after : Session} {action : Action} (h : session.Resolved)
    (hraw : ¬ action.IsRaw) (hstep : Step session action after) : after.Resolved := by
  refine ⟨h.toSound.step hstep, ?_⟩
  cases hstep with
  | fail => exact h.instances
  | add placed => exact absurd trivial hraw
  | ingest picks definitions =>
    -- an instance that was there stands for as much as before, for no type is given up
    intro entry hmem
    obtain ⟨hregistry, hcatalog, added, hinstances, -, htypes⟩ :=
      session.appends_ingest picks definitions
    have hgrow := (h.toSound.ingest picks definitions).2
    rw [resolve?, hcatalog]
    rw [hinstances, List.mem_append] at hmem
    rcases hmem with hmem | hmem
    · exact isSome_resolve?_mono hgrow (h.instances entry hmem)
    · have htype : entry.2.typeId ∈ (session.batchPlacements picks definitions).map (·.2) :=
        htypes ▸ List.mem_map_of_mem hmem
      obtain ⟨⟨key, typeId⟩, hplacement, heq⟩ := List.mem_map.mp htype
      rw [hregistry, ← heq]
      exact h.isSome_resolve?_of_mem hplacement
  | register definition =>
    intro entry hmem
    exact isSome_resolve?_mono (h.registry.register definition).2.1 (h.instances entry hmem)
  | @place typeId _ component placed hresolve htype =>
    intro entry hmem
    rcases List.mem_append.mp hmem with hmem | hmem
    · exact h.instances entry hmem
    · obtain rfl := List.mem_singleton.mp hmem
      -- what a name resolves to is found under its own type
      have hcomponent := h.registry.isSome_resolve?_typeId h.catalog hresolve
      rwa [← htype] at hcomponent
  | change hdocument =>
    intro entry hmem
    -- a change keeps the types
    obtain ⟨entry', hmem', htype⟩ := hdocument entry hmem
    rw [htype]
    exact h.instances entry' hmem'

/-! ## What a run preserves -/

/-- A fresh session with an accepted catalog is sound, and nothing is unresolved in it. -/
theorem resolved_start {catalog : Catalog} (h : catalog.Valid) (config : Config) :
    (start catalog config).Resolved where
  catalog := h
  registry := ⟨by simp [start], by simp [start], by simp [start]⟩
  instances := by simp [start]

/-- A run keeps a session sound. -/
theorem Sound.run {session : Session} (h : session.Sound) (actions : List Action) :
    (session.run actions).Sound := by
  induction actions generalizing session with
  | nil => exact h
  | cons action rest ih => exact ih (h.step (session.step_act action))

/-- A run that adds no instance as it comes leaves nothing unresolved. -/
theorem Resolved.run {session : Session} (h : session.Resolved) {actions : List Action}
    (hraw : ∀ action ∈ actions, ¬ action.IsRaw) : (session.run actions).Resolved := by
  induction actions generalizing session with
  | nil => exact h
  | cons action rest ih =>
    rw [List.forall_mem_cons] at hraw
    exact ih (h.step hraw.1 (session.step_act action)) hraw.2

/-! ## The document of a session -/

/-- The edit of the document that an action is. -/
def edit? : Action → Option Document.Edit
  | .add placed => some (.add placed)
  | .update id changes => some (.update id changes)
  | .remove id => some (.remove id)
  | .move id position => some (.move id position)
  | .ingest _ _ | .ingestText _ | .register _ | .place _ _ _ => none

/-- An action that edits the document does so as the edit. -/
theorem document_act_of_edit? {session : Session} {action : Action} {e : Document.Edit}
    (h : edit? action = some e) : (session.act action).document = (session.document.edit e).1 := by
  cases action with
  | add placed =>
    obtain rfl := Option.some.inj h
    rfl
  -- the document is changed by the edit, or the action fails and leaves it alone
  | update id changes =>
    obtain rfl := Option.some.inj h
    rw [act, update, Document.edit]
    cases session.document.update id changes <;> rfl
  | remove id =>
    obtain rfl := Option.some.inj h
    rw [act, remove, Document.edit]
    cases session.document.remove id <;> rfl
  | move id position =>
    obtain rfl := Option.some.inj h
    rw [act, move, Document.edit]
    cases session.document.move id position <;> rfl
  | ingest | ingestText | register | place => cases h

theorem sound_document_placePick {session : Session} (h : session.document.Sound) (report : Report)
    (key : String) (pick : Pick) : (session.placePick report key pick).1.document.Sound := by
  rw [placePick]
  split
  · exact h
  · exact h.edit (.add _)

theorem sound_document_placeDefinition {session : Session} (h : session.document.Sound)
    (report : Report) (definition : Definition) (outcome : Except Diagnostic Blueprint) :
    (session.placeDefinition report definition outcome).1.document.Sound := by
  cases outcome with
  | ok blueprint => exact h.edit (.add _)
  | error diagnostic => exact h

/-- What a batch places is added to the document. -/
theorem sound_document_placeAll {session : Session} (h : session.document.Sound) (report : Report)
    (merged : Fields Choice) (outcomes : List (Except Diagnostic Blueprint)) :
    (session.placeAll report merged outcomes).1.document.Sound := by
  induction merged generalizing session report outcomes with
  | nil => exact h
  | cons entry rest ih =>
    -- a definition takes the next outcome with it, a pick does not
    obtain ⟨key, pick | definition⟩ := entry
    · exact ih (sound_document_placePick h report key pick) _ outcomes
    · cases outcomes with
      | nil => exact ih h report []
      | cons outcome outcomes =>
        exact ih (sound_document_placeDefinition h report definition outcome) _ outcomes

/-- Every action keeps the document sound. -/
theorem sound_document_act {session : Session} (h : session.document.Sound) (action : Action) :
    (session.act action).document.Sound := by
  cases hedit : edit? action with
  | some e =>
    rw [document_act_of_edit? hedit]
    exact h.edit e
  | none =>
    -- what is no edit places what it finds, or leaves the document
    cases action with
    | ingest picks definitions => exact sound_document_placeAll (by exact h) {} _ _
    | ingestText text =>
      rw [act, ingestText]
      cases Payload.read text with
      | error e => exact h
      | ok payload => exact sound_document_placeAll (by exact h) {} _ _
    | register definition => exact h
    | place typeId properties position =>
      rw [act, place]
      cases session.resolve? typeId with
      | none => exact h
      | some component => exact h.edit (.add _)
    | add | update | remove | move => cases hedit

/-- A run keeps the document of a session sound. -/
theorem sound_document_run {session : Session} (h : session.document.Sound)
    (actions : List Action) : (session.run actions).document.Sound := by
  induction actions generalizing session with
  | nil => exact h
  | cons action rest ih => exact ih (sound_document_act h action)

/-! ## Rendering and exporting -/

/-- An instance of a resolved session is found and its type is compiled or of the catalog. -/
theorem Resolved.render {session : Session} (h : session.Resolved) {id : InstanceId}
    {placed : Instance} (hmem : (id, placed) ∈ session.document.instances)
    (limits : Blueprint.Limits) :
    (∀ other, session.render id limits ≠ .error (.unknownInstance other)) ∧
    ∀ typeId, session.render id limits ≠ .error (.notCompiled typeId) := by
  rw [Session.render]
  cases hget : session.document.get? id with
  | none =>
    -- the instance is in the document
    have := List.lookup_eq_none_iff.mp hget (id, placed) hmem
    simp at this
  | some found =>
    have hfound : (id, found) ∈ session.document.instances := by
      obtain ⟨l₁, l₂, heq, -⟩ := List.lookup_eq_some_iff.mp hget
      simp [heq]
    have hresolve := h.instances (id, found) hfound
    dsimp only at hresolve ⊢
    -- what is left to go wrong is the run of the blueprint itself
    cases hcomponent : session.resolve? found.typeId with
    | none => simp [hcomponent] at hresolve
    | some component =>
      cases component with
      | generated entry =>
        cases hrun : entry.blueprint.instantiate found.properties limits <;>
          simp [hrun, Except.mapError]
      | ready entry => simp

/-- Helper: gathering instances whose types stand for components skips none for want of one. -/
private theorem skipped_of_ofInstances {catalog : Catalog} {registry : Registry}
    {directory : String} {instances : List (InstanceId × Instance)}
    (hinstances : ∀ entry ∈ instances,
      (registry.resolve? catalog entry.2.typeId).isSome = true)
    {draft after : Project.Draft}
    (hdraft : ∀ skipped ∈ draft.skipped, skipped.reason ≠ .unresolved)
    (h : Project.Draft.ofInstances catalog registry directory draft instances = .ok after) :
    ∀ skipped ∈ after.skipped, skipped.reason ≠ .unresolved := by
  induction instances generalizing draft with
  | nil =>
    rw [← pure_eq_ok.mp h]
    exact hdraft
  | cons entry rest ih =>
    obtain ⟨id, placed⟩ := entry
    rw [List.forall_mem_cons] at hinstances
    obtain ⟨between, hadd, hrest⟩ := bind_eq_ok.mp h
    refine ih hinstances.2 ?_ hrest
    rw [Project.Draft.add] at hadd
    split at hadd
    · next reason hreason =>
      rw [← Except.ok.inj hadd]
      intro skipped hmem
      rcases List.mem_append.mp hmem with hmem | hmem
      · exact hdraft skipped hmem
      · obtain rfl := List.mem_singleton.mp hmem
        rintro rfl
        -- an instance is skipped for this reason only if its type stands for nothing
        rw [Project.exportable?] at hreason
        split at hreason
        · next hresolve => simp [hresolve] at hinstances
        · split at hreason <;> cases hreason
        · cases hreason
    · next component _ =>
      -- an instance that is exported skips nothing
      split at hadd
      · cases hadd
      · rw [← Except.ok.inj hadd]
        exact hdraft

/-- Exporting a resolved session skips no instance for want of a component. -/
theorem Resolved.synthesize {session : Session} (h : session.Resolved) {project : Project}
    (hproject : session.synthesize = .ok project) :
    ∀ skipped ∈ project.skipped, skipped.reason ≠ .unresolved := by
  obtain ⟨draft, hdraft, hafter⟩ := bind_eq_ok.mp hproject
  rw [← pure_eq_ok.mp hafter]
  exact skipped_of_ofInstances h.instances (by simp) hdraft

/-- No run leaves an instance dangling.  However a session is used, as long as no instance is added
as it comes, the type of each placed instance stands for a component; so rendering finds it, and
an export leaves none out for want of a component. -/
theorem no_dangling_instances {version : String} {entries : List Catalog.Entry} {catalog : Catalog}
    (hcatalog : Catalog.ofEntries version entries = .ok catalog) (config : Config)
    {actions : List Action} (hraw : ∀ action ∈ actions, ¬ action.IsRaw) :
    let session := (start catalog config).run actions
    (∀ entry ∈ session.document.instances,
      (session.registry.resolve? session.catalog entry.2.typeId).isSome = true ∧
      ∀ limits,
        (∀ other, session.render entry.1 limits ≠ .error (.unknownInstance other)) ∧
        ∀ typeId, session.render entry.1 limits ≠ .error (.notCompiled typeId)) ∧
    ∀ project, session.synthesize = .ok project →
      ∀ skipped ∈ project.skipped, skipped.reason ≠ .unresolved := by
  intro session
  have hstart := resolved_start (Catalog.valid_of_ofEntries hcatalog) config
  have h : session.Resolved := hstart.run hraw
  exact ⟨fun entry hmem => ⟨h.instances entry hmem, h.render hmem⟩, fun _ => h.synthesize⟩

/-- A component of a catalog that is picked under its hyphenated name, and placed once more. -/
theorem no_dangling_instances_of_picked :
    let entry : Catalog.Entry :=
      { id := "nav-bar", displayName := "Bar", category := .content, typeId := "NavBar"
        sourceImportPath := "components/NavBar" }
    let catalog : Catalog := ⟨"1", [entry]⟩
    let actions : List Action := [.ingest [⟨"nav_bar", none, []⟩] [], .place "NavBar" none none]
    let session := (start catalog {}).run actions
    Catalog.ofEntries "1" [entry] = .ok catalog ∧ (∀ action ∈ actions, ¬ action.IsRaw) ∧
      session.document.instances.map (·.2.typeId) = ["NavBar", "NavBar"] ∧
      ∀ entry ∈ session.document.instances,
        (session.registry.resolve? session.catalog entry.2.typeId).isSome = true := by
  intro entry catalog actions session
  have hfault : Catalog.fault? [] [entry] = none := by decide +kernel
  have hcatalog : Catalog.ofEntries "1" [entry] = .ok catalog := by rw [Catalog.ofEntries, hfault]
  have hraw : ∀ action ∈ actions, ¬ action.IsRaw := by simp [actions, Action.IsRaw]
  -- placed once by a batch and once by name
  have htypes : session.document.instances.map (·.2.typeId) = ["NavBar", "NavBar"] := by
    decide +kernel
  exact ⟨hcatalog, hraw, htypes, fun entry hmem =>
    ((no_dangling_instances hcatalog {} hraw).1 entry hmem).1⟩

end Session

end ComponentCanvas
