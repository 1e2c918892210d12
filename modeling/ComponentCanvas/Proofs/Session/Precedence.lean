import ComponentCanvas.Proofs.Session.Exports

/-!
# Generated Components in Front

A name stands for a generated component if it is generated itself or names an entry of the catalog
under whose type something is generated.  Once it does it does so for good, since the catalog stays
and no generated type is given up; and then placing, rendering and exporting all use what is
generated.
-/

namespace ComponentCanvas

namespace Registry

variable {registry : Registry} {catalog : Catalog} {name : String} {entry : Registered}

/-- A name stands for a generated component if it is generated or the type of its entry in the
catalog is. -/
theorem exists_generated_iff :
    (∃ entry, registry.resolve? catalog name = some (.generated entry)) ↔
      registry.contains name = true ∨
        ∃ entry, catalog.resolve? name = some entry ∧ registry.contains entry.typeId = true := by
  rw [resolve?, contains]
  -- the catalog is asked only for what is not generated itself, and then the registry once more
  cases registry.get? name with
  | some generated => simp
  | none =>
    cases catalog.resolve? name with
    | none => simp
    | some ready =>
      cases hget : registry.get? ready.typeId with
      | none => simp [contains, hget]
      | some generated => simp [contains, hget]

/-- It is the one under the canonical form of the name or under the type of that entry. -/
theorem Keyed.typeId_of_generated (h : registry.Keyed) (hvalid : catalog.Valid)
    (hresolve : registry.resolve? catalog name = some (.generated entry)) :
    entry.typeId = TypeId.canonical name ∨
      ∃ ready, catalog.resolve? name = some ready ∧ entry.typeId = ready.typeId := by
  cases hcontains : registry.contains name with
  | true => exact .inl (h.typeId_of_contains hcontains hresolve)
  | false => exact .inr (h.typeId_of_not_contains hvalid hcontains hresolve)

/-- Its own type stands for it as well. -/
theorem Keyed.resolve?_typeId_of_generated (h : registry.Keyed)
    (hresolve : registry.resolve? catalog name = some (.generated entry)) :
    registry.resolve? catalog entry.typeId = some (.generated entry) := by
  rcases h.cases_resolve? hresolve with ⟨_, ⟨rfl⟩, hget⟩ | ⟨_, -, heq, -⟩
  · rw [resolve?, hget]
  · cases heq

end Registry

namespace Session

/-! ## Once in front, always in front -/

/-- Whether a name stands for a generated component. -/
def InFront (session : Session) (name : String) : Prop :=
  ∃ entry, session.resolve? name = some (.generated entry)

/-- Whether a session has the catalog of another one and all that is generated in it. -/
structure Keeps (session after : Session) : Prop where
  catalog : after.catalog = session.catalog
  contains : ∀ typeId, session.registry.contains typeId = true →
    after.registry.contains typeId = true

variable {session after : Session} {name : String} {entry : Registered}

theorem Keeps.inFront (h : Keeps session after) (hfront : session.InFront name) :
    after.InFront name := by
  rw [InFront, Session.resolve?, Registry.exists_generated_iff] at hfront ⊢
  rw [h.catalog]
  refine hfront.imp (h.contains name) ?_
  rintro ⟨ready, hready, hcontains⟩
  exact ⟨ready, hready, h.contains _ hcontains⟩

theorem Sound.keeps_ingest (h : session.Sound) (picks : List Pick)
    (definitions : List Definition) : Keeps session (session.ingest picks definitions).1 :=
  ⟨(session.appends_ingest picks definitions).catalog, (h.ingest picks definitions).2⟩

/-- A step keeps the catalog and what is generated. -/
theorem Sound.keeps_step {action : Action} (h : session.Sound)
    (hstep : Step session action after) : Keeps session after := by
  -- only a batch and a registration write the registry
  cases hstep with
  | ingest picks definitions => exact h.keeps_ingest picks definitions
  | register definition => exact ⟨rfl, (h.registry.register definition).2.1⟩
  | fail | add | place | change => exact ⟨rfl, fun _ => id⟩

/-- So does a run. -/
theorem Sound.keeps_run (h : session.Sound) (actions : List Action) :
    Keeps session (session.run actions) := by
  induction actions generalizing session with
  | nil => exact ⟨rfl, fun _ => id⟩
  | cons action rest ih =>
    have hstep := h.keeps_step (session.step_act action)
    have hrest := ih (h.step (session.step_act action))
    exact ⟨hrest.catalog.trans hstep.catalog, fun _ ht => hrest.contains _ (hstep.contains _ ht)⟩

/-! ## What is used for a name in front -/

/-- Whether an instance has a name or the type of what is generated for it. -/
def IsOf (name : String) (entry : Registered) (placed : Instance) : Prop :=
  placed.typeId = name ∨ placed.typeId = entry.typeId

/-- Whether a project uses what is generated for a name: there is no other module of its type, and
each instance of it is shown, with that module behind it. -/
def ExportsGenerated (session : Session) (name : String) (entry : Registered)
    (project : Project) : Prop :=
  let directory := session.config.project.generatedDir
  let generated := Project.ComponentModule.ofGenerated entry session.registry.scope directory
  ∃ draft, Project.Draft.ofInstances session.catalog session.registry directory {}
      session.document.instances = .ok draft ∧
    project.files = Project.fileTable session.config project.dependencies draft ∧
    (∀ m ∈ draft.modules, m.typeId = entry.typeId → m = generated) ∧
    ∀ placed ∈ session.document.instances, IsOf name entry placed.2 →
      generated ∈ draft.modules ∧
      (∃ line ∈ draft.markup, Property.markup entry.typeId placed.2.properties = .ok line) ∧
      ∀ skipped ∈ project.skipped, skipped.typeId ≠ placed.2.typeId

/-- What is done with a name that stands for a generated component. -/
structure UsesGenerated (session : Session) (name : String) (entry : Registered) : Prop where
  resolved : session.resolve? name = some (.generated entry)
  typeId : entry.typeId = TypeId.canonical name ∨
    ∃ ready, session.catalog.resolve? name = some ready ∧ entry.typeId = ready.typeId
  /-- Placing the name makes an instance of the generated component. -/
  placed : ∀ properties position, session.place name properties position =
    .ok (session.add (instanceOf (.generated entry) none (properties.getD [])
      (position.getD session.nextPosition)))
  /-- A pick of the name that stays of a batch is placed as what is generated for it then. -/
  picked : ∀ picks definitions key pick, (key, .picked pick) ∈ session.merged picks definitions →
    pick.typeId = name →
    ∃ later, (session.ingest picks definitions).1.resolve? name = some (.generated later) ∧
      (key, later.typeId) ∈ session.batchPlacements picks definitions ∧
      ∃ placed ∈ (session.ingest picks definitions).1.document.instances,
        placed.1 ∈ (session.ingest picks definitions).2.placed ∧ placed.2.typeId = later.typeId
  /-- An instance of it is rendered by the generated unit. -/
  rendered : ∀ id placed limits, session.document.get? id = some placed → IsOf name entry placed →
    session.render id limits =
      (entry.blueprint.instantiate placed.properties limits).mapError .halted
  /-- No package is required for it. -/
  packages : ∀ placed, IsOf name entry placed →
    Project.packagesOfType session.catalog session.registry placed.typeId = []
  exported : ∀ project, session.synthesize = .ok project →
    session.ExportsGenerated name entry project

/-- Each instance of a name stands for what is generated for it. -/
theorem Sound.resolve?_of_isOf (h : session.Sound)
    (hresolve : session.resolve? name = some (.generated entry)) {placed : Instance}
    (hplaced : IsOf name entry placed) :
    session.registry.resolve? session.catalog placed.typeId = some (.generated entry) := by
  rcases hplaced with htype | htype
  · rw [htype]
    exact hresolve
  · rw [htype]
    exact h.registry.resolve?_typeId_of_generated hresolve

/-- A pick of a name in front places the generated type. -/
theorem Sound.picked_generated (h : session.Sound)
    (hresolve : session.resolve? name = some (.generated entry)) (picks : List Pick)
    (definitions : List Definition) {key : String} {pick : Pick}
    (hmem : (key, .picked pick) ∈ session.merged picks definitions) (hpick : pick.typeId = name) :
    ∃ later, (session.ingest picks definitions).1.resolve? name = some (.generated later) ∧
      (key, later.typeId) ∈ session.batchPlacements picks definitions ∧
      ∃ placed ∈ (session.ingest picks definitions).1.document.instances,
        placed.1 ∈ (session.ingest picks definitions).2.placed ∧
          placed.2.typeId = later.typeId := by
  -- the definitions of the batch come first, so what is generated for the name may be replaced
  obtain ⟨later, hlater⟩ := (h.keeps_ingest picks definitions).inFront ⟨entry, hresolve⟩
  obtain ⟨hregistry, hcatalog, added, hinstances, hplaced, htypes⟩ :=
    session.appends_ingest picks definitions
  have hplacement : (key, later.typeId) ∈ session.batchPlacements picks definitions := by
    rw [Session.resolve?, hregistry, hcatalog, ← hpick] at hlater
    exact mem_placements_of_picked hmem hlater
  have htype : later.typeId ∈ added.map (·.2.typeId) :=
    htypes ▸ List.mem_map_of_mem hplacement
  obtain ⟨placed, hadded, htype⟩ := List.mem_map.mp htype
  refine ⟨later, hlater, hplacement, placed, ?_, ?_, htype⟩
  · rw [hinstances]
    exact List.mem_append_right _ hadded
  · rw [hplaced]
    exact List.mem_append_right _ (List.mem_map_of_mem hadded)

/-- An export shows the generated type for a name in front. -/
theorem Sound.exportsGenerated (h : session.Sound)
    (hresolve : session.resolve? name = some (.generated entry)) {project : Project}
    (hproject : session.synthesize = .ok project) :
    session.ExportsGenerated name entry project := by
  obtain ⟨draft, hdraft, hfiles, hmodules, hshown⟩ :=
    h.exportsComponent hresolve trivial hproject
  exact ⟨draft, hdraft, hfiles, hmodules, fun placed hmem hplaced =>
    hshown placed hmem (h.resolve?_of_isOf hresolve hplaced)⟩

/-- Wherever a name in front is used, the generated type is. -/
theorem Sound.usesGenerated (h : session.Sound)
    (hresolve : session.resolve? name = some (.generated entry)) :
    session.UsesGenerated name entry where
  resolved := hresolve
  typeId := h.registry.typeId_of_generated h.catalog hresolve
  placed := place_of_resolve? hresolve
  picked picks definitions _ _ hmem hpick :=
    h.picked_generated hresolve picks definitions hmem hpick
  rendered id placed limits hget hplaced := by
    have hcomponent := h.resolve?_of_isOf hresolve hplaced
    simp only [render, hget, Session.resolve?, hcomponent]
  packages placed hplaced := by
    rw [Project.packagesOfType, h.resolve?_of_isOf hresolve hplaced]
  exported _ hproject := h.exportsGenerated hresolve hproject

/-- Generated components stand in front of the catalog.  In a session that was reached in any way a
name stands for a generated component exactly if it is generated itself or names an entry of the
catalog under whose type something is generated.  From then on it is so in every later session, and
what is placed, rendered and exported for the name is the generated component. -/
theorem generated_in_front {version : String} {entries : List Catalog.Entry} {catalog : Catalog}
    (hcatalog : Catalog.ofEntries version entries = .ok catalog) (config : Config)
    (actions : List Action) (name : String) :
    let session := (start catalog config).run actions
    (session.InFront name ↔
      session.registry.contains name = true ∨
        ∃ entry, catalog.resolve? name = some entry ∧
          session.registry.contains entry.typeId = true) ∧
    (session.InFront name →
      ∀ more, ∃ entry, (session.run more).UsesGenerated name entry) := by
  intro session
  have hstart : (start catalog config).Sound :=
    (resolved_start (Catalog.valid_of_ofEntries hcatalog) config).toSound
  have h : session.Sound := hstart.run actions
  have hkept : session.catalog = catalog := (hstart.keeps_run actions).catalog
  constructor
  -- the catalog has not changed since the start
  · rw [InFront, Session.resolve?, hkept, Registry.exists_generated_iff]
  · intro hfront more
    obtain ⟨entry, hentry⟩ := (h.keeps_run more).inFront hfront
    exact ⟨entry, (h.run more).usesGenerated hentry⟩

/-- An entry of the catalog of which the identifier is no form of its type. -/
def navigationEntry : Catalog.Entry where
  id := "nav"
  displayName := "Navbar"
  category := .navigation
  typeId := "Navbar"
  sourceImportPath := "components/Navbar"

/-- A generated component of that type. -/
def customNavbar : Definition :=
  ⟨"Navbar", .navigation, [], "const Navbar = () => <nav>custom</nav>;"⟩

/-- Once it is registered the identifier stands for it, although nothing is generated as that. -/
theorem generated_in_front_of_identifier :
    let session := (start ⟨"1", [navigationEntry]⟩ {}).run [.register customNavbar]
    session.registry.contains "nav" = false ∧ session.InFront "nav" ∧
      ∀ more, ∃ entry, (session.run more).UsesGenerated "nav" entry := by
  intro session
  have hcatalog : Catalog.ofEntries "1" [navigationEntry] = .ok ⟨"1", [navigationEntry]⟩ :=
    Catalog.ofEntries_eq_ok.mpr ⟨by decide +kernel, rfl⟩
  have htypes : session.registry.typeIds = ["Navbar"] := by decide +kernel
  obtain ⟨hiff, huses⟩ := generated_in_front hcatalog {} [.register customNavbar] "nav"
  have hfront : session.InFront "nav" := by
    -- the name is an id of the catalog, and the type of its entry is registered
    refine hiff.mpr (.inr ⟨navigationEntry, rfl, ?_⟩)
    rw [Registry.contains_iff, htypes]
    decide +kernel
  refine ⟨?_, hfront, huses hfront⟩
  rw [← Bool.not_eq_true, Registry.contains_iff, htypes]
  decide +kernel

end Session

end ComponentCanvas
