import ComponentCanvas.Proofs.Payload.Merging
import ComponentCanvas.Proofs.Session.Runs

/-!
# The Types of a Batch

What stays of a batch stays under distinct types, and a definition is placed under the type that
it stays under.  A pick is merged by the type of its entry in the catalog, but it is placed as what
its name is generated as, if it is; where these two differ the pick is shadowed, and a batch can
place two instances of one type.
-/

namespace ComponentCanvas.Session

/-! ## Shadowed picks -/

/-- Whether the name of a pick is generated under another type than the one that the pick is merged
by. -/
def IsShadowed (registry : Registry) (catalog : Catalog) (pick : Pick) : Prop :=
  registry.contains pick.typeId = true ∧
    TypeId.canonical pick.typeId ≠ Payload.pickKey catalog pick

variable {registry : Registry} {catalog : Catalog}

/-- A pick that is not shadowed is placed under the type that it is merged by. -/
theorem typeId_eq_pickKey (hkeyed : registry.Keyed) (hvalid : catalog.Valid) {pick : Pick}
    (hshadowed : ¬ IsShadowed registry catalog pick) {component : Component}
    (hresolve : registry.resolve? catalog pick.typeId = some component) :
    component.typeId = Payload.pickKey catalog pick := by
  -- what is generated comes before the catalog here, and merging asks the catalog first
  cases hcontains : registry.contains pick.typeId with
  | true =>
    rw [hkeyed.typeId_of_contains hcontains hresolve]
    by_contra hne
    exact hshadowed ⟨hcontains, hne⟩
  | false =>
    obtain ⟨entry, hentry, htype⟩ := hkeyed.typeId_of_not_contains hvalid hcontains hresolve
    rw [htype, Payload.pickKey, hentry]

/-- A pick that is shadowed stands for what its name is generated as. -/
theorem IsShadowed.exists_resolve? (hkeyed : registry.Keyed) {pick : Pick}
    (h : IsShadowed registry catalog pick) :
    ∃ component, registry.resolve? catalog pick.typeId = some component ∧
      component.typeId = TypeId.canonical pick.typeId := by
  have hsome : (registry.resolve? catalog pick.typeId).isSome = true :=
    Registry.isSome_resolve?_iff.mpr (Or.inl h.1)
  obtain ⟨component, hresolve⟩ := Option.isSome_iff_exists.mp hsome
  exact ⟨component, hresolve, hkeyed.typeId_of_contains h.1 hresolve⟩

/-! ## The types that a batch places -/

variable {session : Session} {picks : List Pick} {definitions : List Definition}

/-- Whether no pick that stays of a batch is shadowed once the definitions are registered. -/
def IsUnshadowed (session : Session) (picks : List Pick) (definitions : List Definition) : Prop :=
  ∀ key pick, (key, Choice.picked pick) ∈ session.merged picks definitions →
    ¬ IsShadowed (session.registered picks definitions).1 session.catalog pick

/-- A choice is placed under its key, or it is a shadowed pick. -/
theorem Sound.type_of_placement (h : session.Sound) {key typeId : String}
    (hmem : (key, typeId) ∈ session.batchPlacements picks definitions) :
    typeId = key ∨ ∃ pick, (key, Choice.picked pick) ∈ session.merged picks definitions ∧
      IsShadowed (session.registered picks definitions).1 session.catalog pick ∧
      typeId = TypeId.canonical pick.typeId := by
  obtain ⟨hkeyed, -, hsettled⟩ :=
    h.registry.registerBatch (definitionsOf (session.merged picks definitions))
  obtain ⟨choice, hchoice, hplaced⟩ := exists_of_mem_placements hsettled hmem
  have hkey : key = Payload.choiceKey session.catalog choice := Payload.key_of_mem_merge hchoice
  -- the key of a definition is its canonical type, under which it is placed
  cases hplaced with
  | defined hcontains => exact Or.inl hkey.symm
  | @picked pick component hresolve =>
    by_cases hshadowed : IsShadowed (session.registered picks definitions).1 session.catalog pick
    · exact Or.inr ⟨pick, hchoice, hshadowed, hkeyed.typeId_of_contains hshadowed.1 hresolve⟩
    · rw [typeId_eq_pickKey hkeyed h.catalog hshadowed hresolve, hkey]
      exact Or.inl rfl

/-- A shadowed pick is placed under the type that its name is generated as. -/
theorem Sound.mem_of_isShadowed (h : session.Sound) {key : String} {pick : Pick}
    (hmem : (key, Choice.picked pick) ∈ session.merged picks definitions)
    (hshadowed : IsShadowed (session.registered picks definitions).1 session.catalog pick) :
    (key, TypeId.canonical pick.typeId) ∈ session.batchPlacements picks definitions := by
  obtain ⟨hkeyed, -, -⟩ :=
    h.registry.registerBatch (definitionsOf (session.merged picks definitions))
  obtain ⟨component, hresolve, htype⟩ := hshadowed.exists_resolve? hkeyed
  rw [← htype]
  exact mem_placements_of_picked hmem hresolve

/-- A batch places each choice under the type that it is merged by if and only if no pick is
shadowed. -/
theorem Sound.types_eq_keys_iff (h : session.Sound) :
    (∀ placement ∈ session.batchPlacements picks definitions, placement.2 = placement.1) ↔
      session.IsUnshadowed picks definitions := by
  -- a pick in front of which another type is registered is placed under that type
  constructor
  · intro hall key pick hmem hshadowed
    have hkey : key = Payload.pickKey session.catalog pick := Payload.key_of_mem_merge hmem
    exact hshadowed.2 ((hall _ (h.mem_of_isShadowed hmem hshadowed)).trans hkey)
  · rintro hunshadowed ⟨key, typeId⟩ hmem
    rcases h.type_of_placement hmem with htype | ⟨pick, hpick, hshadowed, -⟩
    · exact htype
    · exact absurd hshadowed (hunshadowed key pick hpick)

theorem nodup_keys_batchPlacements :
    ((session.batchPlacements picks definitions).map (·.1)).Nodup :=
  Payload.nodup_keys_merge.sublist keys_placements_sublist

/-- Whether no other choice of a batch is placed under the type of a shadowed pick. -/
def IsApart (session : Session) (picks : List Pick) (definitions : List Definition) : Prop :=
  ∀ key pick, (key, Choice.picked pick) ∈ session.merged picks definitions →
    IsShadowed (session.registered picks definitions).1 session.catalog pick →
    ∀ other, (other, TypeId.canonical pick.typeId) ∈ session.batchPlacements picks definitions →
      other = key

/-- A batch places no two instances of one type if and only if no other choice is placed under the
type of a shadowed pick. -/
theorem Sound.nodup_types_iff (h : session.Sound) :
    ((session.batchPlacements picks definitions).map (·.2)).Nodup ↔
      session.IsApart picks definitions := by
  constructor
  · intro hnodup key pick hmem hshadowed other hother
    have hplacement := h.mem_of_isShadowed hmem hshadowed
    exact congrArg Prod.fst (List.inj_on_of_nodup_map hnodup hother hplacement rfl)
  · intro hapart
    -- the keys are distinct, so it is enough that choices of one type have one key
    refine List.Nodup.map_on ?_ nodup_keys_batchPlacements.of_map
    rintro ⟨key, typeId⟩ hmem ⟨other, _⟩ hother rfl
    -- two choices of one type have one key: either both types are keys, or one is shadowed
    have hkey : key = other := by
      rcases h.type_of_placement hmem with htype | ⟨pick, hpick, hshadowed, htype⟩
      · rcases h.type_of_placement hother with htype' | ⟨pick, hpick, hshadowed, htype'⟩
        · exact htype.symm.trans htype'
        · exact hapart other pick hpick hshadowed key (htype' ▸ hmem)
      · exact (hapart key pick hpick hshadowed other (htype ▸ hother)).symm
    rw [hkey]

/-- The instances that a batch places, in a session that was reached in any way.  They are appended
in the order of the choices that they come from, which have distinct keys.  Their types are these
keys if and only if no pick is shadowed; no two of the types are the same if and only if no other
choice is placed under the type of a shadowed pick. -/
theorem batch_types {version : String} {entries : List Catalog.Entry} {catalog : Catalog}
    (hcatalog : Catalog.ofEntries version entries = .ok catalog) (config : Config)
    (actions : List Action) (picks : List Pick) (definitions : List Definition) :
    let session := (start catalog config).run actions
    let after := session.ingest picks definitions
    let placements := session.batchPlacements picks definitions
    ∃ added : List (InstanceId × Instance),
      after.1.document.instances = session.document.instances ++ added ∧
      after.2.placed = added.map (·.1) ∧
      added.map (·.2.typeId) = placements.map (·.2) ∧
      (placements.map (·.1)).Sublist (Fields.keys (session.merged picks definitions)) ∧
      (Fields.keys (session.merged picks definitions)).Nodup ∧
      ((∀ placement ∈ placements, placement.2 = placement.1) ↔
        session.IsUnshadowed picks definitions) ∧
      ((added.map (·.2.typeId)).Nodup ↔ session.IsApart picks definitions) := by
  intro session after placements
  have hstart : (start catalog config).Sound :=
    (resolved_start (Catalog.valid_of_ofEntries hcatalog) config).toSound
  have h : session.Sound := hstart.run actions
  -- the instances that are added have the types of the placements, in their order
  obtain ⟨-, -, added, hinstances, hplaced, htypes⟩ := session.appends_ingest picks definitions
  refine ⟨added, hinstances, by simpa using hplaced, htypes, keys_placements_sublist,
    Payload.nodup_keys_merge, h.types_eq_keys_iff, ?_⟩
  rw [htypes]
  exact h.nodup_types_iff

/-- Helper: a catalog with one entry, of which the identifier is a name for another type. -/
private def navigation : List Catalog.Entry :=
  [{ id := "nav", displayName := "Navigation", category := .navigation, typeId := "Navbar"
     sourceImportPath := "components/Navbar" }]

private theorem ofEntries_navigation :
    Catalog.ofEntries "1" navigation = .ok ⟨"1", navigation⟩ :=
  Catalog.ofEntries_eq_ok.mpr ⟨by decide +kernel, rfl⟩

/-- A pick by an identifier of the catalog, while its name is not generated. -/
theorem batch_types_of_identifier :
    let session := (start ⟨"1", navigation⟩ {}).run []
    let placements := session.batchPlacements [⟨"nav", none, []⟩] []
    placements = [("Navbar", "Navbar")] ∧ session.IsUnshadowed [⟨"nav", none, []⟩] [] := by
  intro session placements
  have hplacements : placements = [("Navbar", "Navbar")] := by decide +kernel
  obtain ⟨added, -, -, -, -, -, hiff, -⟩ :=
    batch_types ofEntries_navigation {} [] [⟨"nav", none, []⟩] []
  refine ⟨hplacements, hiff.mp ?_⟩
  show ∀ placement ∈ placements, placement.2 = placement.1
  simp [hplacements]

/-- The same pick together with a definition that its name is a form of: the two are merged by two
types, and both are placed under the type of the definition. -/
theorem batch_doubles_type :
    let session := start ⟨"1", navigation⟩ {}
    let picks : List Pick := [⟨"nav", none, []⟩]
    let source := "function Nav() \x7b return <div>hi</div>; \x7d"
    let definitions : List Definition := [⟨"Nav", .content, [], source⟩]
    Fields.keys (session.merged picks definitions) = ["Navbar", "Nav"] ∧
      (session.ingest picks definitions).1.document.instances.map (·.2.typeId) =
        ["Nav", "Nav"] := by
  decide +kernel

end ComponentCanvas.Session
