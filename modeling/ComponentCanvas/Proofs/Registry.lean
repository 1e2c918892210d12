import ComponentCanvas.Proofs.Blueprint.Compilation
import ComponentCanvas.Proofs.Catalog
import ComponentCanvas.Registry

/-!
# The Keys of a Registry

A registry keeps its entries by canonical type and never gives one up.  What a type stands for has
a type that stands for something in turn.
-/

namespace ComponentCanvas

namespace Registry

variable {registry : Registry} {catalog : Catalog} {typeId : String}

/-! ## Keys -/

/-- Whether the entries of a registry are kept by their canonical types. -/
structure Keyed (registry : Registry) : Prop where
  typeId : ∀ entry ∈ registry.entries, entry.2.typeId = entry.1
  blueprint : ∀ entry ∈ registry.entries, entry.2.blueprint.typeId = entry.1
  canonical : ∀ entry ∈ registry.entries, TypeId.canonical entry.1 = entry.1

theorem contains_iff :
    registry.contains typeId = true ↔ TypeId.canonical typeId ∈ registry.typeIds :=
  Fields.contains_iff_mem_keys

theorem contains_canonical :
    registry.contains (TypeId.canonical typeId) = registry.contains typeId := by
  rw [contains, contains, get?, get?, TypeId.canonical_canonical]

theorem Keyed.typeId_of_get? (h : registry.Keyed) {entry : Registered}
    (hget : registry.get? typeId = some entry) : entry.typeId = TypeId.canonical typeId :=
  h.typeId _ (Fields.mem_of_get? hget)

/-- Another entry under its canonical type. -/
theorem Keyed.insert (h : registry.Keyed) {entry : Registered} (htype : entry.typeId = typeId)
    (hblueprint : entry.blueprint.typeId = typeId)
    (hcanonical : TypeId.canonical typeId = typeId) :
    Keyed { registry with entries := Fields.insert registry.entries typeId entry } where
  -- each of the three facts holds of the new entry and held of the old ones
  typeId e he := by
    rcases Fields.mem_of_mem_insert he with rfl | he
    · exact htype
    · exact h.typeId e he
  blueprint e he := by
    rcases Fields.mem_of_mem_insert he with rfl | he
    · exact hblueprint
    · exact h.blueprint e he
  canonical e he := by
    rcases Fields.mem_of_mem_insert he with rfl | he
    · exact hcanonical
    · exact h.canonical e he

/-! ## Registering -/

/-- Whether a compilation of a definition gives no blueprint of another type. -/
def IsOutcome (definition : Definition) (outcome : Except Diagnostic Blueprint) : Prop :=
  ∀ b, outcome = .ok b → b.typeId = TypeId.canonical definition.typeId

theorem isOutcome_compile (registry : Registry) (definition : Definition) :
    IsOutcome definition (registry.compile definition) :=
  fun _ => Blueprint.typeId_of_compile

/-- A source that is registered already has a blueprint of the type of the definition. -/
theorem Keyed.typeId_of_current? (h : registry.Keyed) {definition : Definition} {b : Blueprint}
    (hcurrent : registry.current? definition = some b) :
    b.typeId = TypeId.canonical definition.typeId ∧ registry.contains definition.typeId = true := by
  rw [current?] at hcurrent
  cases hget : registry.get? definition.typeId with
  | none => simp [hget] at hcurrent
  | some entry =>
    have hmem := Fields.mem_of_get? hget
    obtain ⟨-, rfl⟩ : _ ∧ entry.blueprint = b := by simpa [hget] using hcurrent
    exact ⟨h.blueprint _ hmem, by simp [contains, hget]⟩

/-- What is generated after a definition has been compiled. -/
theorem contains_settle {definition : Definition} {outcome : Except Diagnostic Blueprint} :
    (registry.settle definition outcome).contains typeId = true ↔
      registry.contains typeId = true ∨
        ∃ b, outcome = .ok b ∧ b.typeId = TypeId.canonical typeId := by
  cases outcome with
  | error e => simp [settle]
  | ok b =>
    rw [contains_iff, contains_iff, settle, typeIds, Fields.mem_keys_insert]
    simp [typeIds, or_comm, eq_comm]

/-- A definition that has been compiled is kept by its canonical type. -/
theorem Keyed.settle (h : registry.Keyed) {definition : Definition}
    {outcome : Except Diagnostic Blueprint} (houtcome : IsOutcome definition outcome) :
    (registry.settle definition outcome).Keyed := by
  cases outcome with
  | error e => exact h
  | ok b => exact h.insert rfl rfl (by rw [houtcome b rfl, TypeId.canonical_canonical])

/-- What is known of a definition and its outcome when a registry is settled: a blueprint has the
canonical type of the definition, and that type is generated. -/
def IsSettled (final : Registry) (definition : Definition)
    (outcome : Except Diagnostic Blueprint) : Prop :=
  ∀ b, outcome = .ok b →
    b.typeId = TypeId.canonical definition.typeId ∧ final.contains definition.typeId = true

/-- Registering one definition: no type is given up, and the outcome is settled. -/
theorem Keyed.register (h : registry.Keyed) (definition : Definition) :
    (registry.register definition).1.Keyed ∧
    (∀ typeId, registry.contains typeId = true →
      (registry.register definition).1.contains typeId = true) ∧
    IsSettled (registry.register definition).1 definition (registry.register definition).2 := by
  rw [Registry.register]
  cases hcurrent : registry.current? definition with
  | some b =>
    refine ⟨h, fun _ => id, fun b' hb => ?_⟩
    obtain rfl := Except.ok.inj hb
    exact h.typeId_of_current? hcurrent
  | none =>
    -- of the compilation only the type of its blueprint matters
    have houtcome := isOutcome_compile registry definition
    generalize registry.compile definition = outcome at houtcome
    refine ⟨h.settle houtcome, fun _ ht => contains_settle.mpr (Or.inl ht), fun b hb => ?_⟩
    exact ⟨houtcome b hb, contains_settle.mpr (Or.inr ⟨b, hb, houtcome b hb⟩)⟩

/-- Helper: the definitions of a batch that have been compiled. -/
private def AreOutcomes (pending : List (Definition × Option (Except Diagnostic Blueprint))) :
    Prop :=
  ∀ definition outcome, (definition, some outcome) ∈ pending → IsOutcome definition outcome

/-- Helper: settling a batch gives up no type, and there is a settled outcome for each of its
definitions. -/
private theorem Keyed.settleAll (h : registry.Keyed)
    {pending : List (Definition × Option (Except Diagnostic Blueprint))}
    (hpending : AreOutcomes pending) :
    (registry.settleAll pending).1.Keyed ∧
    (∀ typeId, registry.contains typeId = true →
      (registry.settleAll pending).1.contains typeId = true) ∧
    List.Forall₂ (fun entry outcome => IsSettled (registry.settleAll pending).1 entry.1 outcome)
      pending (registry.settleAll pending).2 := by
  -- an outcome is settled in the registry at its turn, and stays so as the registry grows
  induction pending generalizing registry with
  | nil => exact ⟨h, fun _ => id, .nil⟩
  | cons entry rest ih =>
    obtain ⟨definition, compiled⟩ := entry
    have hrest : AreOutcomes rest := fun d o hmem => hpending d o (List.mem_cons_of_mem _ hmem)
    cases compiled with
    | some compiled =>
      have houtcome := hpending definition compiled (List.mem_cons_self ..)
      obtain ⟨hkeyed, hgrow, hall⟩ := ih (h.settle houtcome) hrest
      -- the first outcome is settled at once, and the others do not take it away
      refine ⟨hkeyed, fun t ht => hgrow t (contains_settle.mpr (Or.inl ht)), .cons ?_ hall⟩
      intro b hb
      refine ⟨houtcome b hb, hgrow _ (contains_settle.mpr (Or.inr ⟨b, hb, houtcome b hb⟩))⟩
    | none =>
      -- what was current is looked up again when its turn comes
      obtain ⟨hkeyed, hgrow, hall⟩ := ih h hrest
      refine ⟨hkeyed, hgrow, .cons ?_ hall⟩
      intro b hb
      cases hcurrent : registry.current? definition with
      | none => simp [hcurrent] at hb
      | some b' =>
        obtain rfl : b' = b := by simpa [hcurrent] using hb
        obtain ⟨htype, hcontains⟩ := h.typeId_of_current? hcurrent
        exact ⟨htype, hgrow _ hcontains⟩

/-- Registering a batch: no type is given up, and there is a settled outcome for each of the
definitions, in their order. -/
theorem Keyed.registerBatch (h : registry.Keyed) (definitions : List Definition) :
    (registry.registerBatch definitions).1.Keyed ∧
    (∀ typeId, registry.contains typeId = true →
      (registry.registerBatch definitions).1.contains typeId = true) ∧
    List.Forall₂ (IsSettled (registry.registerBatch definitions).1) definitions
      (registry.registerBatch definitions).2 := by
  set pending := definitions.map fun definition =>
    (definition, if (registry.current? definition).isSome then none
      else some (registry.compile definition)) with hdef
  -- what is not current is compiled up front, in the registry as it was
  have hpending : AreOutcomes pending := by
    intro definition outcome hmem
    obtain ⟨d, -, heq⟩ := List.mem_map.mp hmem
    obtain ⟨rfl, hsome⟩ := Prod.mk.inj heq
    split at hsome
    · cases hsome
    · obtain rfl := Option.some.inj hsome
      exact isOutcome_compile registry d
  obtain ⟨hkeyed, hgrow, hall⟩ := h.settleAll hpending
  refine ⟨hkeyed, hgrow, ?_⟩
  rw [hdef, List.forall₂_map_left_iff] at hall
  exact hall

/-! ## What a type stands for -/

/-- A type stands for something if it is generated or a name of the catalog. -/
theorem isSome_resolve?_iff : (registry.resolve? catalog typeId).isSome = true ↔
    registry.contains typeId = true ∨ catalog.contains typeId = true := by
  rw [resolve?, contains, Catalog.contains]
  cases registry.get? typeId <;> simp

/-- A generated type stands for its entry. -/
theorem Keyed.typeId_of_contains (h : registry.Keyed) {component : Component}
    (hcontains : registry.contains typeId = true)
    (hresolve : registry.resolve? catalog typeId = some component) :
    component.typeId = TypeId.canonical typeId := by
  rw [contains, Option.isSome_iff_exists] at hcontains
  obtain ⟨entry, hentry⟩ := hcontains
  obtain rfl : Component.generated entry = component := by simpa [resolve?, hentry] using hresolve
  exact h.typeId_of_get? hentry

/-- Any other name stands for the entry of the catalog, or for what is generated in its place. -/
theorem Keyed.typeId_of_not_contains (h : registry.Keyed) (hvalid : catalog.Valid)
    {component : Component} (hcontains : registry.contains typeId = false)
    (hresolve : registry.resolve? catalog typeId = some component) :
    ∃ entry, catalog.resolve? typeId = some entry ∧ component.typeId = entry.typeId := by
  rw [contains, Option.isSome_eq_false_iff, Option.isNone_iff_eq_none] at hcontains
  simp only [resolve?, hcontains, Option.map_eq_some_iff] at hresolve
  obtain ⟨entry, hentry, hcomponent⟩ := hresolve
  refine ⟨entry, hentry, ?_⟩
  have hmem := Catalog.mem_of_resolve? hentry
  -- the entry of the catalog gives way to what is generated under its type
  cases hget : registry.get? entry.typeId with
  | none =>
    obtain rfl : Component.ready entry = component := by simpa [hget] using hcomponent
    rfl
  | some generated =>
    obtain rfl : Component.generated generated = component := by simpa [hget] using hcomponent
    rw [← hvalid.canonical entry hmem]
    exact h.typeId_of_get? hget

/-- What a type stands for has a type that stands for something. -/
theorem Keyed.isSome_resolve?_typeId (h : registry.Keyed) (hvalid : catalog.Valid)
    {component : Component} (hresolve : registry.resolve? catalog typeId = some component) :
    (registry.resolve? catalog component.typeId).isSome = true := by
  rw [isSome_resolve?_iff]
  -- the name is that of a registered type, or leads to an entry of the catalog
  cases hcontains : registry.contains typeId with
  | true =>
    left
    rw [h.typeId_of_contains hcontains hresolve, contains_canonical]
    exact hcontains
  | false =>
    right
    obtain ⟨entry, hentry, htype⟩ := h.typeId_of_not_contains hvalid hcontains hresolve
    rw [htype]
    exact hvalid.contains (Catalog.mem_of_resolve? hentry)

/-- What a name stands for is generated under its own type, or it is an entry of the catalog under
whose type nothing is generated. -/
theorem Keyed.cases_resolve? (h : registry.Keyed) {component : Component}
    (hresolve : registry.resolve? catalog typeId = some component) :
    (∃ entry, component = .generated entry ∧ registry.get? entry.typeId = some entry) ∨
      ∃ entry ∈ catalog.entries, component = .ready entry ∧ registry.get? entry.typeId = none := by
  have hget : ∀ {name : String} {entry : Registered}, registry.get? name = some entry →
      registry.get? entry.typeId = some entry := by
    intro name entry hentry
    rw [h.typeId_of_get? hentry, get?, TypeId.canonical_canonical]
    exact hentry
  rw [resolve?] at hresolve
  -- registered under the name, registered under the type of a catalog entry, or in the catalog
  -- alone
  cases hgenerated : registry.get? typeId with
  | some entry =>
    rw [hgenerated] at hresolve
    exact .inl ⟨entry, (Option.some.inj hresolve).symm, hget hgenerated⟩
  | none =>
    rw [hgenerated] at hresolve
    obtain ⟨entry, hentry, rfl⟩ := Option.map_eq_some_iff.mp hresolve
    cases hreplaced : registry.get? entry.typeId with
    | some generated => exact .inl ⟨generated, rfl, hget hreplaced⟩
    | none => exact .inr ⟨entry, Catalog.mem_of_resolve? hentry, rfl, hreplaced⟩

/-- Two names that stand for components of one type stand for the same component. -/
theorem Keyed.eq_of_resolve? (h : registry.Keyed) (hvalid : catalog.Valid) {other : String}
    {component component' : Component}
    (hresolve : registry.resolve? catalog typeId = some component)
    (hresolve' : registry.resolve? catalog other = some component')
    (htype : component.typeId = component'.typeId) : component = component' := by
  -- a registered type and a catalog entry cannot stand for the same type, as the first would win
  rcases h.cases_resolve? hresolve with ⟨entry, rfl, hentry⟩ | ⟨entry, hmem, rfl, hentry⟩ <;>
    rcases h.cases_resolve? hresolve' with
      ⟨entry', rfl, hentry'⟩ | ⟨entry', hmem', rfl, hentry'⟩ <;>
    simp only [Component.typeId] at htype
  · rw [htype, hentry'] at hentry
    rw [Option.some.inj hentry]
  · rw [htype, hentry'] at hentry
    cases hentry
  · rw [htype, hentry'] at hentry
    cases hentry
  · -- the types of a catalog are distinct
    rw [List.inj_on_of_nodup_map hvalid.nodup hmem hmem' htype]

end Registry

end ComponentCanvas
