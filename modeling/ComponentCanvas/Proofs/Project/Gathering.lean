import ComponentCanvas.Project.Synthesis
import ComponentCanvas.Proofs.Except
import ComponentCanvas.Proofs.Registry
import Mathlib.Data.List.Forall2

/-!
# Gathered Modules

An export gathers one module for each type of component that is placed, in the order of the first
instances, and one line of markup for each instance.  Of the components of one type the first gives
the module; in a session there is no second one.
-/

namespace ComponentCanvas.Project

variable {catalog : Catalog} {registry : Registry} {scope : Scope} {directory : String}

/-- The components of the instances that can be exported, in their order. -/
def exportedComponents (catalog : Catalog) (registry : Registry)
    (instances : List (InstanceId × Instance)) : List Component :=
  instances.filterMap fun (_, placed) => (exportable? catalog registry placed.typeId).toOption

/-- What can be exported is what its type stands for. -/
theorem resolve?_of_exportable? {typeId : String} {component : Component}
    (h : exportable? catalog registry typeId = .ok component) :
    registry.resolve? catalog typeId = some component := by
  unfold exportable? at h
  split at h
  · cases h
  · next entry hresolve =>
    split at h
    · rw [hresolve, Except.ok.inj h]
    · cases h
  · next other _ hresolve => rw [hresolve, Except.ok.inj h]

/-- What is exported is what the type of an instance stands for. -/
theorem exists_resolve?_of_exported {instances : List (InstanceId × Instance)}
    {component : Component} (h : component ∈ exportedComponents catalog registry instances) :
    ∃ typeId, registry.resolve? catalog typeId = some component := by
  obtain ⟨⟨_, placed⟩, -, hplaced⟩ := List.mem_filterMap.mp h
  -- only instances that can be exported have a component in the list
  cases hexport : exportable? catalog registry placed.typeId with
  | error reason =>
    simp only [hexport] at hplaced
    cases hplaced
  | ok other =>
    simp only [hexport] at hplaced
    obtain rfl := Option.some.inj hplaced
    exact ⟨placed.typeId, resolve?_of_exportable? hexport⟩

/-- Components of one type that are exported are the same. -/
theorem eq_of_mem_exportedComponents (hregistry : registry.Keyed) (hcatalog : catalog.Valid)
    {instances : List (InstanceId × Instance)} {component other : Component}
    (h : component ∈ exportedComponents catalog registry instances)
    (h' : other ∈ exportedComponents catalog registry instances)
    (htype : component.typeId = other.typeId) : component = other := by
  obtain ⟨typeId, htypeId⟩ := exists_resolve?_of_exported h
  obtain ⟨typeId', htypeId'⟩ := exists_resolve?_of_exported h'
  exact hregistry.eq_of_resolve? hcatalog htypeId htypeId' htype

/-! ## Modules -/

@[simp] theorem typeId_ofComponent (component : Component) :
    (ComponentModule.ofComponent scope directory component).typeId = component.typeId := by
  cases component <;> rfl

/-- What has been gathered from components in their order. -/
structure Draft.Gathers (scope : Scope) (directory : String) (components : List Component)
    (draft : Draft) : Prop where
  origin : ∀ m ∈ draft.modules, ∃ component ∈ components, m = .ofComponent scope directory component
  covers : ∀ component ∈ components, component.typeId ∈ draft.modules.map (·.typeId)
  nodup : (draft.modules.map (·.typeId)).Nodup
  markup : List.Forall₂
    (fun component line => ∃ properties, Property.markup component.typeId properties = .ok line)
    components draft.markup

variable {components : List Component} {draft after : Draft}

theorem gathers_nil : ({} : Draft).Gathers scope directory [] where
  origin := by simp
  covers := by simp
  nodup := List.nodup_nil
  markup := .nil

/-- Skipping an instance gathers nothing. -/
theorem Draft.Gathers.skip (h : draft.Gathers scope directory components)
    (skipped : List Skipped) :
    ({ draft with skipped } : Draft).Gathers scope directory components :=
  ⟨h.origin, h.covers, h.nodup, h.markup⟩

/-- A further module has a type of its own and is that of its component. -/
theorem Draft.Gathers.export (h : draft.Gathers scope directory components)
    {component : Component} {properties : Bag} {line : String}
    (hline : Property.markup component.typeId properties = .ok line) (exported : List Instance) :
    ({ draft with
      modules := addModule draft.modules scope directory component
      markup := draft.markup ++ [line]
      exported } : Draft).Gathers scope directory (components ++ [component]) := by
  have horigin : ∀ m ∈ draft.modules, ∃ c ∈ components ++ [component],
      m = .ofComponent scope directory c := by
    intro m hm
    obtain ⟨c, hc, heq⟩ := h.origin m hm
    exact ⟨c, List.mem_append_left _ hc, heq⟩
  have hmarkup := List.rel_append h.markup
    (List.Forall₂.cons (show ∃ properties, _ from ⟨properties, hline⟩) .nil)
  unfold addModule
  split
  · next hpresent =>
    -- the type has its module, so nothing is added for it
    have hmem : component.typeId ∈ draft.modules.map (·.typeId) := by simpa using hpresent
    refine ⟨horigin, ?_, h.nodup, hmarkup⟩
    intro c hc
    rcases List.mem_append.mp hc with hc | hc
    · exact h.covers c hc
    · rwa [List.mem_singleton.mp hc]
  · next habsent =>
    -- the type is new, so its module goes behind those of the types before it
    have hnotMem : component.typeId ∉ draft.modules.map (·.typeId) := by simpa using habsent
    refine ⟨?_, ?_, ?_, hmarkup⟩
    · intro m hm
      rcases List.mem_append.mp hm with hm | hm
      · exact horigin m hm
      · exact ⟨component, by simp, List.mem_singleton.mp hm⟩
    · intro c hc
      rw [List.map_append, List.mem_append]
      rcases List.mem_append.mp hc with hc | hc
      · exact .inl (h.covers c hc)
      · right
        simp [List.mem_singleton.mp hc]
    -- the new type is none of those before it
    · rw [List.map_append, List.nodup_append]
      refine ⟨h.nodup, by simp, ?_⟩
      rintro a ha b hb rfl
      obtain rfl : a = component.typeId := by simpa using hb
      exact hnotMem ha

/-- Gathering one instance gathers its component, if it can be exported. -/
theorem Draft.Gathers.add (h : draft.Gathers registry.scope directory components)
    {id : InstanceId} {placed : Instance}
    (hadd : draft.add catalog registry directory id placed = .ok after) :
    after.Gathers registry.scope directory
      (components ++ exportedComponents catalog registry [(id, placed)]) := by
  unfold Draft.add at hadd
  cases hexport : exportable? catalog registry placed.typeId with
  -- an instance that cannot be exported is skipped
  | error reason =>
    rw [hexport] at hadd
    obtain rfl := Except.ok.inj hadd
    have hnone : exportedComponents catalog registry [(id, placed)] = [] := by
      simp [exportedComponents, hexport, Except.toOption]
    rw [hnone, List.append_nil]
    exact h.skip _
  | ok component =>
    have hone : exportedComponents catalog registry [(id, placed)] = [component] := by
      simp [exportedComponents, hexport, Except.toOption]
    rw [hone]
    simp only [hexport] at hadd
    cases hline : Property.markup component.typeId placed.properties with
    -- an instance without a line ends the export
    | error cause =>
      rw [hline] at hadd
      cases hadd
    | ok line =>
      rw [hline] at hadd
      obtain rfl := Except.ok.inj hadd
      exact h.export hline _

/-- Gathering instances gathers the components of those that can be exported. -/
theorem Draft.Gathers.ofInstances (h : draft.Gathers registry.scope directory components)
    {instances : List (InstanceId × Instance)}
    (hgather : Draft.ofInstances catalog registry directory draft instances = .ok after) :
    after.Gathers registry.scope directory
      (components ++ exportedComponents catalog registry instances) := by
  induction instances generalizing draft components with
  | nil =>
    obtain rfl := Except.ok.inj hgather
    simpa [exportedComponents] using h
  | cons entry rest ih =>
    obtain ⟨id, placed⟩ := entry
    obtain ⟨between, hadd, hrest⟩ := bind_eq_ok.mp hgather
    have hafter := ih (h.add hadd) hrest
    -- the components of the first instance stand in front of those of the others
    rwa [List.append_assoc, exportedComponents, exportedComponents,
      ← List.filterMap_append] at hafter

/-- The module of a component that is exported is among those that are gathered. -/
theorem Draft.Gathers.mem_modules (hregistry : registry.Keyed) (hcatalog : catalog.Valid)
    {instances : List (InstanceId × Instance)}
    (h : draft.Gathers scope directory (exportedComponents catalog registry instances))
    {component : Component} (hmem : component ∈ exportedComponents catalog registry instances) :
    .ofComponent scope directory component ∈ draft.modules := by
  obtain ⟨m, hm, htype⟩ := List.mem_map.mp (h.covers component hmem)
  obtain ⟨other, hother, rfl⟩ := h.origin m hm
  rw [typeId_ofComponent] at htype
  obtain rfl := eq_of_mem_exportedComponents hregistry hcatalog hother hmem htype
  exact hm

/-- A project is made of the draft of its document. -/
theorem exists_draft_of_synthesize {document : Document} {config : Config} {project : Project}
    (h : synthesize document catalog registry config = .ok project) :
    ∃ draft, Draft.ofInstances catalog registry config.project.generatedDir {}
        document.instances = .ok draft ∧
      draft.Gathers registry.scope config.project.generatedDir
        (exportedComponents catalog registry document.instances) ∧
      project.files = fileTable config project.dependencies draft := by
  unfold synthesize at h
  obtain ⟨draft, hdraft, hproject⟩ := bind_eq_ok.mp h
  have hgathers := gathers_nil.ofInstances hdraft
  rw [List.nil_append] at hgathers
  have hfiles : project.files = fileTable config project.dependencies draft := by
    rw [← pure_eq_ok.mp hproject]
    simp only [ofDraft]
  exact ⟨draft, hdraft, hgathers, hfiles⟩

end ComponentCanvas.Project
