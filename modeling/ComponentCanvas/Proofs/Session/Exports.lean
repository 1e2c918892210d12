import ComponentCanvas.Proofs.Project.Gathering
import ComponentCanvas.Proofs.Project.Instances
import ComponentCanvas.Proofs.Session.Runs

/-!
# Exported Components

An export of a session uses one component for all instances that stand for it.  If the component has
a module then that is the only one of its type, and each of the instances is shown; if it has none
then each of them is reported.
-/

namespace ComponentCanvas.Session

/-- Whether a project uses a component: there is no other module of its type, and each instance that
stands for it is shown, with that module behind it. -/
def ExportsComponent (session : Session) (component : Component) (project : Project) : Prop :=
  let directory := session.config.project.generatedDir
  let own := Project.ComponentModule.ofComponent session.registry.scope directory component
  ∃ draft, Project.Draft.ofInstances session.catalog session.registry directory {}
      session.document.instances = .ok draft ∧
    project.files = Project.fileTable session.config project.dependencies draft ∧
    (∀ m ∈ draft.modules, m.typeId = component.typeId → m = own) ∧
    ∀ placed ∈ session.document.instances, session.resolve? placed.2.typeId = some component →
      own ∈ draft.modules ∧
      (∃ line ∈ draft.markup, Property.markup component.typeId placed.2.properties = .ok line) ∧
      ∀ skipped ∈ project.skipped, skipped.typeId ≠ placed.2.typeId

variable {session : Session} {component : Component} {project : Project}

/-- The draft of an export accounts for all instances. -/
theorem exists_accounts_of_synthesize (hproject : session.synthesize = .ok project) :
    ∃ draft shown left,
      Project.Draft.ofInstances session.catalog session.registry
        session.config.project.generatedDir {} session.document.instances = .ok draft ∧
      draft.Accounts session.catalog session.registry session.document.instances shown left ∧
      project.skipped = draft.skipped := by
  obtain ⟨draft, hdraft, -, -⟩ := Project.exists_draft_of_synthesize hproject
  obtain ⟨shown, left, haccounts⟩ := Project.accounts_nil.ofInstances hdraft
  rw [List.nil_append] at haccounts
  refine ⟨draft, shown, left, hdraft, haccounts, ?_⟩
  rw [synthesize, Project.synthesize, hdraft] at hproject
  rw [← pure_eq_ok.mp hproject]
  rfl

/-- A component that has a module is used. -/
theorem Sound.exportsComponent (h : session.Sound) {name : String}
    (hresolve : session.resolve? name = some component) (hmodule : Project.HasModule component)
    (hproject : session.synthesize = .ok project) :
    session.ExportsComponent component project := by
  obtain ⟨draft, hdraft, hgathers, hfiles⟩ := Project.exists_draft_of_synthesize hproject
  obtain ⟨_, shown, left, hsame, haccounts, hskipped⟩ := exists_accounts_of_synthesize hproject
  obtain rfl := Except.ok.inj (hdraft.symm.trans hsame)
  refine ⟨draft, hdraft, hfiles, fun m hm htype => ?_, fun placed hmem hplaced => ?_⟩
  · -- a module of this type is that of a component, and there is no other one of the type
    obtain ⟨other, hexported, rfl⟩ := hgathers.origin m hm
    rw [Project.typeId_ofComponent] at htype
    obtain ⟨_, hother⟩ := Project.exists_resolve?_of_exported hexported
    rw [h.registry.eq_of_resolve? h.catalog hother hresolve htype]
  · have hexports : Project.Exports session.catalog session.registry placed.2.typeId component :=
      ⟨hplaced, hmodule⟩
    have hexported : component ∈ Project.exportedComponents session.catalog session.registry
        session.document.instances := by
      refine List.mem_filterMap.mpr ⟨placed, hmem, ?_⟩
      dsimp only
      rw [Project.exportable?_eq_ok.mpr hexports]
      rfl
    refine ⟨hgathers.mem_modules h.registry h.catalog hexported, ?_, fun skipped hmem' htype => ?_⟩
    · -- it is not left out, so it is shown
      have hshown := haccounts.mem_shown_iff.mpr ⟨hmem, component, hexports⟩
      obtain ⟨line, hline, other, hother, hmarkup⟩ :=
        exists_right_of_forall₂ haccounts.markup hshown
      obtain rfl := hexports.unique hother
      exact ⟨line, hline, hmarkup⟩
    · -- what is left out has a type that is not exported
      rw [hskipped] at hmem'
      obtain ⟨other, -, hleft⟩ := exists_left_of_forall₂ haccounts.skipped hmem'
      rw [← htype, hleft.typeId_eq] at hexports
      exact hleft.not_exports _ hexports

/-- An instance of an entry without a template is reported. -/
theorem mem_skipped_of_noTemplate {entry : Catalog.Entry} (hentry : entry.isExportable = false)
    {id : InstanceId} {placed : Instance} (hmem : (id, placed) ∈ session.document.instances)
    (hresolve : session.resolve? placed.typeId = some (.ready entry))
    (hproject : session.synthesize = .ok project) :
    ⟨id, placed.typeId, .noTemplate⟩ ∈ project.skipped := by
  obtain ⟨draft, shown, left, -, haccounts, hskipped⟩ := exists_accounts_of_synthesize hproject
  have hleft : Project.LeftOut session.catalog session.registry (id, placed)
      ⟨id, placed.typeId, .noTemplate⟩ := .noTemplate hresolve hentry
  rw [hskipped]
  rcases List.mem_append.mp (haccounts.perm.mem_iff.mp hmem) with hshown | hmem
  -- what is shown is exported, and this instance is not
  · obtain ⟨-, component, hcomponent⟩ := haccounts.mem_shown_iff.mp hshown
    exact absurd hcomponent (hleft.not_exports component)
  · obtain ⟨skipped, hmem, hother⟩ := exists_right_of_forall₂ haccounts.skipped hmem
    -- there is one reason to leave it out
    cases hother with
    | unresolved hnone =>
      rw [Session.resolve?, hnone] at hresolve
      cases hresolve
    | noTemplate _ _ => exact hmem

end ComponentCanvas.Session
