import ComponentCanvas.Proofs.Project.Dependencies
import ComponentCanvas.Proofs.Session.Exports

/-!
# Dependencies of an Export

An export depends on the packages of every project and on those that catalog entries require for the
instances that are exported.  Both the export and the session ask each type for its packages, the
export only the types of instances that it shows.  So the two agree where nothing is left out, and
the dependencies are told by the placed types, of which the generated ones tell nothing.
-/

namespace ComponentCanvas.Session

/-- Whether an instance is reported as left out. -/
def Skips (project : Project) (placed : InstanceId × Instance) : Prop :=
  ∃ reason, ⟨placed.1, placed.2.typeId, reason⟩ ∈ project.skipped

/-- Whether a package is required by the catalog entry that an exported instance stands for. -/
def Requires (session : Session) (project : Project) (package : String) : Prop :=
  ∃ placed ∈ session.document.instances, ¬ Skips project placed ∧
    ∃ entry, session.resolve? placed.2.typeId = some (.ready entry) ∧
      package ∈ entry.requiredPackages

/-- Whether a type stands for a generated component. -/
def IsGenerated (session : Session) (typeId : String) : Prop :=
  ∃ entry, session.resolve? typeId = some (.generated entry)

/-- The placed types, one for each instance. -/
def placedTypes (document : Document) : List String := document.instances.map (·.2.typeId)

theorem placedTypes_eq_map (document : Document) :
    placedTypes document = (document.instances.map (·.2)).map (·.typeId) := by
  rw [List.map_map]
  rfl

variable {session : Session} {project : Project} {package : String}

/-! ## Exported instances -/

/-- An instance is left out exactly if its type has nothing to export. -/
theorem skips_iff (hproject : session.synthesize = .ok project)
    {placed : InstanceId × Instance} (hplaced : placed ∈ session.document.instances) :
    Skips project placed ↔
      ∀ component,
        ¬ Project.Exports session.catalog session.registry placed.2.typeId component := by
  obtain ⟨_, shown, left, -, haccounts, hskipped⟩ := exists_accounts_of_synthesize hproject
  constructor
  -- a skipped type is that of an instance that was left out, and such an instance exports nothing
  · rintro ⟨reason, hreason⟩
    obtain ⟨other, -, hleft⟩ := exists_left_of_forall₂ haccounts.skipped (hskipped ▸ hreason)
    have hnone := hleft.not_exports
    rwa [← hleft.typeId_eq] at hnone
  -- an instance is shown or left out, and only what exports something is shown
  · intro hnone
    rcases List.mem_append.mp (haccounts.perm.mem_iff.mp hplaced) with hshown | hleft
    · obtain ⟨-, component, hcomponent⟩ := haccounts.mem_shown_iff.mp hshown
      exact absurd hcomponent (hnone component)
    · obtain ⟨skipped, hmem, hleft⟩ := exists_right_of_forall₂ haccounts.skipped hleft
      cases hleft with
      | unresolved _ => exact ⟨_, hskipped ▸ hmem⟩
      | noTemplate _ _ => exact ⟨_, hskipped ▸ hmem⟩

/-- The packages that exported instances require are those of the placed types that stand for an
entry with something to export. -/
theorem requires_iff (hproject : session.synthesize = .ok project) :
    session.Requires project package ↔ ∃ typeId ∈ placedTypes session.document, ∃ entry,
      Project.Exports session.catalog session.registry typeId (.ready entry) ∧
        package ∈ entry.requiredPackages := by
  constructor
  · rintro ⟨placed, hplaced, hshown, entry, hentry, hpackage⟩
    rw [skips_iff hproject hplaced] at hshown
    push Not at hshown
    obtain ⟨component, hcomponent⟩ := hshown
    -- the instance stands for one component, and that is the entry
    obtain rfl := Option.some.inj (hentry.symm.trans hcomponent.1)
    exact ⟨_, List.mem_map_of_mem hplaced, entry, hcomponent, hpackage⟩
  · rintro ⟨typeId, htype, entry, hentry, hpackage⟩
    obtain ⟨placed, hplaced, rfl⟩ := List.mem_map.mp htype
    refine ⟨placed, hplaced, fun hskips => ?_, entry, hentry.1, hpackage⟩
    exact (skips_iff hproject hplaced).mp hskips _ hentry

/-- The dependencies of an export are those of the instances that it shows. -/
theorem exists_exported_of_synthesize (hproject : session.synthesize = .ok project) :
    ∃ exported : List Instance,
      (∀ typeId, typeId ∈ exported.map (·.typeId) ↔ typeId ∈ placedTypes session.document ∧
        ∃ component, Project.Exports session.catalog session.registry typeId component) ∧
      project.dependencies = Project.withRequired session.config.packages
        (Project.requiredPackages exported session.catalog session.registry
          session.config.packages) := by
  obtain ⟨draft, shown, left, hdraft, haccounts, -⟩ := exists_accounts_of_synthesize hproject
  refine ⟨draft.exported, fun typeId => ?_, ?_⟩
  -- what is exported are the instances that are shown
  · rw [haccounts.exported, List.map_map]
    constructor
    · intro htype
      obtain ⟨entry, hentry, rfl⟩ := List.mem_map.mp htype
      obtain ⟨hplaced, hcomponent⟩ := haccounts.mem_shown_iff.mp hentry
      exact ⟨List.mem_map_of_mem hplaced, hcomponent⟩
    · rintro ⟨htype, hcomponent⟩
      obtain ⟨entry, hentry, rfl⟩ := List.mem_map.mp htype
      exact List.mem_map_of_mem (haccounts.mem_shown_iff.mpr ⟨hentry, hcomponent⟩)
  · rw [synthesize, Project.synthesize, hdraft] at hproject
    rw [← pure_eq_ok.mp hproject]
    rfl

/-! ## Dependencies -/

/-- The packages that go into the dependencies of an export: those that are required, without the
denied ones and the malformed ones. -/
theorem exists_packages_of_synthesize (hproject : session.synthesize = .ok project) :
    ∃ packages, packages.Pairwise (· < ·) ∧
      (∀ package, package ∈ packages ↔
        package ∉ session.config.packages.denylist ∧ Project.IsPackage package ∧
          session.Requires project package) ∧
      project.dependencies = Project.withRequired session.config.packages packages := by
  obtain ⟨exported, hexported, hdependencies⟩ := exists_exported_of_synthesize hproject
  refine ⟨_, pairwise_sortedNames _, fun package => ?_, hdependencies⟩
  rw [← Project.requiredPackages, Project.mem_requiredPackages, requires_iff hproject]
  refine and_congr_right fun _ => and_congr_right fun _ => exists_congr fun typeId => ?_
  rw [hexported]
  -- a type stands for one component, so a type that is exported is so for its entry
  constructor
  · rintro ⟨⟨htype, component, hcomponent⟩, entry, hentry, hpackage⟩
    obtain rfl := Option.some.inj (hentry.symm.trans hcomponent.1)
    exact ⟨htype, entry, hcomponent, hpackage⟩
  · rintro ⟨htype, entry, hentry, hpackage⟩
    exact ⟨⟨htype, _, hentry⟩, entry, hentry.1, hpackage⟩

/-- What a session requires is what its placed types require, whether they are exported or not. -/
theorem mem_requiredPackages : package ∈ session.requiredPackages ↔
    package ∉ session.config.packages.denylist ∧ Project.IsPackage package ∧
      ∃ typeId ∈ placedTypes session.document, ∃ entry,
        session.resolve? typeId = some (.ready entry) ∧ package ∈ entry.requiredPackages := by
  rw [requiredPackages, Project.mem_requiredPackages, ← placedTypes_eq_map]
  rfl

/-- Of the placed types only those that stand for entries tell the dependencies. -/
theorem dependencies_congr {document : Document} {other : Project}
    (hproject : session.synthesize = .ok project)
    (hother : ({ session with document } : Session).synthesize = .ok other)
    (htypes : ∀ typeId, ¬ session.IsGenerated typeId →
      (typeId ∈ placedTypes document ↔ typeId ∈ placedTypes session.document)) :
    other.dependencies = project.dependencies := by
  obtain ⟨packages, hsorted, hpackages, hdependencies⟩ := exists_packages_of_synthesize hproject
  obtain ⟨packages', hsorted', hpackages', hdependencies'⟩ := exists_packages_of_synthesize hother
  have hrequires : ∀ package, ({ session with document } : Session).Requires other package ↔
      session.Requires project package := by
    intro package
    rw [requires_iff hproject, requires_iff hother]
    refine exists_congr fun typeId => ?_
    rw [and_congr_left_iff]
    rintro ⟨entry, hentry, -⟩
    refine htypes typeId ?_
    -- a type that stands for an entry is not generated
    rintro ⟨generated, hgenerated⟩
    cases hgenerated.symm.trans hentry.1
  -- both lists ascend, so they are told by their members
  have hsame : packages' = packages :=
    hsorted'.eq_of_mem_iff hsorted fun package => by rw [hpackages, hpackages', hrequires]
  rw [hdependencies, hdependencies', hsame]

/-- A document with the same instances, in any order and any number, is exported as well. -/
theorem exists_synthesize_of_rearranged {document : Document}
    (hproject : session.synthesize = .ok project)
    (hplaced : ∀ placed, placed ∈ document.instances.map (·.2) →
      placed ∈ session.document.instances.map (·.2)) :
    ∃ other, ({ session with document } : Session).synthesize = .ok other := by
  cases hother : ({ session with document } : Session).synthesize with
  | ok other => exact ⟨other, rfl⟩
  | error e =>
    -- an instance that blocks the one export blocks the other
    obtain ⟨entry, hentry, cause, hblocked⟩ := Project.exists_firstBlocked_iff.mp
      ⟨e, Project.synthesize_eq_error.mp hother⟩
    obtain ⟨same, hsame, heq⟩ := List.mem_map.mp (hplaced _ (List.mem_map_of_mem hentry))
    obtain ⟨e', he'⟩ := Project.exists_firstBlocked_iff.mpr ⟨same, hsame, cause, heq ▸ hblocked⟩
    cases hproject.symm.trans (Project.synthesize_eq_error.mpr he')

/-- The manifest is no module, so no module stands in its place. -/
theorem get?_files_manifestPath (hproject : session.synthesize = .ok project) :
    Fields.get? project.files Project.manifestPath =
      some (Project.manifestText session.config project.dependencies) := by
  obtain ⟨draft, -, hgathers, hfiles⟩ := Project.exists_draft_of_synthesize hproject
  have hmodules : ∀ m ∈ draft.modules, Project.IsModulePath m.path := by
    intro m hm
    obtain ⟨component, -, rfl⟩ := hgathers.origin m hm
    exact Project.isModulePath_ofComponent component
  -- no module can overwrite the manifest
  have hplain : ¬ Project.IsModulePath Project.manifestPath := by decide
  have hwritten : (Project.manifestPath, Project.manifestText session.config project.dependencies) ∈
      Project.writtenFiles session.config project.dependencies draft := by
    simp [Project.writtenFiles]
  rw [hfiles]
  exact Project.get?_fileTable_of_plain hmodules hwritten hplain

/-- What determines the dependencies of an export. -/
structure DependenciesDetermined (session : Session) (project : Project) : Prop where
  /-- A package is depended on if every project has it, or if it is required by an exported
  instance and may be depended on. -/
  keys : ∀ package, package ∈ Fields.keys project.dependencies ↔
    package ∈ Fields.keys session.config.packages.baseline ∨
      package ∉ session.config.packages.denylist ∧ Project.IsPackage package ∧
        session.Requires project package
  /-- A package that every project has keeps its version. -/
  kept : ∀ package version, Fields.get? session.config.packages.baseline package = some version →
    Fields.get? project.dependencies package = some version
  /-- Any other package has its own version or the default one. -/
  added : ∀ package ∈ Fields.keys project.dependencies,
    package ∉ Fields.keys session.config.packages.baseline →
      Fields.get? project.dependencies package =
        some ((Fields.get? session.config.packages.versions package).getD
          session.config.packages.defaultVersion)
  /-- The manifest shows the dependencies. -/
  manifest : Fields.get? project.files Project.manifestPath =
    some (Project.manifestText session.config project.dependencies)
  /-- The order of the instances and repetitions make no difference. -/
  rearranged : ∀ document : Document,
    (∀ placed, placed ∈ document.instances.map (·.2) ↔
      placed ∈ session.document.instances.map (·.2)) →
    ∃ other, ({ session with document } : Session).synthesize = .ok other ∧
      other.dependencies = project.dependencies ∧
      ({ session with document } : Session).requiredPackages = session.requiredPackages
  /-- Types that stand for generated components make no difference. -/
  ungenerated : ∀ (document : Document) (other : Project),
    ({ session with document } : Session).synthesize = .ok other →
    (∀ typeId, ¬ session.IsGenerated typeId →
      (typeId ∈ placedTypes document ↔ typeId ∈ placedTypes session.document)) →
    other.dependencies = project.dependencies
  /-- Where nothing is left out, the packages that are added are those that the session requires. -/
  required : project.skipped = [] → ∀ package,
    package ∉ Fields.keys session.config.packages.baseline →
      (package ∈ Fields.keys project.dependencies ↔ package ∈ session.requiredPackages)

/-- The dependencies of an export are determined by what its exported instances stand for. -/
theorem dependencies_determined (hproject : session.synthesize = .ok project) :
    session.DependenciesDetermined project := by
  obtain ⟨packages, -, hpackages, hdependencies⟩ := exists_packages_of_synthesize hproject
  constructor
  case keys =>
    intro package
    rw [hdependencies, Project.mem_keys_withRequired, hpackages]
  case kept =>
    intro package version hversion
    rw [hdependencies, Project.get?_withRequired, hversion, Option.some_or]
  -- a package that was not configured gets the version for those that are required
  case added =>
    intro package hmem hnew
    rw [hdependencies, Project.mem_keys_withRequired] at hmem
    rw [hdependencies, Project.get?_withRequired, Fields.get?_eq_none.mpr hnew, Option.none_or,
      if_pos (hmem.resolve_left hnew)]
    rfl
  case manifest => exact get?_files_manifestPath hproject
  -- the other order exports the same types, though it may come to another error
  case rearranged =>
    intro document hplaced
    obtain ⟨other, hother⟩ :=
      exists_synthesize_of_rearranged hproject fun placed => (hplaced placed).mp
    have htypes : ∀ typeId, typeId ∈ placedTypes document ↔
        typeId ∈ placedTypes session.document := by
      intro typeId
      simp only [placedTypes_eq_map, List.mem_map (l := List.map _ _), hplaced]
    refine ⟨other, hother, dependencies_congr hproject hother fun typeId _ => htypes typeId, ?_⟩
    simp only [placedTypes_eq_map] at htypes
    exact Project.requiredPackages_congr htypes
  case ungenerated =>
    intro document other hother htypes
    exact dependencies_congr hproject hother htypes
  case required =>
    intro hskipped package hnew
    -- nothing is skipped, so all placed types count
    have hshown : ∀ placed, ¬ Skips project placed := by
      rintro placed ⟨reason, hreason⟩
      rw [hskipped] at hreason
      cases hreason
    rw [hdependencies, Project.mem_keys_withRequired, or_iff_right hnew, hpackages,
      mem_requiredPackages]
    simp [Requires, hshown, placedTypes]

/-- A component of the catalog that requires, among others, a package that every project has, a
denied one and a malformed one. -/
def chartEntry : Catalog.Entry where
  id := "chart"
  displayName := "Chart"
  category := .content
  typeId := "Chart"
  sourceImportPath := "components/Chart"
  requiredPackages := ["@/lib/utils", "Bad Name", "clsx", "d3", "react"]
  template := "export default function Chart() \x7b\n  return <p>Hello</p>;\n\x7d\n"

/-- A component of the catalog without a template. -/
def sketchEntry : Catalog.Entry where
  id := "sketch"
  displayName := "Sketch"
  category := .content
  typeId := "Sketch"
  sourceImportPath := "components/Sketch"
  requiredPackages := ["framer-motion"]

/-- A session with two charts, a sketch and a generated card. -/
def chartSession : Session where
  config := {}
  catalog := ⟨"", [chartEntry, sketchEntry]⟩
  registry := Project.greeted "Card"
  document := ⟨["chart", "Sketch", "Card", "Chart"].mapIdx fun index typeId =>
    (⟨index + 1⟩, ⟨typeId, .content, [], ⟨0, 0⟩⟩), 4⟩

/-- The dependencies of an export of charts. -/
theorem dependencies_determined_of_charts :
    ∃ project, chartSession.synthesize = .ok project ∧
      project.dependencies =
        [("clsx", "^2.1.1"), ("d3", "latest"), ("react", "^18.3.1"), ("react-dom", "^18.3.1")] ∧
      chartSession.DependenciesDetermined project := by
  have hrun : chartSession.synthesize.toOption.map (·.dependencies) =
      some [("clsx", "^2.1.1"), ("d3", "latest"), ("react", "^18.3.1"),
        ("react-dom", "^18.3.1")] := by
    decide +kernel
  obtain ⟨project, hproject, hdependencies⟩ := Option.map_eq_some_iff.mp hrun
  have hok : chartSession.synthesize = .ok project := by
    cases hsession : chartSession.synthesize with
    | error e => simp [hsession, Except.toOption] at hproject
    | ok other => simpa [hsession, Except.toOption] using hproject
  exact ⟨project, hok, hdependencies, dependencies_determined hok⟩

end ComponentCanvas.Session
