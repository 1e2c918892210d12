import ComponentCanvas.Proofs.Blueprint.TypeName
import ComponentCanvas.Proofs.Project.Imports

/-!
# Places of Files

A path is read name by name, and a name may lead up.  The files of an export are given relative to
the directory that the project is written to.  Those of the scaffold and of generated components
stay below that directory, as the type of a generated component is a single name.  A component of
the catalog stays below it exactly if the directories of its import path, read from the source
directory, do.
-/

namespace ComponentCanvas.Project

/-! ## Reading a path -/

/-- The place that one name leads to, unless it lies above the root. -/
def climb? (place : List String) (name : String) : Option (List String) :=
  if name = ".." ∧ place = [] then none else some (step place name)

/-- The place that names lead to, one after the other, unless one of them leads above the root. -/
def walk? (place names : List String) : Option (List String) := names.foldlM climb? place

/-- Whether the file of a path stays below the directory that the path is given in. -/
def StaysBelow (path : String) : Prop := (walk? [] (pathSegments path)).isSome = true

instance (path : String) : Decidable (StaysBelow path) :=
  inferInstanceAs (Decidable (_ = true))

/-- Whether a path does not open with a slash, which would mean the root of all files.  The bare
name of a package is such a path as well. -/
def IsUnrooted (path : String) : Prop := path.toList.head? ≠ some '/'

instance (path : String) : Decidable (IsUnrooted path) :=
  inferInstanceAs (Decidable (_ ≠ _))

theorem isUnrooted_append {start : String} (hne : start ≠ "") (h : IsUnrooted start)
    (rest : String) : IsUnrooted (start ++ rest) := by
  rw [IsUnrooted, String.toList_append]
  cases hstart : start.toList with
  | nil => exact absurd (String.toList_eq_nil_iff.mp hstart) hne
  | cons c cs => simpa [IsUnrooted, hstart] using h

theorem walk?_append (place names rest : List String) :
    walk? place (names ++ rest) = (walk? place names).bind (walk? · rest) :=
  List.foldlM_append

/-- Names that do not lead up stay below. -/
theorem isSome_walk?_of_notMem {names : List String} (h : ".." ∉ names) (place : List String) :
    (walk? place names).isSome = true := by
  induction names generalizing place with
  | nil => rfl
  | cons name rest ih =>
    rw [List.mem_cons, not_or] at h
    have hclimb : climb? place name = some (step place name) := if_neg fun hup => h.1 hup.1.symm
    rw [walk?, List.foldlM_cons, hclimb]
    exact ih h.2 _

/-- A last name that does not lead up changes nothing about where the path stays. -/
theorem isSome_walk?_concat {place names : List String} {name : String} (h : name ≠ "..") :
    (walk? place (names ++ [name])).isSome = (walk? place names).isSome := by
  rw [walk?_append]
  cases walk? place names with
  | none => rfl
  | some between => exact isSome_walk?_of_notMem (by simpa using h.symm) between

/-! ## Files of modules -/

/-- The directories that a path leads through: its names without the last one. -/
def directories (path : String) : List String := (pathSegments path).dropLast

/-- The names of the file of a module are the directories of its path and a name of its own. -/
theorem pathSegments_module (stem : String) :
    ∃ name, name ≠ ".." ∧ pathSegments (stem ++ ".jsx") = directories stem ++ [name] := by
  have hending : ∀ c ∈ ".jsx".toList, (c == '/') = false := by simp
  obtain ⟨dirs, last, hstem, hmodule⟩ := Text.splitBy_append hending stem.toList
  refine ⟨String.ofList (last ++ ".jsx".toList), ?_, ?_⟩
  · -- the name ends with another letter than the one that leads up
    intro hname
    have hlast := congrArg (fun n : String => n.toList.getLast?) hname
    simp at hlast
  · rw [directories, pathSegments, pathSegments, String.toList_append, hmodule, hstem]
    simp

theorem isSome_walk?_module (place : List String) (stem : String) :
    (walk? place (pathSegments (stem ++ ".jsx"))).isSome =
      (walk? place (directories stem)).isSome := by
  obtain ⟨name, hname, hsegments⟩ := pathSegments_module stem
  rw [hsegments, isSome_walk?_concat hname]

/-- Whether the directories of the import path of a component lead nowhere above the project. -/
def ImportStays (entry : Catalog.Entry) : Prop :=
  (walk? ["src"] (directories (trimSlashes entry.sourceImportPath))).isSome = true

/-- In the project the source directory lies below the root. -/
theorem walk?_source (names : List String) : walk? [] ("src" :: names) = walk? ["src"] names := by
  have hclimb : climb? [] "src" = some ["src"] := by decide +kernel
  rw [walk?, List.foldlM_cons, hclimb]
  rfl

/-- The file of a component of the catalog stays below the directory exactly if its import path
does. -/
theorem staysBelow_ofCatalog_iff (entry : Catalog.Entry) :
    StaysBelow (ComponentModule.ofCatalog entry).path ↔ ImportStays entry := by
  have hsource : pathSegments "src" = ["src"] := by decide +kernel
  have hpath : (ComponentModule.ofCatalog entry).path =
      "src" ++ "/" ++ (trimSlashes entry.sourceImportPath ++ ".jsx") := by
    show "src/" ++ trimSlashes entry.sourceImportPath ++ ".jsx" = _
    rw [String.append_assoc]
    rfl
  rw [StaysBelow, hpath, pathSegments_append, hsource, List.singleton_append, walk?_source,
    isSome_walk?_module, ImportStays]

/-- The directories of a component whose type holds no slash are those it is given. -/
theorem directories_ofGenerated {typeId : String} (htype : '/' ∉ typeId.toList)
    (directory : String) :
    directories (trimSlashesEnd directory ++ "/" ++ typeId) =
      pathSegments (trimSlashesEnd directory) := by
  rw [directories, pathSegments_append, pathSegments_of_notMem htype, List.dropLast_concat]

/-- The file of a component whose type holds no slash stays below the root exactly if its directory
does. -/
theorem staysBelow_ofGenerated_iff {entry : Registered} (htype : '/' ∉ entry.typeId.toList)
    (scope : Scope) (directory : String) :
    StaysBelow (ComponentModule.ofGenerated entry scope directory).path ↔
      StaysBelow (trimSlashesEnd directory) := by
  show StaysBelow (trimSlashesEnd directory ++ "/" ++ entry.typeId ++ ".jsx") ↔ _
  rw [StaysBelow, isSome_walk?_module, directories_ofGenerated htype, StaysBelow]

/-! ## Files of an export -/

variable {catalog : Catalog} {registry : Registry} {scope : Scope} {dependencies : Fields String}
  {draft : Draft}

/-- The paths of the files that every export has. -/
def fixedPaths (config : Config) : List String :=
  Fields.keys (scaffold config) ++ [manifestPath, entryPath]

/-- The paths of an export are the fixed ones and those of its modules. -/
theorem mem_keys_fileTable {config : Config} {path : String} :
    path ∈ Fields.keys (fileTable config dependencies draft) ↔
      path ∈ fixedPaths config ∨ ∃ m ∈ draft.modules, m.path = path := by
  have hmodules : path ∈ Fields.keys (draft.modules.map fun m => (m.path, m.contents)) ↔
      ∃ m ∈ draft.modules, m.path = path := by
    simp [Fields.keys]
  rw [fileTable, Fields.mem_keys_sorted, Fields.keys_append, Fields.keys_append, List.mem_append,
    hmodules]
  exact Iff.rfl

theorem fixedPaths_default : ∀ path ∈ fixedPaths {}, IsUnrooted path ∧ StaysBelow path := by
  decide +kernel

/-- The default directory of generated components has a name and stays below the root. -/
theorem generatedDir_default : trimSlashesEnd "src/components/generated" ≠ "" ∧
    IsUnrooted (trimSlashesEnd "src/components/generated") ∧
    StaysBelow (trimSlashesEnd "src/components/generated") := by
  decide +kernel

/-- The module of a component under the default configuration. -/
def moduleOf (registry : Registry) (component : Component) : ComponentModule :=
  .ofComponent registry.scope "src/components/generated" component

/-- No module has a rooted path. -/
theorem isUnrooted_moduleOf (component : Component) :
    IsUnrooted (moduleOf registry component).path := by
  cases component with
  | ready entry =>
    show IsUnrooted ("src/" ++ trimSlashes entry.sourceImportPath ++ ".jsx")
    rw [String.append_assoc]
    exact isUnrooted_append (by decide +kernel) (by decide +kernel) _
  | generated entry =>
    show IsUnrooted (trimSlashesEnd "src/components/generated" ++ "/" ++ entry.typeId ++ ".jsx")
    rw [String.append_assoc, String.append_assoc]
    exact isUnrooted_append generatedDir_default.1 generatedDir_default.2.1 _

/-- A generated component of a session has a type without a slash. -/
theorem slash_notMem_typeId {submissions : List Registry.Submission}
    (hregistry : (Registry.run ⟨scope, []⟩ submissions).1 = registry) {key : String}
    {entry : Registered} (h : registry.get? key = some entry) : '/' ∉ entry.typeId.toList := by
  have hrecord := (hregistry ▸ Registry.run_faithful scope submissions).entries _
    (Fields.mem_of_get? h)
  obtain ⟨definition, -, -, hcompile, -⟩ := hrecord.origin
  have hslash := Blueprint.slash_notMem_typeId hcompile
  rwa [hrecord.blueprint, ← hrecord.typeId] at hslash

/-- The file of a component that is exported stays below the root, unless the component is of the
catalog and its import path leads above it. -/
theorem staysBelow_ofComponent_iff {submissions : List Registry.Submission}
    (hregistry : (Registry.run ⟨scope, []⟩ submissions).1 = registry)
    {instances : List (InstanceId × Instance)} {component : Component}
    (h : component ∈ exportedComponents catalog registry instances) :
    StaysBelow (moduleOf registry component).path ↔
      ∀ entry, component = .ready entry → ImportStays entry := by
  cases component with
  | ready entry =>
    rw [moduleOf, ComponentModule.ofComponent, staysBelow_ofCatalog_iff]
    constructor
    · rintro hstays _ ⟨⟩
      exact hstays
    · exact fun hstays => hstays entry rfl
  | generated entry =>
    have hkeyed : registry.Keyed := hregistry ▸ Registry.keyed_run scope submissions
    obtain ⟨typeId, hresolve⟩ := exists_resolve?_of_exported h
    -- the name of a generated type has no slash, so its module lies in the directory of the default
    -- configuration
    refine iff_of_true ?_ nofun
    rcases hkeyed.cases_resolve? hresolve with ⟨other, heq, hget⟩ | ⟨other, -, heq, -⟩
    · obtain rfl := Component.generated.inj heq
      exact (staysBelow_ofGenerated_iff (slash_notMem_typeId hregistry hget) _ _).mpr
        generatedDir_default.2.2
    · cases heq

/-- The paths of an export are the fixed ones and those of the components that are exported. -/
theorem mem_paths_iff (hregistry : registry.Keyed) (hcatalog : catalog.Valid)
    {document : Document} {project : Project}
    (h : synthesize document catalog registry {} = .ok project) {path : String} :
    path ∈ Fields.keys project.files ↔ path ∈ fixedPaths {} ∨
      ∃ component ∈ exportedComponents catalog registry document.instances,
        (moduleOf registry component).path = path := by
  obtain ⟨draft, -, hgathers, hfiles⟩ := exists_draft_of_synthesize h
  -- the modules of the draft are those of the exported components, in both directions
  rw [hfiles, mem_keys_fileTable]
  refine or_congr_right ⟨?_, ?_⟩
  · rintro ⟨m, hm, rfl⟩
    obtain ⟨component, hcomponent, rfl⟩ := hgathers.origin m hm
    exact ⟨component, hcomponent, rfl⟩
  · rintro ⟨component, hcomponent, rfl⟩
    exact ⟨_, hgathers.mem_modules hregistry hcatalog hcomponent, rfl⟩

/-- No path of a file of an export with the default configuration opens with a slash.  A path leads
above the root only if it is that of a component of the catalog whose import path does, and all
paths stay below the root exactly if those of all components of the catalog that are exported do. -/
theorem paths_below_root {version : String} {entries : List Catalog.Entry}
    (hcatalog : Catalog.ofEntries version entries = .ok catalog)
    {submissions : List Registry.Submission}
    (hregistry : (Registry.run ⟨scope, []⟩ submissions).1 = registry) {document : Document}
    {project : Project} (h : synthesize document catalog registry {} = .ok project) :
    let components := exportedComponents catalog registry document.instances
    let paths := Fields.keys project.files
    (∀ path ∈ paths, IsUnrooted path) ∧
    (∀ path ∈ paths, StaysBelow path ∨ ∃ entry, .ready entry ∈ components ∧
      path = (ComponentModule.ofCatalog entry).path ∧ ¬ ImportStays entry) ∧
    ((∀ path ∈ paths, StaysBelow path) ↔
      ∀ entry, .ready entry ∈ components → ImportStays entry) := by
  have hkeyed : registry.Keyed := hregistry ▸ Registry.keyed_run scope submissions
  -- every path is one of the fixed ones or that of the module of an exported component
  have hpaths : ∀ {path}, path ∈ Fields.keys project.files ↔ _ :=
    fun {path} => mem_paths_iff hkeyed (Catalog.valid_of_ofEntries hcatalog) h
  have hclimbs : ∀ path ∈ Fields.keys project.files, StaysBelow path ∨
      ∃ entry, .ready entry ∈ exportedComponents catalog registry document.instances ∧
        path = (ComponentModule.ofCatalog entry).path ∧ ¬ ImportStays entry := by
    intro path hpath
    -- fixed paths lie below the root, and of the modules only those of the catalog can climb
    rcases hpaths.mp hpath with hfixed | ⟨component, hcomponent, rfl⟩
    · exact .inl (fixedPaths_default path hfixed).2
    · rw [staysBelow_ofComponent_iff hregistry hcomponent]
      by_cases hstays : ∀ entry, component = .ready entry → ImportStays entry
      · exact .inl hstays
      · simp only [not_forall] at hstays
        obtain ⟨entry, rfl, hentry⟩ := hstays
        exact .inr ⟨entry, hcomponent, rfl, hentry⟩
  refine ⟨?unrooted, hclimbs, ?below, ?imports⟩
  -- the first part holds in any case, since every path opens with a name of its own
  case unrooted =>
    intro path hpath
    rcases hpaths.mp hpath with hfixed | ⟨component, -, rfl⟩
    · exact (fixedPaths_default path hfixed).1
    · exact isUnrooted_moduleOf component
  -- the module of a catalog entry is among the files, so its path tells of its import
  case below =>
    intro hbelow entry hentry
    have hpath := hbelow _ (hpaths.mpr (.inr ⟨_, hentry, rfl⟩))
    exact (staysBelow_ofComponent_iff hregistry hentry).mp hpath entry rfl
  -- a path that climbs would come from an entry whose import does
  case imports =>
    intro hstays path hpath
    rcases hclimbs path hpath with hbelow | ⟨entry, hentry, -, hclimbs⟩
    · exact hbelow
    · exact absurd (hstays entry hentry) hclimbs

/-- The files of a generated card stay below the root. -/
theorem paths_below_root_of_card :
    ∃ project, Catalog.ofEntries "" [] = .ok Catalog.empty ∧
      synthesize (placedOnce "Card") Catalog.empty (greeted "Card") {} = .ok project ∧
      ∀ path ∈ Fields.keys project.files, IsUnrooted path ∧ StaysBelow path := by
  have hrun : readExport (placedOnce "Card") Catalog.empty (greeted "Card") {} (fun _ _ =>
      (exportedComponents Catalog.empty (greeted "Card") (placedOnce "Card").instances).all
        fun component => component matches .generated _) = .ok true := by decide +kernel
  obtain ⟨_, project, -, hproject, hgenerated⟩ := exists_of_readExport hrun
  have hcatalog : Catalog.ofEntries "" [] = .ok Catalog.empty := rfl
  obtain ⟨hunrooted, -, hbelow⟩ := paths_below_root hcatalog rfl hproject
  -- everything that is exported was generated, so there is no import to look at
  have hnone : ∀ entry, .ready entry ∈ exportedComponents Catalog.empty (greeted "Card")
      (placedOnce "Card").instances → ImportStays entry := by
    intro entry hentry
    exact absurd (List.all_eq_true.mp hgenerated _ hentry) nofun
  exact ⟨project, hcatalog, hproject, fun path hpath =>
    ⟨hunrooted path hpath, hbelow.mpr hnone path hpath⟩⟩

/-- A component of the catalog whose import path leads out of the project. -/
def climbingCard : Catalog.Entry where
  id := "card"
  displayName := "Card"
  category := .content
  typeId := "Card"
  sourceImportPath := "../../escape"
  template := "export default function Card() \x7b\n  return <p>Hello</p>;\n\x7d\n"

/-- Its file is written outside the directory that the project is written to. -/
theorem path_above_root :
    ∃ catalog project path, Catalog.ofEntries "" [climbingCard] = .ok catalog ∧
      synthesize (placedOnce "Card") catalog ⟨Scope.ofConfig {}, []⟩ {} = .ok project ∧
      path ∈ Fields.keys project.files ∧ ¬ StaysBelow path := by
  set catalog : Catalog := ⟨"", [climbingCard]⟩
  have hrun : readExport (placedOnce "Card") catalog ⟨Scope.ofConfig {}, []⟩ {} (fun _ project =>
      (Fields.keys project.files).all fun path => decide (StaysBelow path)) = .ok false := by
    decide +kernel
  obtain ⟨_, project, -, hproject, hclimbs⟩ := exists_of_readExport hrun
  have haccepted : Catalog.ofEntries "" [climbingCard] = .ok catalog :=
    Catalog.ofEntries_eq_ok.mpr ⟨by decide +kernel, rfl⟩
  -- not all paths stay below, and the one that does not is the counterexample
  obtain ⟨path, hpath, hbelow⟩ := List.all_eq_false.mp hclimbs
  exact ⟨catalog, project, path, haccepted, hproject, hpath, by simpa using hbelow⟩

end ComponentCanvas.Project
