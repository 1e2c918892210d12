import ComponentCanvas.Proofs.Fields
import ComponentCanvas.Proofs.Project.Gathering
import ComponentCanvas.Proofs.Registry.Record

/-!
# Files of an Export

An export writes the scaffold, the manifest, the entry point and the gathered modules into one
table, so a file that is written later stands in the place of an earlier one with its path.  Nothing
is lost exactly if no two files with one path differ; only paths with the ending of modules can
meet, and two generated components never do.
-/

namespace ComponentCanvas.Project

variable {catalog : Catalog} {registry : Registry} {scope : Scope} {directory : String}
  {config : Config} {dependencies : Fields String} {draft : Draft}

/-- The files of a draft in the order in which they are written. -/
def writtenFiles (config : Config) (dependencies : Fields String) (draft : Draft) :
    Fields String :=
  scaffold config ++
    [(manifestPath, manifestText config dependencies),
     (entryPath, entryText draft.modules draft.markup)] ++
    draft.modules.map fun m => (m.path, m.contents)

/-- Of the files with one path the last that is written counts. -/
theorem get?_fileTable (path : String) :
    Fields.get? (fileTable config dependencies draft) path =
      Fields.get? (writtenFiles config dependencies draft).reverse path :=
  Fields.get?_sorted _ path

/-- A file is there if all others with its path agree with it. -/
theorem get?_fileTable_of_agree {file : String × String}
    (h : file ∈ writtenFiles config dependencies draft)
    (hagree : ∀ other ∈ writtenFiles config dependencies draft,
      other.1 = file.1 → other.2 = file.2) :
    Fields.get? (fileTable config dependencies draft) file.1 = some file.2 := by
  rw [get?_fileTable]
  apply Fields.get?_of_agree (List.mem_reverse.mpr h)
  intro other hother
  exact hagree other (List.mem_reverse.mp hother)

/-- All files are there exactly if no two with one path differ. -/
theorem forall_get?_fileTable_iff :
    (∀ file ∈ writtenFiles config dependencies draft,
        Fields.get? (fileTable config dependencies draft) file.1 = some file.2) ↔
      ∀ file ∈ writtenFiles config dependencies draft,
        ∀ other ∈ writtenFiles config dependencies draft, file.1 = other.1 → file.2 = other.2 := by
  simp only [get?_fileTable]
  have hiff := @Fields.forall_get?_iff String (writtenFiles config dependencies draft).reverse
  simpa using hiff

/-! ## Paths -/

/-- Whether a path has the ending of a module. -/
def IsModulePath (path : String) : Prop := ".jsx".toList <:+ path.toList

instance (path : String) : Decidable (IsModulePath path) :=
  inferInstanceAs (Decidable (".jsx".toList <:+ path.toList))

theorem isModulePath_append (stem : String) : IsModulePath (stem ++ ".jsx") := by
  rw [IsModulePath, String.toList_append]
  exact List.suffix_append _ _

theorem isModulePath_ofComponent (component : Component) :
    IsModulePath (ComponentModule.ofComponent scope directory component).path := by
  cases component with
  | generated entry => exact isModulePath_append _
  | ready entry => exact isModulePath_append _

/-- The files that are no modules. -/
def plainFiles (config : Config) (dependencies : Fields String) : Fields String :=
  [("index.html", indexPage config.project.name), ("vite.config.js", viteConfig),
   ("tailwind.config.js", tailwindConfig), ("postcss.config.js", postcssConfig),
   (".gitignore", ignoredFiles), ("src/index.css", styleSheet),
   (manifestPath, manifestText config dependencies)]

theorem nodup_keys_plainFiles : (Fields.keys (plainFiles config dependencies)).Nodup := by
  show ["index.html", "vite.config.js", "tailwind.config.js", "postcss.config.js", ".gitignore",
    "src/index.css", "package.json"].Nodup
  decide

/-- A file without the ending of a module is one of the plain files. -/
theorem mem_plainFiles (hmodules : ∀ m ∈ draft.modules, IsModulePath m.path)
    {file : String × String} (h : file ∈ writtenFiles config dependencies draft)
    (hplain : ¬ IsModulePath file.1) : file ∈ plainFiles config dependencies := by
  rw [writtenFiles, List.mem_append, List.mem_append] at h
  -- a file of the scaffold, the manifest or the entry point, or a module
  rcases h with (h | h) | h
  · simp only [scaffold, List.mem_cons, List.not_mem_nil, or_false] at h
    rcases h with rfl | rfl | rfl | rfl | rfl | rfl | rfl | rfl
    -- of the scaffold two files are modules themselves
    case inr.inr.inr.inr.inr.inl => exact absurd (isModulePath_append "src/main") hplain
    case inr.inr.inr.inr.inr.inr.inr => exact absurd (isModulePath_append _) hplain
    all_goals simp [plainFiles]
  · simp only [List.mem_cons, List.not_mem_nil, or_false] at h
    rcases h with rfl | rfl
    · simp [plainFiles]
    · exact absurd (isModulePath_append "src/App") hplain
  · obtain ⟨m, hm, rfl⟩ := List.mem_map.mp h
    exact absurd (hmodules m hm) hplain

/-- A file without the ending of a module is never lost. -/
theorem get?_fileTable_of_plain (hmodules : ∀ m ∈ draft.modules, IsModulePath m.path)
    {file : String × String} (h : file ∈ writtenFiles config dependencies draft)
    (hplain : ¬ IsModulePath file.1) :
    Fields.get? (fileTable config dependencies draft) file.1 = some file.2 := by
  apply get?_fileTable_of_agree h
  intro other hother hpath
  -- both are plain files, the paths of which are distinct
  have hfile := Fields.get?_of_mem nodup_keys_plainFiles (mem_plainFiles hmodules h hplain)
  have hother := mem_plainFiles hmodules hother (hpath ▸ hplain)
  have hother := Fields.get?_of_mem nodup_keys_plainFiles hother
  rw [hpath, hfile] at hother
  exact (Option.some.inj hother).symm

/-- Generated components of distinct types have distinct paths. -/
theorem typeId_eq_of_path_eq {entry other : Registered}
    (h : (ComponentModule.ofGenerated entry scope directory).path =
      (ComponentModule.ofGenerated other scope directory).path) : entry.typeId = other.typeId := by
  have hpath : trimSlashesEnd directory ++ "/" ++ entry.typeId ++ ".jsx" =
    trimSlashesEnd directory ++ "/" ++ other.typeId ++ ".jsx" := h
  rw [← String.toList_inj] at hpath ⊢
  simpa using hpath

/-! ## What is lost -/

/-- The components that are exported have a module each, and no other modules are written.  The file
under a path is the last one that is written there: nothing is lost exactly if no two files with one
path differ.  Files without the ending of a module are never lost, and where the modules of two
components meet, one of them is of the catalog. -/
theorem files_last_written {version : String} {entries : List Catalog.Entry}
    (hcatalog : Catalog.ofEntries version entries = .ok catalog)
    {submissions : List Registry.Submission}
    (hregistry : (Registry.run ⟨scope, []⟩ submissions).1 = registry) {document : Document}
    {project : Project} (h : synthesize document catalog registry config = .ok project) :
    ∃ draft, Draft.ofInstances catalog registry config.project.generatedDir {}
        document.instances = .ok draft ∧
      let components := exportedComponents catalog registry document.instances
      let moduleOf := ComponentModule.ofComponent registry.scope config.project.generatedDir
      let files := writtenFiles config project.dependencies draft
      (∀ component ∈ components, moduleOf component ∈ draft.modules) ∧
      (∀ m ∈ draft.modules, ∃ component ∈ components, m = moduleOf component) ∧
      (draft.modules.map (·.typeId)).Nodup ∧
      (∀ path, Fields.get? project.files path = Fields.get? files.reverse path) ∧
      ((∀ file ∈ files, Fields.get? project.files file.1 = some file.2) ↔
        ∀ file ∈ files, ∀ other ∈ files, file.1 = other.1 → file.2 = other.2) ∧
      (∀ file ∈ files, ¬ IsModulePath file.1 →
        Fields.get? project.files file.1 = some file.2) ∧
      ∀ component ∈ components, ∀ other ∈ components,
        (moduleOf component).path = (moduleOf other).path →
          component = other ∨ (∃ entry, component = .ready entry) ∨
            ∃ entry, other = .ready entry := by
  -- registry and catalog are reached by their operations, so keys and types agree in them
  have hkeyed : registry.Keyed := hregistry ▸ Registry.keyed_run scope submissions
  have hvalid := Catalog.valid_of_ofEntries hcatalog
  obtain ⟨draft, hdraft, hgathers, hfiles⟩ := exists_draft_of_synthesize h
  -- modules are written last, and only to paths of modules, so all other files are safe from them
  have hmodules : ∀ m ∈ draft.modules, IsModulePath m.path := by
    intro m hm
    obtain ⟨component, -, rfl⟩ := hgathers.origin m hm
    exact isModulePath_ofComponent component
  refine ⟨draft, hdraft, ?_⟩
  rw [hfiles]
  refine ⟨fun component => hgathers.mem_modules hkeyed hvalid, hgathers.origin, hgathers.nodup,
    get?_fileTable, forall_get?_fileTable_iff, fun file => get?_fileTable_of_plain hmodules, ?_⟩
  -- two components with one path: unless one is of the catalog, their types are equal
  intro component hcomponent other hother hpath
  cases component with
  | ready entry => exact .inr (.inl ⟨entry, rfl⟩)
  | generated entry =>
    cases other with
    | ready entry' => exact .inr (.inr ⟨entry', rfl⟩)
    | generated entry' =>
      have htype : entry.typeId = entry'.typeId := typeId_eq_of_path_eq hpath
      exact .inl (eq_of_mem_exportedComponents hkeyed hvalid hcomponent hother htype)

/-- What is read off the draft and the project of an export. -/
def readExport {α : Type} (document : Document) (catalog : Catalog) (registry : Registry)
    (config : Config) (read : Draft → Project → α) : Except Unit α := do
  let draft ← (Draft.ofInstances catalog registry config.project.generatedDir {}
    document.instances).mapError fun _ => ()
  let project ← (synthesize document catalog registry config).mapError fun _ => ()
  return read draft project

/-- What was read of an export tells that the export succeeded. -/
theorem exists_of_readExport {α : Type} {document : Document} {read : Draft → Project → α}
    {result : α} (h : readExport document catalog registry config read = .ok result) :
    ∃ draft project, Draft.ofInstances catalog registry config.project.generatedDir {}
        document.instances = .ok draft ∧
      synthesize document catalog registry config = .ok project ∧ read draft project = result := by
  obtain ⟨draft, hdraft, h⟩ := bind_eq_ok.mp h
  obtain ⟨project, hproject, h⟩ := bind_eq_ok.mp h
  rw [mapError_eq_ok] at hdraft hproject
  exact ⟨draft, project, hdraft, hproject, pure_eq_ok.mp h⟩

/-- A definition of a component that says hello. -/
def greetingCard (typeId : String) : Definition where
  typeId := typeId
  category := .content
  defaultProperties := []
  source := "function " ++ typeId ++ "() \x7b return <p>Hello</p>; \x7d"

/-- A document with one instance of a type. -/
def placedOnce (typeId : String) : Document :=
  ((({} : Document).add ⟨typeId, .content, [], ⟨0, 0⟩⟩)).1

/-- The registry to which one such component was submitted. -/
def greeted (typeId : String) : Registry :=
  (Registry.run ⟨Scope.ofConfig {}, []⟩ [.single (greetingCard typeId)]).1

/-- Of an export of a card nothing is lost. -/
theorem files_last_written_of_card :
    ∃ project draft, Catalog.ofEntries "" [] = .ok Catalog.empty ∧
      synthesize (placedOnce "Card") Catalog.empty (greeted "Card") {} = .ok project ∧
      Draft.ofInstances Catalog.empty (greeted "Card") "src/components/generated" {}
        (placedOnce "Card").instances = .ok draft ∧
      ∀ file ∈ writtenFiles {} project.dependencies draft,
        Fields.get? project.files file.1 = some file.2 := by
  have hrun : readExport (placedOnce "Card") Catalog.empty (greeted "Card") {}
      (fun draft project =>
        decide (Fields.keys (writtenFiles {} project.dependencies draft)).Nodup) =
      .ok true := by decide +kernel
  obtain ⟨draft, project, hdraft, hproject, hdistinct⟩ := exists_of_readExport hrun
  have hnodup := of_decide_eq_true hdistinct
  have hcatalog : Catalog.ofEntries "" [] = .ok Catalog.empty := rfl
  refine ⟨project, draft, hcatalog, hproject, hdraft, ?_⟩
  obtain ⟨draft', hdraft', -, -, -, -, hkept, -⟩ := files_last_written hcatalog rfl hproject
  obtain rfl : draft = draft' := Except.ok.inj (hdraft.symm.trans hdraft')
  -- no two files have the same path, so no file is lost
  refine hkept.mpr fun file hfile other hother hpath => ?_
  have hread := Fields.get?_of_mem hnodup hfile
  rw [hpath, Fields.get?_of_mem hnodup hother] at hread
  exact (Option.some.inj hread).symm

/-- Where generated components lie in the source directory, one of the type of the entry point
stands in its place. -/
theorem entry_point_lost :
    ∃ project draft, synthesize (placedOnce "App") Catalog.empty (greeted "App")
        { project := { generatedDir := "src" } } = .ok project ∧
      Draft.ofInstances Catalog.empty (greeted "App") "src" {} (placedOnce "App").instances =
        .ok draft ∧
      Fields.get? project.files entryPath ≠ some (entryText draft.modules draft.markup) := by
  have hrun : readExport (placedOnce "App") Catalog.empty (greeted "App")
      { project := { generatedDir := "src" } } (fun draft project =>
        decide (Fields.get? project.files entryPath =
          some (entryText draft.modules draft.markup))) = .ok false := by decide +kernel
  obtain ⟨draft, project, hdraft, hproject, hentry⟩ := exists_of_readExport hrun
  exact ⟨project, draft, hproject, hdraft, of_decide_eq_false hentry⟩

end ComponentCanvas.Project
