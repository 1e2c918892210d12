import ComponentCanvas.Proofs.Project.Files
import ComponentCanvas.Proofs.Text.Pieces

/-!
# Imports of the Entry Point

The entry point imports every gathered module once, under the path of its file below the source
directory.  The import leads to the file exactly if the path of the file opens with that directory
as it is written: so it does for every component of the catalog, and for generated components if
their directory is given as one below the source directory, with nothing in front of it.
-/

namespace ComponentCanvas.Project

/-! ## Names of a path -/

/-- The names of a path that lead somewhere, those that lead upwards included. -/
def properNames (path : String) : List String := (pathSegments path).filter (!isIdle ·)

/-- The names of the file that a module of the source directory imports under a path. -/
def importedNames (specifier : String) : List String := properNames ("src/" ++ specifier ++ ".jsx")

theorem pathSegments_append (path rest : String) :
    pathSegments (path ++ "/" ++ rest) = pathSegments path ++ pathSegments rest := by
  have hslash : (path ++ "/" ++ rest).toList = path.toList ++ '/' :: rest.toList := by simp
  rw [pathSegments, hslash, Text.splitBy_append_cons (p := (· == '/')) rfl, List.map_append]
  rfl

/-- A name is a path of its own. -/
theorem pathSegments_of_notMem {name : String} (h : '/' ∉ name.toList) :
    pathSegments name = [name] := by
  have hsingle := Text.splitBy_eq_singleton (p := (· == '/')) (s := name.toList)
    fun c hc => beq_eq_false_iff_ne.mpr fun heq => h (heq ▸ hc)
  rw [pathSegments, hsingle, List.map_singleton, String.ofList_toList]

theorem properNames_append (path rest : String) :
    properNames (path ++ "/" ++ rest) = properNames path ++ properNames rest := by
  rw [properNames, pathSegments_append, List.filter_append]
  rfl

/-- Below the source directory a path leads where it says. -/
theorem properNames_source (rest : String) :
    properNames ("src/" ++ rest) = "src" :: properNames rest := by
  have hsrc : properNames "src" = ["src"] := by decide
  rw [show "src/" ++ rest = "src" ++ "/" ++ rest from rfl, properNames_append, hsrc]
  rfl

theorem importedNames_relative (rest : String) :
    importedNames ("./" ++ rest) = "src" :: properNames (rest ++ ".jsx") := by
  have hhere : properNames "." = [] := by decide
  have hsplit :
      "src/" ++ ("./" ++ rest) ++ ".jsx" = "src/" ++ ("." ++ "/" ++ (rest ++ ".jsx")) := by
    simp only [← String.append_assoc]
    rfl
  rw [importedNames, hsplit, properNames_source, properNames_append, hhere, List.nil_append]

/-! ## Starts and ends -/

theorem withoutEnd_append (ending stem : String) : withoutEnd ending (stem ++ ending) = stem := by
  rw [withoutEnd, if_pos (by simp)]
  simp

theorem withoutStart_append (start rest : String) : withoutStart start (start ++ rest) = rest := by
  rw [withoutStart, if_pos (by simp)]
  simp

theorem withoutStart_eq_self {start text : String}
    (h : ¬ start.toList <+: text.toList) : withoutStart start text = text := by
  rw [withoutStart, if_neg (by simpa using h)]

/-- Whether a path opens with the source directory as it is written. -/
def LiesInSource (path : String) : Prop := "src/".toList <+: path.toList

theorem liesInSource_append (rest : String) : LiesInSource ("src/" ++ rest) := by
  rw [LiesInSource, String.toList_append]
  exact List.prefix_append _ _

theorem LiesInSource.exists_eq {path : String} (h : LiesInSource path) :
    ∃ rest, path = "src/" ++ rest := by
  obtain ⟨rest, hrest⟩ := h
  refine ⟨String.ofList rest, ?_⟩
  rw [← String.toList_inj, String.toList_append, ← hrest]
  simp

/-- A directory lies in the source directory if what is in it does. -/
theorem liesInSource_directory {directory name : String} :
    LiesInSource (directory ++ "/" ++ name) ↔ LiesInSource (directory ++ "/") := by
  constructor
  · intro h
    -- the start is the whole directory, or it ends within it
    have hsplit : directory.toList ++ ['/'] <+: (directory ++ "/" ++ name).toList := by
      simp
    rcases List.prefix_or_prefix_of_prefix h hsplit with hprefix | hprefix
    · simpa [LiesInSource] using hprefix
    · -- of the starts of the source directory only the whole ends with a slash
      have hmem : directory.toList ++ ['/'] ∈ "src/".toList.inits :=
        (List.mem_inits _ _).mpr hprefix
      have hinits : "src/".toList.inits = [[], ['s'], ['s', 'r'], ['s', 'r', 'c'],
        ['s', 'r', 'c', '/']] := by decide
      have hlast : (directory.toList ++ ['/']).getLast? = some '/' := by simp
      rw [hinits] at hmem
      simp only [List.mem_cons, List.not_mem_nil, or_false] at hmem
      rcases hmem with heq | heq | heq | heq | heq
      -- the directory is the source directory itself
      case inr.inr.inr.inr =>
        rw [LiesInSource, String.toList_append, show "/".toList = ['/'] from rfl, heq]
        exact List.prefix_refl _
      all_goals
        rw [heq] at hlast
        simp at hlast
  · intro h
    obtain ⟨rest, hrest⟩ := h.exists_eq
    rw [hrest, String.append_assoc]
    exact liesInSource_append _

/-! ## The imports -/

/-- The import of a module leads to its file exactly if the path of the file opens with the source
directory. -/
theorem importedNames_eq_iff (stem : String) :
    importedNames (entryImport (stem ++ ".jsx")) = properNames (stem ++ ".jsx") ↔
      LiesInSource stem := by
  rw [entryImport, withoutEnd_append]
  constructor
  · intro h
    by_contra hout
    -- the import leads through one more name than the path has
    rw [withoutStart_eq_self hout, importedNames_relative] at h
    exact absurd (congrArg List.length h) (by simp)
  · intro h
    obtain ⟨rest, rfl⟩ := h.exists_eq
    rw [withoutStart_append, importedNames_relative, String.append_assoc, properNames_source]

/-- The import of the module of a component leads to its file exactly if the component is of the
catalog or the directory of generated components opens with the source directory. -/
theorem importedNames_ofComponent_iff (scope : Scope) (directory : String)
    (component : Component) :
    importedNames (entryImport (ComponentModule.ofComponent scope directory component).path) =
        properNames (ComponentModule.ofComponent scope directory component).path ↔
      (∃ entry, component = .ready entry) ∨ LiesInSource (trimSlashesEnd directory ++ "/") := by
  cases component with
  | ready entry =>
    -- a component of the catalog is always written below the source directory
    refine iff_of_true ?_ (.inl ⟨entry, rfl⟩)
    exact (importedNames_eq_iff _).mpr (liesInSource_append (trimSlashes entry.sourceImportPath))
  | generated entry =>
    have hiff : importedNames (entryImport (trimSlashesEnd directory ++ "/" ++ entry.typeId ++
          ".jsx")) = properNames (trimSlashesEnd directory ++ "/" ++ entry.typeId ++ ".jsx") ↔
        LiesInSource (trimSlashesEnd directory ++ "/") :=
      (importedNames_eq_iff _).trans liesInSource_directory
    exact hiff.trans (or_iff_right nofun).symm

variable {catalog : Catalog} {registry : Registry} {scope : Scope} {config : Config}

/-- The entry point opens with the imports of the gathered modules.  The tag of every line of markup
is imported once, from the module of its component; the import leads to the file of the module
exactly if the component is of the catalog or the directory of generated components opens with the
source directory, and the file holds the module unless another one is written in its place. -/
theorem entry_imports_resolve {version : String} {entries : List Catalog.Entry}
    (hcatalog : Catalog.ofEntries version entries = .ok catalog)
    {submissions : List Registry.Submission}
    (hregistry : (Registry.run ⟨scope, []⟩ submissions).1 = registry) {document : Document}
    {project : Project} (h : synthesize document catalog registry config = .ok project) :
    ∃ draft, Draft.ofInstances catalog registry config.project.generatedDir {}
        document.instances = .ok draft ∧
      let components := exportedComponents catalog registry document.instances
      let moduleOf := ComponentModule.ofComponent registry.scope config.project.generatedDir
      let files := writtenFiles config project.dependencies draft
      (∃ body, entryText draft.modules draft.markup =
        String.join (draft.modules.map fun m => importText m.typeId (entryImport m.path)) ++
          body) ∧
      List.Forall₂
        (fun component line =>
          ∃ properties, Property.markup component.typeId properties = .ok line)
        components draft.markup ∧
      (∀ component ∈ components, moduleOf component ∈ draft.modules ∧
        (draft.modules.map (·.typeId)).count component.typeId = 1) ∧
      (∀ component ∈ components,
        (importedNames (entryImport (moduleOf component).path) =
            properNames (moduleOf component).path ↔
          (∃ entry, component = .ready entry) ∨
            LiesInSource (trimSlashesEnd config.project.generatedDir ++ "/"))) ∧
      ∀ file ∈ files, (∀ other ∈ files, other.1 = file.1 → other.2 = file.2) →
        Fields.get? project.files file.1 = some file.2 := by
  have hkeyed : registry.Keyed := hregistry ▸ Registry.keyed_run scope submissions
  have hvalid := Catalog.valid_of_ofEntries hcatalog
  obtain ⟨draft, hdraft, hgathers, hfiles⟩ := exists_draft_of_synthesize h
  refine ⟨draft, hdraft, ?imports, hgathers.markup, ?modules, ?leads, ?held⟩
  case imports =>
    simp only [entryText, String.append_assoc]
    exact ⟨_, rfl⟩
  -- each component has its module, which is imported once, under its type
  case modules =>
    intro component hcomponent
    have hmem := hgathers.mem_modules hkeyed hvalid hcomponent
    have htype : component.typeId ∈ draft.modules.map (·.typeId) := hgathers.covers _ hcomponent
    exact ⟨hmem, List.count_eq_one_of_mem hgathers.nodup htype⟩
  case leads =>
    exact fun component _ => importedNames_ofComponent_iff _ _ component
  -- a file whose path no other file has is in the export as it was written
  case held =>
    rw [hfiles]
    exact fun file => get?_fileTable_of_agree

/-- The import of a card leads to its file. -/
theorem entry_imports_resolve_of_card :
    ∃ project draft component, Catalog.ofEntries "" [] = .ok Catalog.empty ∧
      synthesize (placedOnce "Card") Catalog.empty (greeted "Card") {} = .ok project ∧
      Draft.ofInstances Catalog.empty (greeted "Card") "src/components/generated" {}
        (placedOnce "Card").instances = .ok draft ∧
      component ∈ exportedComponents Catalog.empty (greeted "Card")
        (placedOnce "Card").instances ∧
      let m := ComponentModule.ofComponent (greeted "Card").scope "src/components/generated"
        component
      m ∈ draft.modules ∧ importedNames (entryImport m.path) = properNames m.path := by
  have hrun : readExport (placedOnce "Card") Catalog.empty (greeted "Card") {}
      (fun _ _ => (exportedComponents Catalog.empty (greeted "Card")
        (placedOnce "Card").instances).map Component.typeId) = .ok ["Card"] := by decide +kernel
  obtain ⟨_, project, -, hproject, htypes⟩ := exists_of_readExport hrun
  have hcatalog : Catalog.ofEntries "" [] = .ok Catalog.empty := rfl
  obtain ⟨component, hcomponents, -⟩ := List.map_eq_singleton_iff.mp htypes
  obtain ⟨draft, hdraft, -, -, hmodules, hleads, -⟩ :=
    entry_imports_resolve hcatalog rfl hproject
  have hmem : component ∈ exportedComponents Catalog.empty (greeted "Card")
      (placedOnce "Card").instances := hcomponents ▸ List.mem_singleton_self component
  -- the default directory for generated types lies in the source directory
  have hsource : LiesInSource (trimSlashesEnd "src/components/generated" ++ "/") := by
    rw [LiesInSource]
    decide
  exact ⟨project, draft, component, hcatalog, hproject, hdraft, hmem, (hmodules _ hmem).1,
    (hleads _ hmem).mpr (.inr hsource)⟩

/-- Where the directory of generated components is given from the root on, the import of a card
leads to no file. -/
theorem entry_import_dangles :
    ∃ project draft m, synthesize (placedOnce "Card") Catalog.empty (greeted "Card")
        { project := { generatedDir := "./src/components/generated" } } = .ok project ∧
      Draft.ofInstances Catalog.empty (greeted "Card") "./src/components/generated" {}
        (placedOnce "Card").instances = .ok draft ∧
      m ∈ draft.modules ∧ ∀ path ∈ Fields.keys project.files,
        properNames path ≠ importedNames (entryImport m.path) := by
  have hrun : readExport (placedOnce "Card") Catalog.empty (greeted "Card")
      { project := { generatedDir := "./src/components/generated" } } (fun draft project =>
        draft.modules.map fun m => (Fields.keys project.files).all fun path =>
          properNames path != importedNames (entryImport m.path)) = .ok [true] := by
    decide +kernel
  obtain ⟨draft, project, hdraft, hproject, hdangles⟩ := exists_of_readExport hrun
  obtain ⟨m, hmodules, hnone⟩ := List.map_eq_singleton_iff.mp hdangles
  refine ⟨project, draft, m, hproject, hdraft, hmodules ▸ List.mem_singleton_self m, ?_⟩
  -- the specifier leads to none of the files that were written
  intro path hpath
  simpa using List.all_eq_true.mp hnone path hpath

end ComponentCanvas.Project
