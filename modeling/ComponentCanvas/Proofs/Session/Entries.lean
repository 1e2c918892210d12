import ComponentCanvas.Proofs.Session.Precedence

/-!
# Entries under Their Own Names

An entry of the catalog is found under its identifier and under its type, as long as these are left
to it: an identifier goes before a type, so an entry whose type is the identifier of another one is
hidden.  If it is not, and nothing is generated in its place, then its instances are rendered and
exported as what it is.
-/

namespace ComponentCanvas

namespace Catalog

/-- The names under which an entry is found. -/
structure FoundByNames (catalog : Catalog) (entry : Entry) : Prop where
  /-- Its identifier, unless it begins or ends with white space, which a name is stripped of. -/
  id : catalog.LeavesName entry.id entry → Text.trimmed entry.id = entry.id →
    catalog.resolve? entry.id = some entry
  typeId : catalog.LeavesName entry.typeId entry → catalog.resolve? entry.typeId = some entry
  /-- Its type only if no other entry has it as identifier. -/
  hidden : catalog.LeavesName entry.id entry → catalog.resolve? entry.typeId = some entry →
    catalog.LeavesName entry.typeId entry
  /-- All names of an entry with an identifier of its own. -/
  names : catalog.LeavesName entry.id entry → ∀ name, catalog.resolve? name = some entry ↔
    entry.id = Text.trimmed name ∨
      (∀ other ∈ catalog.entries, other.id ≠ Text.trimmed name) ∧
        entry.typeId = TypeId.canonical (Text.trimmed name)

theorem Valid.foundByNames {catalog : Catalog} (h : catalog.Valid) {entry : Entry}
    (hentry : entry ∈ catalog.entries) : catalog.FoundByNames entry where
  id hid htrim := (h.resolve?_eq_some hentry hid entry.id).mpr (.inl htrim.symm)
  typeId := h.resolve?_typeId hentry
  hidden hid hresolve other hother hname := by
    rw [h.resolve?_eq_some hentry hid,
      TypeId.trimmed_of_canonical (h.canonical entry hentry)] at hresolve
    rcases hresolve with hown | ⟨hnone, -⟩
    · exact hid other hother (hname.trans hown.symm)
    · exact absurd hname (hnone other hother)
  names := h.resolve?_eq_some hentry

end Catalog

namespace Session

variable {session : Session} {entry : Catalog.Entry}

/-- What is done with the instances of an entry. -/
structure UsesEntry (session : Session) (entry : Catalog.Entry) : Prop where
  resolved : session.resolve? entry.typeId = some (.ready entry)
  /-- Placing a name of the entry, unless something is generated as that, makes such an instance. -/
  placed : ∀ name properties position, session.catalog.resolve? name = some entry →
    session.registry.contains name = false →
    session.place name properties position =
      .ok (session.add (instanceOf (.ready entry) none (properties.getD [])
        (position.getD session.nextPosition)))
  /-- An instance of it is rendered as one element in its place. -/
  rendered : ∀ id placed limits, session.document.get? id = some placed →
    placed.typeId = entry.typeId →
    session.render id limits =
      .ok [.element entry.typeId .catalog (Blueprint.Value.fieldsOfJson placed.properties) []]
  exported : entry.isExportable = true → ∀ project, session.synthesize = .ok project →
    session.ExportsComponent (.ready entry) project
  /-- Without a template each instance of it is reported. -/
  reported : entry.isExportable = false → ∀ project, session.synthesize = .ok project →
    ∀ id placed, (id, placed) ∈ session.document.instances → placed.typeId = entry.typeId →
      ⟨id, entry.typeId, .noTemplate⟩ ∈ project.skipped

/-- A name of an entry stands for it, unless something is generated as that name or in its place. -/
theorem resolve?_of_not_contains {name : String}
    (hname : session.catalog.resolve? name = some entry)
    (hcontains : session.registry.contains name = false)
    (hentry : session.registry.contains entry.typeId = false) :
    session.resolve? name = some (.ready entry) := by
  rw [Registry.contains, Option.isSome_eq_false_iff, Option.isNone_iff_eq_none] at hcontains hentry
  simp [Session.resolve?, Registry.resolve?, hcontains, hname, hentry]

theorem Sound.usesEntry (h : session.Sound)
    (hname : session.catalog.resolve? entry.typeId = some entry)
    (hentry : session.registry.contains entry.typeId = false) : session.UsesEntry entry := by
  -- no registered type is in front of the entry, so it is what its type resolves to
  have hresolve := resolve?_of_not_contains hname hentry hentry
  exact {
    resolved := hresolve
    placed := fun name properties position hname hcontains =>
      place_of_resolve? (resolve?_of_not_contains hname hcontains hentry) properties position
    rendered := fun id placed limits hget htype => by
      simp only [render, hget, htype, hresolve]
    exported := fun hmodule project hproject => h.exportsComponent hresolve hmodule hproject
    reported := fun hmodule project hproject id placed hmem htype => by
      rw [← htype] at hresolve ⊢
      exact mem_skipped_of_noTemplate hmodule hmem hresolve hproject }

/-- An entry of an accepted catalog is found under its own names, as long as they are left to it.
If its type is, then in every session that was reached, as long as nothing is generated under that
type, its instances are rendered and exported as what it is. -/
theorem entry_found_by_names {version : String} {entries : List Catalog.Entry} {catalog : Catalog}
    (hcatalog : Catalog.ofEntries version entries = .ok catalog) {entry : Catalog.Entry}
    (hentry : entry ∈ catalog.entries) :
    catalog.FoundByNames entry ∧
      (catalog.LeavesName entry.typeId entry → ∀ (config : Config) (actions : List Action),
        let session := (start catalog config).run actions
        session.registry.contains entry.typeId = false → session.UsesEntry entry) := by
  have hvalid := Catalog.valid_of_ofEntries hcatalog
  refine ⟨hvalid.foundByNames hentry, fun htype config actions => ?_⟩
  intro session hcontains
  have hstart : (start catalog config).Sound := (resolved_start hvalid config).toSound
  have hkept : session.catalog = catalog := (hstart.keeps_run actions).catalog
  have hname : session.catalog.resolve? entry.typeId = some entry := by
    rw [hkept]
    exact hvalid.resolve?_typeId hentry htype
  exact (hstart.run actions).usesEntry hname hcontains

/-- The entry of the navigation is placed under its identifier and shown as what it is. -/
theorem entry_found_by_names_of_navigation :
    let catalog : Catalog := ⟨"1", [navigationEntry]⟩
    let session := (start catalog {}).run [.place "nav" none none]
    Catalog.ofEntries "1" [navigationEntry] = .ok catalog ∧ navigationEntry ∈ catalog.entries ∧
      catalog.FoundByNames navigationEntry ∧ session.UsesEntry navigationEntry ∧
      session.render ⟨1⟩ = .ok [.element "Navbar" .catalog [] []] := by
  intro catalog session
  have hcatalog : Catalog.ofEntries "1" [navigationEntry] = .ok catalog :=
    Catalog.ofEntries_eq_ok.mpr ⟨by decide +kernel, rfl⟩
  have hentry : navigationEntry ∈ catalog.entries := List.mem_singleton.mpr rfl
  have hleaves : ∀ name, catalog.LeavesName name navigationEntry :=
    fun _ other hother _ => List.mem_singleton.mp hother
  obtain ⟨hfound, huses⟩ := entry_found_by_names hcatalog hentry
  have hname : catalog.resolve? "nav" = some navigationEntry :=
    (hfound.names (hleaves _) "nav").mpr (.inl (by decide +kernel))
  have hfirst : (start catalog {}).UsesEntry navigationEntry :=
    huses (hleaves _) {} [] (by decide +kernel)
  have hused : session.UsesEntry navigationEntry := huses (hleaves _) {} _ (by decide +kernel)
  -- the instance that is placed is the only one
  have hsession : session = ((start catalog {}).add
      (instanceOf (.ready navigationEntry) none [] (start catalog {}).nextPosition)).1 := by
    have hplace := hfirst.placed "nav" none none hname (by decide +kernel)
    simp only [session, run, List.foldl_cons, List.foldl_nil, act, hplace]
    rfl
  have hget : session.document.get? ⟨1⟩ = some (instanceOf (.ready navigationEntry) none []
      (start catalog {}).nextPosition) := by
    rw [hsession]
    rfl
  exact ⟨hcatalog, hentry, hfound, hused, hused.rendered ⟨1⟩ _ {} hget rfl⟩

/-- An entry of which the identifier is the type of the navigation. -/
def bannerEntry : Catalog.Entry := { navigationEntry with id := "Navbar", typeId := "Banner" }

/-- It hides the navigation, of which the instances are placed but stand for the banner.  Of two
entries with one identifier the first is not found under it, and neither is one with white space
around its identifier. -/
theorem entry_hidden :
    let catalog : Catalog := ⟨"1", [bannerEntry, navigationEntry]⟩
    let session := (start catalog {}).run [.place "nav" none none]
    let twins : Catalog := ⟨"1", [navigationEntry, { navigationEntry with typeId := "NavMenu" }]⟩
    let spaced : Catalog := ⟨"1", [{ navigationEntry with id := " nav " }]⟩
    Catalog.ofEntries "1" catalog.entries = .ok catalog ∧ navigationEntry ∈ catalog.entries ∧
      (catalog.resolve? navigationEntry.typeId).map (·.typeId) = some "Banner" ∧
      session.document.instances.map (·.2.typeId) = ["Navbar"] ∧
      (session.resolve? "Navbar").map (·.typeId) = some "Banner" ∧
      Catalog.ofEntries "1" twins.entries = .ok twins ∧
      (twins.resolve? navigationEntry.id).map (·.typeId) = some "NavMenu" ∧
      Catalog.ofEntries "1" spaced.entries = .ok spaced ∧
      (spaced.resolve? " nav ").map (·.typeId) = none := by
  intro catalog session twins spaced
  have hcatalog : Catalog.ofEntries "1" catalog.entries = .ok catalog :=
    Catalog.ofEntries_eq_ok.mpr ⟨by decide +kernel, rfl⟩
  have htwins : Catalog.ofEntries "1" twins.entries = .ok twins :=
    Catalog.ofEntries_eq_ok.mpr ⟨by decide +kernel, rfl⟩
  have hspaced : Catalog.ofEntries "1" spaced.entries = .ok spaced :=
    Catalog.ofEntries_eq_ok.mpr ⟨by decide +kernel, rfl⟩
  refine ⟨hcatalog, List.mem_cons_of_mem _ (List.mem_cons_self ..), ?_, ?_, ?_, htwins, ?_,
    hspaced, ?_⟩ <;> decide +kernel

end Session

end ComponentCanvas
