import ComponentCanvas.Catalog.Basic
import ComponentCanvas.Proofs.TypeId

/-!
# Accepted Catalogs

A catalog that is accepted lists canonical types, each of them once, and the type of an entry is a
name for an entry.
-/

namespace ComponentCanvas.Catalog

/-- What is asked of the entries of a catalog. -/
structure Valid (catalog : Catalog) : Prop where
  nonempty : ∀ entry ∈ catalog.entries, entry.typeId ≠ ""
  canonical : ∀ entry ∈ catalog.entries, TypeId.canonical entry.typeId = entry.typeId
  nodup : (catalog.entries.map (·.typeId)).Nodup

/-- Entries are without a fault exactly if their types are named, canonical, and distinct from each
other and from those that were seen before. -/
theorem fault?_eq_none {seen : List String} {entries : List Entry} :
    fault? seen entries = none ↔
      (∀ entry ∈ entries, entry.typeId ≠ "" ∧ TypeId.canonical entry.typeId = entry.typeId ∧
        entry.typeId ∉ seen) ∧ (entries.map (·.typeId)).Nodup := by
  -- the types seen so far go along, so the types of the rest differ from all of them
  induction entries generalizing seen with
  | nil => simp [fault?]
  | cons entry rest ih =>
    rw [fault?, List.forall_mem_cons, List.map_cons, List.nodup_cons]
    by_cases hnonempty : entry.typeId = ""
    · simp [hnonempty]
    rw [if_neg (by simpa using hnonempty)]
    by_cases hcanonical : TypeId.canonical entry.typeId = entry.typeId
    · rw [if_neg (by simp [hcanonical])]
      by_cases hseen : entry.typeId ∈ seen
      · simp [hseen]
      rw [if_neg (by simpa using hseen), ih]
      constructor
      · rintro ⟨hrest, hnodup⟩
        refine ⟨⟨⟨hnonempty, hcanonical, hseen⟩, fun other hother => ?_⟩, fun hmem => ?_, hnodup⟩
        · obtain ⟨hname, hform, hnew⟩ := hrest other hother
          exact ⟨hname, hform, fun h => hnew (List.mem_cons_of_mem _ h)⟩
        · obtain ⟨other, hother, htype⟩ := List.mem_map.mp hmem
          exact (hrest other hother).2.2 (by simp [htype])
      · rintro ⟨⟨-, hrest⟩, hnotMem, hnodup⟩
        refine ⟨fun other hother => ?_, hnodup⟩
        obtain ⟨hname, hform, hnew⟩ := hrest other hother
        refine ⟨hname, hform, fun h => ?_⟩
        rcases List.mem_cons.mp h with htype | h
        · exact hnotMem (htype ▸ List.mem_map_of_mem hother)
        · exact hnew h
    · rw [if_pos (by simpa using Ne.symm hcanonical)]
      simp [hcanonical]

theorem ofEntries_eq_ok {version : String} {entries : List Entry} {catalog : Catalog} :
    ofEntries version entries = .ok catalog ↔
      fault? [] entries = none ∧ catalog = ⟨version, entries⟩ := by
  rw [ofEntries]
  cases fault? [] entries with
  | some e => exact ⟨nofun, nofun⟩
  | none => simp [eq_comm]

/-- An accepted catalog is valid. -/
theorem valid_of_ofEntries {version : String} {entries : List Entry} {catalog : Catalog}
    (h : ofEntries version entries = .ok catalog) : catalog.Valid := by
  obtain ⟨hfault, rfl⟩ := ofEntries_eq_ok.mp h
  obtain ⟨hentries, hnodup⟩ := fault?_eq_none.mp hfault
  exact {
    nonempty := fun entry hentry => (hentries entry hentry).1
    canonical := fun entry hentry => (hentries entry hentry).2.1
    nodup := hnodup }

/-- And a valid one is accepted. -/
theorem Valid.ofEntries {catalog : Catalog} (h : catalog.Valid) :
    ofEntries catalog.version catalog.entries = .ok catalog :=
  ofEntries_eq_ok.mpr ⟨fault?_eq_none.mpr ⟨fun entry hentry =>
    ⟨h.nonempty entry hentry, h.canonical entry hentry, List.not_mem_nil⟩, h.nodup⟩, rfl⟩

/-! ## The names of an entry -/

variable {catalog : Catalog} {entry : Entry} {id typeId : String}

theorem mem_of_byId? (h : catalog.byId? id = some entry) :
    entry ∈ catalog.entries ∧ entry.id = id := by
  rw [byId?] at h
  exact ⟨List.mem_reverse.mp (List.mem_of_find?_eq_some h), by simpa using List.find?_some h⟩

theorem mem_of_byType? (h : catalog.byType? typeId = some entry) :
    entry ∈ catalog.entries ∧ entry.typeId = typeId := by
  rw [byType?] at h
  exact ⟨List.mem_of_find?_eq_some h, by simpa using List.find?_some h⟩

/-- A name stands for an entry of the catalog. -/
theorem mem_of_resolve? {name : String} (h : catalog.resolve? name = some entry) :
    entry ∈ catalog.entries := by
  rw [resolve?] at h
  -- by id, by type, and by the canonical form of the name
  cases hid : catalog.byId? (Text.trimmed name) with
  | some other =>
    obtain rfl : other = entry := by simpa [hid] using h
    exact (mem_of_byId? hid).1
  | none =>
    cases htype : catalog.byType? (Text.trimmed name) with
    | some other =>
      obtain rfl : other = entry := by simpa [hid, htype] using h
      exact (mem_of_byType? htype).1
    | none => exact (mem_of_byType? (by simpa [hid, htype] using h)).1

/-- Whether no other entry has a name as its identifier. -/
def LeavesName (catalog : Catalog) (name : String) (entry : Entry) : Prop :=
  ∀ other ∈ catalog.entries, other.id = name → other = entry

theorem byId?_eq_none : catalog.byId? id = none ↔ ∀ entry ∈ catalog.entries, entry.id ≠ id := by
  simp [byId?]

/-- An identifier that no other entry has stands for its entry. -/
theorem byId?_eq_some (hentry : entry ∈ catalog.entries)
    (hid : catalog.LeavesName entry.id entry) :
    catalog.byId? id = some entry ↔ entry.id = id := by
  refine ⟨fun h => (mem_of_byId? h).2, ?_⟩
  rintro rfl
  cases hfound : catalog.byId? entry.id with
  | none => exact absurd rfl (byId?_eq_none.mp hfound entry hentry)
  | some other =>
    obtain ⟨hother, hsame⟩ := mem_of_byId? hfound
    rw [hid other hother hsame]

/-- A type stands for its entry. -/
theorem Valid.byType?_eq_some (hvalid : catalog.Valid) :
    catalog.byType? typeId = some entry ↔ entry ∈ catalog.entries ∧ entry.typeId = typeId := by
  refine ⟨mem_of_byType?, ?_⟩
  rintro ⟨hentry, rfl⟩
  cases hfound : catalog.byType? entry.typeId with
  | none => simpa using List.find?_eq_none.mp hfound entry hentry
  | some other =>
    obtain ⟨hother, htype⟩ := mem_of_byType? hfound
    rw [List.inj_on_of_nodup_map hvalid.nodup hother hentry htype]

/-- A name that is no identifier stands for the entry with the type that it is a form of; and a type
is a form of itself. -/
theorem Valid.resolve?_eq (hvalid : catalog.Valid) (name : String) :
    catalog.resolve? name = (catalog.byId? (Text.trimmed name)).or
      (catalog.byType? (TypeId.canonical (Text.trimmed name))) := by
  rw [resolve?]
  cases catalog.byId? (Text.trimmed name) with
  -- in a valid catalog types are canonical, so a name that is a type is its own canonical form
  | some entry => rfl
  | none =>
    cases htype : catalog.byType? (Text.trimmed name) with
    | none => simp
    | some entry =>
      obtain ⟨hentry, hname⟩ := mem_of_byType? htype
      have hcanonical := hvalid.canonical entry hentry
      rw [hname] at hcanonical
      simp [hcanonical, htype]

/-- The type of an entry is a name for an entry. -/
theorem Valid.contains (hvalid : catalog.Valid) (h : entry ∈ catalog.entries) :
    catalog.contains entry.typeId = true := by
  have hcanonical := hvalid.canonical entry h
  rw [Catalog.contains, hvalid.resolve?_eq, TypeId.trimmed_of_canonical hcanonical, hcanonical,
    hvalid.byType?_eq_some.mpr ⟨h, rfl⟩, Option.isSome_or, Option.isSome_some, Bool.or_true]

/-- A name stands for an entry if it is its identifier, or no identifier but a form of its type. -/
theorem Valid.resolve?_eq_some (hvalid : catalog.Valid) (hentry : entry ∈ catalog.entries)
    (hid : catalog.LeavesName entry.id entry) (name : String) :
    catalog.resolve? name = some entry ↔
      entry.id = Text.trimmed name ∨
        (∀ other ∈ catalog.entries, other.id ≠ Text.trimmed name) ∧
          entry.typeId = TypeId.canonical (Text.trimmed name) := by
  rw [hvalid.resolve?_eq, Option.or_eq_some_iff, byId?_eq_some hentry hid, byId?_eq_none,
    hvalid.byType?_eq_some, and_iff_right hentry]

/-- Its own type stands for it unless that is the identifier of another entry. -/
theorem Valid.resolve?_typeId (hvalid : catalog.Valid) (hentry : entry ∈ catalog.entries)
    (htype : catalog.LeavesName entry.typeId entry) :
    catalog.resolve? entry.typeId = some entry := by
  have hcanonical := hvalid.canonical entry hentry
  rw [hvalid.resolve?_eq, TypeId.trimmed_of_canonical hcanonical, hcanonical,
    hvalid.byType?_eq_some.mpr ⟨hentry, rfl⟩]
  cases hfound : catalog.byId? entry.typeId with
  | none => rfl
  -- an entry whose id is the type would be found first
  | some other =>
    obtain ⟨hother, hname⟩ := mem_of_byId? hfound
    rw [htype other hother hname]
    rfl

end ComponentCanvas.Catalog
