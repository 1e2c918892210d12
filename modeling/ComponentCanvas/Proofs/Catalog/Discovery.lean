import ComponentCanvas.Catalog.Discovery
import ComponentCanvas.Proofs.Catalog
import ComponentCanvas.Proofs.Pointwise
import Mathlib.Data.List.Sort
import Mathlib.Data.String.Basic

/-!
# Discovered Catalogs

Every directory that exists makes a catalog.  A file that does not describe an entry is left out,
and of the files that describe entries of one type the first that is visited counts; what is left
is valid, so no fault can come of it.
-/

namespace ComponentCanvas

namespace FileTree

/-! ## The order of visit -/

/-- Whether a path is visited no later than another one: where the ways to them part, the name on
the first one is less. -/
def NoLater (path other : List String) : Prop :=
  path <+: other ∨ ∃ directory name rest name' rest',
    path = directory ++ name :: rest ∧ other = directory ++ name' :: rest' ∧ name < name'

/-- A path is visited no later than another one that is not less. -/
theorem noLater_of_not_lt : ∀ {path other : List String}, ¬other < path → NoLater path other
  | [], other, _ => .inl (List.nil_prefix)
  | name :: rest, [], h => absurd (List.nil_lt_cons name rest) h
  | name :: rest, name' :: rest', h => by
    rw [List.cons_lt_cons_iff, not_or, not_and] at h
    -- the paths part at these names, or they go on together
    rcases lt_trichotomy name name' with hless | rfl | hless
    · exact .inr ⟨[], name, rest, name', rest', rfl, rfl, hless⟩
    · rcases noLater_of_not_lt (h.2 rfl) with hprefix | ⟨directory, x, xs, y, ys, rfl, rfl, hless⟩
      · exact .inl (List.cons_prefix_cons.mpr ⟨rfl, hprefix⟩)
      · exact .inr ⟨name :: directory, x, xs, y, ys, rfl, rfl, hless⟩
    · exact absurd hless h.1

/-- The files of a directory are visited in the order of their names, and a directory where its
name stands among them. -/
theorem pairwise_walk (files : FileTree) :
    files.walk.Pairwise fun file other => NoLater file.1 other.1 := by
  have hsorted : files.walk.Pairwise fun file other => (!decide (other.1 < file.1)) = true := by
    apply List.pairwise_mergeSort
    · intro a b c hab hbc
      simp only [Bool.not_eq_true', decide_eq_false_iff_not, not_lt] at hab hbc ⊢
      exact hab.trans hbc
    · intro a b
      simpa [or_comm] using le_total b.1 a.1
  exact hsorted.imp fun h => noLater_of_not_lt (by simpa using h)

theorem walk_perm (files : FileTree) : files.walk.Perm files :=
  List.mergeSort_perm files _

/-! ## Stems and extensions -/

private theorem not_point {extension : List Char} (h : '.' ∉ extension) :
    ∀ c ∈ extension.reverse, (c != '.') = true := by
  intro c hc
  rw [bne_iff_ne]
  rintro rfl
  exact h (List.mem_reverse.mp hc)

/-- A name is parted at its last point, which does not stand at its start. -/
theorem stemAndExtension_eq_some {name stem extension : String} :
    stemAndExtension name = (stem, some extension) ↔
      stem ≠ "" ∧ '.' ∉ extension.toList ∧ name = stem ++ "." ++ extension := by
  rw [stemAndExtension]
  constructor
  · intro h
    -- read backwards, the extension is what stands in front of the first point
    have hsplit := List.takeWhile_append_dropWhile (p := (· != '.')) (l := name.toList.reverse)
    split at h
    case h_1 first c rest hdrop =>
      obtain ⟨rfl, hextension⟩ := Prod.mk.inj h
      obtain rfl := Option.some.inj hextension
      have hfirst : first = '.' := by
        have := List.head?_dropWhile_not (· != '.') name.toList.reverse
        simpa [hdrop] using this
      refine ⟨by simp, fun hmem => ?_, ?_⟩
      · have := List.mem_takeWhile_imp (by simpa using hmem)
        simp at this
      · rw [hdrop, hfirst] at hsplit
        rw [← String.toList_inj]
        simpa using (congrArg List.reverse hsplit).symm
    case h_2 => simp at h
  · rintro ⟨hstem, hpoint, rfl⟩
    -- the stem is not empty, so some character stands in front of the point
    obtain ⟨c, rest, hletters⟩ := List.exists_cons_of_ne_nil (l := stem.toList.reverse) (by simpa)
    have hletters' : stem.toList = (c :: rest).reverse := by rw [← hletters, List.reverse_reverse]
    have hname : (stem ++ "." ++ extension).toList.reverse =
        extension.toList.reverse ++ '.' :: c :: rest := by simp [hletters']
    simp only [hname, List.takeWhile_append_of_pos (not_point hpoint),
      List.dropWhile_append_of_pos (not_point hpoint)]
    simp [← hletters']

end FileTree

namespace Catalog

/-! ## The entry of a file -/

/-- Whether a text is the template for a stem in a directory, which is a `.jsx` file or, where there
is none, a `.tsx` file. -/
def IsTemplate (files : FileTree) (directory : List String) (stem text : String) : Prop :=
  files.lookup (directory ++ [stem ++ ".jsx"]) = some text ∨
    files.lookup (directory ++ [stem ++ ".jsx"]) = none ∧
      files.lookup (directory ++ [stem ++ ".tsx"]) = some text

/-- What is found for a stem is its template. -/
theorem template?_eq_some {files : FileTree} {directory : List String} {stem text : String} :
    template? files directory stem = some text ↔ IsTemplate files directory stem text := by
  have hjsx : stem ++ "." ++ "jsx" = stem ++ ".jsx" := by rw [String.append_assoc]; rfl
  have htsx : stem ++ "." ++ "tsx" = stem ++ ".tsx" := by rw [String.append_assoc]; rfl
  rw [template?, templateExtensions, List.findSome?_cons, hjsx, IsTemplate]
  cases files.lookup (directory ++ [stem ++ ".jsx"]) with
  | some other => simp
  | none => simp [htsx]

/-- Whether a file describes an entry: it is a metadata file that can be read, its type has a
canonical form that is not empty, and there is a template beside it. -/
def Describes (files : FileTree) (file : List String × String) (entry : Entry) : Prop :=
  ∃ (directory : List String) (stem : String) (data : Metadata) (template : String),
    file.1 = directory ++ [stem ++ ".json"] ∧ stem ≠ "" ∧
    (Json.Raw.read? file.2).bind Metadata.ofJson? = some data ∧
    TypeId.canonical (data.typeId.getD stem) ≠ "" ∧
    IsTemplate files directory stem template ∧
    entry = data.entry directory (TypeId.canonical (data.typeId.getD stem)) template

/-- An entry is read from a file exactly if the file describes it. -/
theorem entryOfFile?_eq_some {files : FileTree} {file : List String × String} {entry : Entry} :
    entryOfFile? files file.1 file.2 = some entry ↔ Describes files file entry := by
  obtain ⟨path, text⟩ := file
  have hjson (stem : String) : stem ++ "." ++ "json" = stem ++ ".json" := by
    rw [String.append_assoc]
    rfl
  constructor
  · intro h
    -- every step of reading the file has had a result
    simp only [entryOfFile?, Option.bind_eq_bind, Option.bind_eq_some_iff, Option.guard_eq_some',
      Option.pure_def, Option.some.injEq, exists_const, beq_iff_eq] at h
    obtain ⟨name, hname, hextension, data, hdata, htype, template, htemplate, rfl⟩ := h
    obtain ⟨hstem, -, hparts⟩ := FileTree.stemAndExtension_eq_some.mp
      (Prod.ext rfl hextension : FileTree.stemAndExtension name =
        ((FileTree.stemAndExtension name).1, some "json"))
    refine ⟨path.dropLast, _, data, template, ?_, hstem, Option.bind_eq_some_iff.mpr hdata,
      by simpa using htype, template?_eq_some.mp htemplate, rfl⟩
    rw [← hjson, ← hparts]
    exact (List.dropLast_append_getLast? name hname).symm
  · rintro ⟨directory, stem, data, template, rfl, hstem, hdata, htype, htemplate, rfl⟩
    -- the name of the file is taken apart where it was put together
    have hparts : FileTree.stemAndExtension (stem ++ ".json") = (stem, some "json") :=
      FileTree.stemAndExtension_eq_some.mpr ⟨hstem, by decide, (hjson stem).symm⟩
    simp [entryOfFile?, hparts, hdata, htype, template?_eq_some.mpr htemplate]

/-! ## The first entry of each type -/

section FirstOfEachType

variable {α : Type}

/-- Whether an item describes an entry and no item before it describes one of that type. -/
def IsFirst (describes : α → Entry → Prop) (items : List α) (item : α) (entry : Entry) : Prop :=
  ∃ before after, items = before ++ item :: after ∧ describes item entry ∧
    ∀ earlier ∈ before, ∀ other, describes earlier other → other.typeId ≠ entry.typeId

/-- An item that describes no entry of this type can stand in front. -/
theorem IsFirst.cons {describes : α → Entry → Prop} {items : List α} {item first : α}
    {entry : Entry} (h : IsFirst describes items item entry)
    (hfirst : ∀ other, describes first other → other.typeId ≠ entry.typeId) :
    IsFirst describes (first :: items) item entry := by
  obtain ⟨before, after, rfl, hentry, hbefore⟩ := h
  exact ⟨first :: before, after, rfl, hentry, List.forall_mem_cons.mpr ⟨hfirst, hbefore⟩⟩

/-- The entries that are kept are those of the first files of their types, in order. -/
theorem firstOfEachType_filterMap (describe : α → Option Entry) (items : List α)
    (seen : List String) :
    ∃ chosen, chosen.Sublist items ∧
      List.Forall₂ (fun item entry =>
          IsFirst (fun item entry => describe item = some entry) items item entry ∧
            entry.typeId ∉ seen)
        chosen (firstOfEachType seen (items.filterMap describe)) := by
  -- the types seen go along, so an entry that is kept has another type than all before it
  induction items generalizing seen with
  | nil => exact ⟨[], .slnil, .nil⟩
  | cons item rest ih =>
    cases hitem : describe item with
    | none =>
      obtain ⟨chosen, hchosen, hfirst⟩ := ih seen
      rw [List.filterMap_cons_none hitem]
      exact ⟨chosen, hchosen.cons _, hfirst.imp fun _ _ h => ⟨h.1.cons (by simp [hitem]), h.2⟩⟩
    | some entry =>
      have hentry {other : Entry} (h : describe item = some other) : entry = other :=
        Option.some.inj (hitem.symm.trans h)
      rw [List.filterMap_cons_some hitem, firstOfEachType]
      by_cases hseen : entry.typeId ∈ seen
      · obtain ⟨chosen, hchosen, hfirst⟩ := ih seen
        -- an entry whose type was seen is left out, and the chosen ones have other types
        rw [if_pos (by simpa using hseen)]
        refine ⟨chosen, hchosen.cons _, hfirst.imp fun _ other h => ⟨h.1.cons ?_, h.2⟩⟩
        rintro _ hother heq
        obtain rfl := hentry hother
        exact h.2 (heq ▸ hseen)
      · obtain ⟨chosen, hchosen, hfirst⟩ := ih (entry.typeId :: seen)
        -- the first entry of its type is kept, and its type is seen from here on
        rw [if_neg (by simpa using hseen)]
        refine ⟨item :: chosen, hchosen.cons_cons _, .cons ?_ (hfirst.imp fun _ other h => ?_)⟩
        · exact ⟨⟨[], rest, rfl, hitem, by simp⟩, hseen⟩
        · obtain ⟨hnew, hunseen⟩ := not_or.mp (mt List.mem_cons.mpr h.2)
          refine ⟨h.1.cons fun _ hother heq => ?_, hunseen⟩
          obtain rfl := hentry hother
          exact hnew heq.symm

/-- No entry of a type that was seen before is kept. -/
theorem typeId_notMem_seen {seen : List String} {entries : List Entry} :
    ∀ entry ∈ firstOfEachType seen entries, entry.typeId ∉ seen := by
  induction entries generalizing seen with
  | nil => simp [firstOfEachType]
  | cons entry rest ih =>
    rw [firstOfEachType]
    split
    case isTrue => exact ih
    case isFalse hseen =>
      refine List.forall_mem_cons.mpr ⟨by simpa using hseen, fun other hother hmem => ?_⟩
      exact ih other hother (List.mem_cons_of_mem _ hmem)

/-- No type is kept twice. -/
theorem nodup_firstOfEachType (seen : List String) (entries : List Entry) :
    ((firstOfEachType seen entries).map (·.typeId)).Nodup := by
  induction entries generalizing seen with
  | nil => exact .nil
  | cons entry rest ih =>
    rw [firstOfEachType]
    split
    -- an entry of a type that was seen, and one of a new type
    · exact ih seen
    · rw [List.map_cons, List.nodup_cons]
      refine ⟨fun hmem => ?_, ih _⟩
      obtain ⟨other, hother, htype⟩ := List.mem_map.mp hmem
      exact typeId_notMem_seen other hother (by simp [htype])

/-- No type is lost. -/
theorem exists_mem_firstOfEachType {seen : List String} {entries : List Entry} {entry : Entry}
    (h : entry ∈ entries) (hseen : entry.typeId ∉ seen) :
    ∃ first ∈ firstOfEachType seen entries, first.typeId = entry.typeId := by
  induction entries generalizing seen with
  | nil => cases h
  | cons other rest ih =>
    rw [firstOfEachType]
    split
    case isTrue hother =>
      rcases List.mem_cons.mp h with rfl | h
      · exact absurd (by simpa using hother) hseen
      · exact ih h hseen
    case isFalse =>
      -- an entry that is left out has the type of one that is kept before it
      by_cases htype : entry.typeId = other.typeId
      · exact ⟨other, List.mem_cons_self .., htype.symm⟩
      · rcases List.mem_cons.mp h with rfl | h
        · exact absurd rfl htype
        · have hnew : entry.typeId ∉ other.typeId :: seen := by simp [htype, hseen]
          obtain ⟨first, hfirst, heq⟩ := ih h hnew
          exact ⟨first, List.mem_cons_of_mem _ hfirst, heq⟩

end FirstOfEachType

/-! ## The entries of a directory -/

/-- Whether entries are those of a directory: one for each type that a file describes an entry of,
from the first such file that is visited, in the order of these files. -/
structure Lists (files : FileTree) (entries : List Entry) : Prop where
  ordered : ∃ chosen, chosen.Sublist files.walk ∧
    List.Forall₂ (IsFirst (Describes files) files.walk) chosen entries
  nodup : (entries.map (·.typeId)).Nodup
  complete : ∀ file ∈ files, ∀ entry, Describes files file entry →
    ∃ found ∈ entries, found.typeId = entry.typeId

/-- The entries of a directory are listed as its walk visits their files. -/
theorem lists_entriesOfFiles (files : FileTree) : Lists files (entriesOfFiles files) where
  ordered := by
    -- reading a file and describing an entry are the same relation
    have hdescribes : (fun file entry => entryOfFile? files file.1 file.2 = some entry) =
        Describes files := by
      funext file entry
      exact propext entryOfFile?_eq_some
    obtain ⟨chosen, hchosen, hfirst⟩ := firstOfEachType_filterMap
      (fun file => entryOfFile? files file.1 file.2) files.walk []
    rw [hdescribes] at hfirst
    exact ⟨chosen, hchosen, hfirst.imp fun _ _ h => h.1⟩
  nodup := nodup_firstOfEachType [] _
  complete := by
    intro file hfile entry hentry
    apply exists_mem_firstOfEachType (h := ?_) List.not_mem_nil
    exact List.mem_filterMap.mpr ⟨file, files.walk_perm.mem_iff.mpr hfile,
      entryOfFile?_eq_some.mpr hentry⟩

theorem Lists.describes {files : FileTree} {entries : List Entry} (h : Lists files entries)
    {entry : Entry} (hentry : entry ∈ entries) : ∃ file ∈ files, Describes files file entry := by
  obtain ⟨chosen, hchosen, hfirst⟩ := h.ordered
  obtain ⟨file, hfile, -, -, -, hdescribes, -⟩ := exists_left_of_forall₂ hfirst hentry
  exact ⟨file, files.walk_perm.mem_iff.mp (hchosen.subset hfile), hdescribes⟩

/-- The entries of a directory are asked for nothing that they do not have. -/
theorem Lists.valid {files : FileTree} {entries : List Entry} (h : Lists files entries)
    (version : String) : Valid ⟨version, entries⟩ := by
  have hform : ∀ entry ∈ entries, entry.typeId ≠ "" ∧
      TypeId.canonical entry.typeId = entry.typeId := by
    intro entry hentry
    obtain ⟨file, -, directory, stem, data, template, -, -, -, hne, -, rfl⟩ :=
      h.describes hentry
    -- the type was given its canonical form, which is its own
    exact ⟨hne, TypeId.canonical_canonical _⟩
  exact {
    nonempty := fun entry hentry => (hform entry hentry).1
    canonical := fun entry hentry => (hform entry hentry).2
    nodup := h.nodup }

/-- A directory that exists makes a catalog of the first entry of each type; what does not describe
an entry is left out.  So only a directory that does not exist is an error. -/
theorem discover_first_of_each_type (version : String) (files : FileTree) :
    (∃ catalog, discover version (some files) = .ok catalog ∧ catalog.version = version ∧
      catalog.Valid ∧ Lists files catalog.entries) ∧
    files.walk.Perm files ∧
    (files.walk.Pairwise fun file other => FileTree.NoLater file.1 other.1) ∧
    ∀ directory e, discover version directory = .error e ↔ directory = none ∧ e = .noDirectory := by
  have hlists := lists_entriesOfFiles files
  refine ⟨⟨_, (hlists.valid version).ofEntries, rfl, hlists.valid version, hlists⟩,
    files.walk_perm, files.pairwise_walk, fun directory e => ?_⟩
  -- only a directory that is missing gives an error
  cases directory with
  | none => simp [discover, eq_comm]
  | some others =>
    have hok := ((lists_entriesOfFiles others).valid version).ofEntries
    simp only [reduceCtorEq, false_and, iff_false]
    intro h
    exact nomatch hok.symm.trans h

end Catalog

end ComponentCanvas
