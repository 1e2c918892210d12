import ComponentCanvas.Project.Dependencies
import ComponentCanvas.Proofs.Fields
import Mathlib.Data.List.Sort
import Mathlib.Data.String.Basic

/-!
# Required Packages

Which packages a list of instances requires depends on the set of their types alone: the packages
are sorted, and a sorted list of names is told by its members.  Required packages go into the table
of dependencies where the table does not have them.
-/

namespace ComponentCanvas

/-! ## Sorted names -/

variable {names others : List String}

/-- A name that is added to ascending names goes where it belongs. -/
theorem pairwise_insertName (h : names.Pairwise (· < ·)) (name : String) :
    (insertName names name).Pairwise (· < ·) := by
  induction names with
  | nil => exact List.pairwise_singleton _ _
  | cons first rest ih =>
    obtain ⟨hfirst, hrest⟩ := List.pairwise_cons.mp h
    rw [insertName]
    split
    · exact h
    · next hne =>
      split
      · next hlt =>
        -- in front of the first name, and so of all others
        refine List.pairwise_cons.mpr ⟨fun n hn => ?_, h⟩
        rcases List.mem_cons.mp hn with rfl | hn
        · exact hlt
        · exact hlt.trans (hfirst n hn)
      · next hnotLt =>
        -- behind the first name
        have hlt : first < name := lt_of_le_of_ne (not_lt.mp hnotLt) (by simpa using hne)
        refine List.pairwise_cons.mpr ⟨fun n hn => ?_, ih hrest⟩
        rcases mem_insertName.mp hn with rfl | hn
        · exact hlt
        · exact hfirst n hn

theorem pairwise_sortedNames (names : List String) : (sortedNames names).Pairwise (· < ·) :=
  List.foldlRecOn names insertName List.Pairwise.nil fun _ h name _ => pairwise_insertName h name

/-- Sorting forgets the order of names and how often they stand there. -/
theorem sortedNames_congr (h : ∀ n, n ∈ names ↔ n ∈ others) :
    sortedNames names = sortedNames others :=
  (pairwise_sortedNames names).eq_of_mem_iff (pairwise_sortedNames others) (by simpa using h)

namespace Project

/-! ## Names of packages -/

/-- A part of a package name: the characters that it may have behind one that it may open with. -/
inductive IsPackageWord : List Char → Prop
  | word {c : Char} {rest : List Char} (hc : isPackageStart c = true)
      (hrest : ∀ d ∈ rest, isPackagePart d = true) : IsPackageWord (c :: rest)

/-- A package name: a word, or a scope and a word. -/
inductive IsPackageForm : List Char → Prop
  | plain {word : List Char} (h : IsPackageWord word) : IsPackageForm word
  | inScope {scope word : List Char} (hscope : IsPackageWord scope) (h : IsPackageWord word) :
      IsPackageForm ('@' :: (scope ++ '/' :: word))

/-- Whether a text is a word of a package can be decided. -/
theorem isPackageWord_iff {s : List Char} : isPackageWord s = true ↔ IsPackageWord s := by
  constructor
  · intro h
    cases s with
    | nil => cases h
    | cons c rest =>
      rw [isPackageWord, Bool.and_eq_true] at h
      exact .word h.1 (List.all_eq_true.mp h.2)
  · rintro ⟨hc, hrest⟩
    rw [isPackageWord, hc, Bool.true_and]
    exact List.all_eq_true.mpr hrest

theorem IsPackageWord.isPackagePart_of_mem {s : List Char} (h : IsPackageWord s) :
    ∀ c ∈ s, isPackagePart c = true := by
  cases h with
  | word hc hrest =>
    rw [List.forall_mem_cons]
    exact ⟨by simp [isPackagePart, hc], hrest⟩

/-- Whether a text has the form of a package can be decided. -/
theorem isPackageForm_iff {s : List Char} : isPackageForm s = true ↔ IsPackageForm s := by
  constructor
  · intro h
    unfold isPackageForm at h
    split at h
    · next rest =>
      split at h
      · next c word hrest =>
        -- what the scope ends at is a slash
        have hslash : c = '/' := by
          have hhead := List.head?_dropWhile_not (· != '/') rest
          simpa [hrest] using hhead
        rw [Bool.and_eq_true] at h
        rw [← List.takeWhile_append_dropWhile (p := (· != '/')) (l := rest), hrest, hslash]
        exact .inScope (isPackageWord_iff.mp h.1) (isPackageWord_iff.mp h.2)
      · cases h
    · exact .plain (isPackageWord_iff.mp h)
  · intro h
    cases h with
    | plain hword =>
      cases hword with
      | @word c rest hc hrest =>
        have hat : c ≠ '@' := by
          rintro rfl
          exact absurd hc (by decide)
        rw [isPackageForm]
        · exact isPackageWord_iff.mpr (.word hc hrest)
        · simpa using fun h => absurd h hat
    | @inScope scope word hscope hword =>
      -- no slash stands in the scope, so the first one is that behind it
      have hslash : ∀ c ∈ scope, (c != '/') = true := by
        intro c hc
        rw [bne_iff_ne]
        rintro rfl
        exact absurd (hscope.isPackagePart_of_mem _ hc) (by decide)
      rw [isPackageForm, List.dropWhile_append_of_pos hslash, List.takeWhile_append_of_pos hslash]
      simp [isPackageWord_iff, hscope, hword]

/-- Whether a name can be a package name: it has the form of one and is not too long. -/
def IsPackage (name : String) : Prop :=
  Text.byteSize name.toList ≤ packageNameLimit ∧ IsPackageForm name.toList

theorem isPackageName_iff {name : String} : isPackageName name = true ↔ IsPackage name := by
  rw [isPackageName, Bool.and_eq_true, decide_eq_true_iff, isPackageForm_iff, IsPackage]

/-! ## Packages of instances -/

variable {catalog : Catalog} {registry : Registry} {config : PackageConfig} {package : String}

theorem isAllowed_iff : isAllowed config package = true ↔
    package ∉ config.denylist ∧ IsPackage package := by
  rw [isAllowed, Bool.and_eq_true, isPackageName_iff, PackageConfig.isDenied]
  simp

/-- The packages of a type are those of the catalog entry that it resolves to. -/
theorem mem_packagesOfType {typeId : String} :
    package ∈ packagesOfType catalog registry typeId ↔
      ∃ entry, registry.resolve? catalog typeId = some (.ready entry) ∧
        package ∈ entry.requiredPackages := by
  rw [packagesOfType]
  split
  · next entry hresolve => simp [hresolve]
  · next hother =>
    refine iff_of_false List.not_mem_nil ?_
    rintro ⟨entry, hentry, -⟩
    exact hother entry hentry

/-- The packages of a list of instances are those of their types that are allowed. -/
theorem mem_requiredPackages {instances : List Instance} :
    package ∈ requiredPackages instances catalog registry config ↔
      package ∉ config.denylist ∧ IsPackage package ∧
        ∃ typeId ∈ instances.map (·.typeId), ∃ entry,
          registry.resolve? catalog typeId = some (.ready entry) ∧
            package ∈ entry.requiredPackages := by
  rw [requiredPackages, mem_sortedNames, List.mem_filter, isAllowed_iff, List.mem_flatMap]
  simp only [mem_sortedNames, mem_packagesOfType]
  rw [and_comm, and_assoc]

/-- Instances of the same types require the same packages. -/
theorem requiredPackages_congr {instances others : List Instance}
    (h : ∀ typeId, typeId ∈ instances.map (·.typeId) ↔ typeId ∈ others.map (·.typeId)) :
    requiredPackages instances catalog registry config =
      requiredPackages others catalog registry config := by
  rw [requiredPackages, sortedNames_congr h, ← requiredPackages]

/-- A package that the table does not have goes into it. -/
theorem get?_insertAbsent (table : Fields String) (package version key : String) :
    Fields.get? (if Fields.contains table package then table
      else Fields.insertSorted table package version) key =
      (Fields.get? table key).or (if key = package then some version else none) := by
  by_cases hkey : key = package
  · subst hkey
    rw [if_pos rfl, Fields.contains]
    cases hget : Fields.get? table key <;> simp [hget]
  · rw [if_neg hkey, Option.or_none]
    split
    · rfl
    · exact Fields.get?_insertSorted_of_ne (Ne.symm hkey)

/-- The packages that the baseline does not have get their versions. -/
theorem get?_withRequired (packages : List String) (key : String) :
    Fields.get? (withRequired config packages) key = (Fields.get? config.baseline key).or
      (if key ∈ packages then some (config.versionFor key) else none) := by
  suffices hfold : ∀ table : Fields String, Fields.get? (packages.foldl (fun table package =>
      if Fields.contains table package then table
      else Fields.insertSorted table package (config.versionFor package)) table) key =
      (Fields.get? table key).or
        (if key ∈ packages then some (config.versionFor key) else none) from
    hfold config.baseline
  induction packages with
  | nil => simp
  | cons package rest ih =>
    -- one package is tried on the table, and then the others on what comes out
    intro table
    rw [List.foldl_cons, ih, get?_insertAbsent, Option.or_assoc]
    by_cases hkey : key = package <;> simp [hkey]

theorem mem_keys_withRequired {packages : List String} {key : String} :
    key ∈ Fields.keys (withRequired config packages) ↔
      key ∈ Fields.keys config.baseline ∨ key ∈ packages := by
  rw [← Fields.contains_iff_mem_keys, ← Fields.contains_iff_mem_keys, Fields.contains,
    Fields.contains, get?_withRequired]
  cases Fields.get? config.baseline key <;> simp

end Project

end ComponentCanvas
