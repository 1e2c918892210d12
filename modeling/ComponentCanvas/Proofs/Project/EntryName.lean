import ComponentCanvas.Project.EntryPoint
import Mathlib.Data.Finset.Card
import Mathlib.Data.Nat.Find

/-!
# The Name of the Entry Point

The function of the entry point takes the first name of the family `App`, `AppRoot`, `AppRootRoot`
and so on that no imported type has.  The family does not end, and no two of its names are equal,
so among one name more than there are types one is free: the search ends, whatever the types are
called.
-/

namespace ComponentCanvas.Project

variable {taken : List String} {name result : String} {n : ℕ}

/-! ## The family of names -/

/-- A name with a number of suffixes. -/
def rooted (name : String) (n : ℕ) : String := name ++ String.join (List.replicate n "Root")

@[simp] theorem rooted_zero (name : String) : rooted name 0 = name := by simp [rooted]

theorem rooted_succ (name : String) (n : ℕ) : rooted name (n + 1) = rooted (name ++ "Root") n := by
  rw [rooted, rooted, List.replicate_succ, String.join_cons, String.append_assoc]

theorem length_rooted (name : String) (n : ℕ) : (rooted name n).length = name.length + 4 * n := by
  induction n generalizing name with
  | zero => simp
  | succ n ih =>
    have hsuffix : "Root".length = 4 := by decide
    rw [rooted_succ, ih, String.length_append, hsuffix]
    omega

/-- The names of a family are as many as their lengths. -/
theorem rooted_injective (name : String) : Function.Injective (rooted name) := by
  intro n m h
  have hlength := congrArg String.length h
  rw [length_rooted, length_rooted] at hlength
  omega

/-- Among one name more than are taken one is free. -/
theorem exists_rooted_notMem (taken : List String) (name : String) :
    ∃ n ≤ taken.length, rooted name n ∉ taken := by
  -- the names of the family with up to as many suffixes are more than the taken ones
  have hmore : taken.toFinset.card <
      ((Finset.range (taken.length + 1)).image (rooted name)).card := by
    rw [Finset.card_image_of_injective _ (rooted_injective name), Finset.card_range]
    exact Nat.lt_succ_of_le taken.toFinset_card_le
  obtain ⟨free, hfree, hnotMem⟩ := Finset.exists_mem_notMem_of_card_lt_card hmore
  obtain ⟨n, hn, rfl⟩ := Finset.mem_image.mp hfree
  exact ⟨n, Nat.le_of_lt_succ (Finset.mem_range.mp hn), by simpa using hnotMem⟩

/-- A number of suffixes makes a name free, and fewer do not. -/
structure IsFirstFree (taken : List String) (name : String) (n : ℕ) : Prop where
  free : rooted name n ∉ taken
  least : ∀ k < n, rooted name k ∈ taken

theorem exists_isFirstFree (taken : List String) (name : String) :
    ∃ n ≤ taken.length, IsFirstFree taken name n := by
  obtain ⟨m, hm, hfree⟩ := exists_rooted_notMem taken name
  have hsome : ∃ k, rooted name k ∉ taken := ⟨m, hfree⟩
  refine ⟨Nat.find hsome, (Nat.find_min' hsome hfree).trans hm, Nat.find_spec hsome, ?_⟩
  exact fun k hk => Decidable.not_not.mp (Nat.find_min hsome hk)

theorem isFirstFree_zero_iff : IsFirstFree taken name 0 ↔ name ∉ taken := by
  constructor
  · intro h
    simpa using h.free
  · intro h
    exact ⟨by simpa using h, fun k hk => absurd hk (Nat.not_lt_zero k)⟩

/-- The first free name behind a taken one is that of the lengthened name. -/
theorem isFirstFree_succ_iff :
    IsFirstFree taken name (n + 1) ↔ name ∈ taken ∧ IsFirstFree taken (name ++ "Root") n := by
  constructor
  · intro h
    refine ⟨?_, ?_, fun k hk => ?_⟩
    -- the name itself is tried before the first suffix
    · simpa using h.least 0 (Nat.succ_pos n)
    · rw [← rooted_succ]
      exact h.free
    · rw [← rooted_succ]
      exact h.least (k + 1) (Nat.succ_lt_succ hk)
  · rintro ⟨hname, hrest⟩
    refine ⟨?_, fun k hk => ?_⟩
    · rw [rooted_succ]
      exact hrest.free
    -- names before the first free one: the name itself, or one with a suffix
    · cases k with
      | zero => rwa [rooted_zero]
      | succ k =>
        rw [rooted_succ]
        exact hrest.least k (Nat.lt_of_succ_lt_succ hk)

/-! ## The search -/

/-- The search for a name, with no bound on its rounds: a free name is the result, and a taken one
is lengthened. -/
inductive Search (taken : List String) : String → String → Prop
  | free {name : String} (h : name ∉ taken) : Search taken name name
  | lengthen {name result : String} (h : name ∈ taken)
      (rest : Search taken (name ++ "Root") result) :
    Search taken name result

/-- A search has one result. -/
theorem Search.unique {other : String} (h : Search taken name result)
    (h' : Search taken name other) : result = other := by
  induction h with
  | free h =>
    cases h' with
    | free => rfl
    | lengthen hname => exact absurd hname h
  | lengthen hname _ ih =>
    cases h' with
    | free h => exact absurd hname h
    | lengthen _ rest => exact ih rest

theorem IsFirstFree.search (h : IsFirstFree taken name n) : Search taken name (rooted name n) := by
  induction n generalizing name with
  | zero =>
    rw [rooted_zero]
    exact .free (isFirstFree_zero_iff.mp h)
  | succ n ih =>
    obtain ⟨hname, hrest⟩ := isFirstFree_succ_iff.mp h
    rw [rooted_succ]
    exact .lengthen hname (ih hrest)

/-- A bound on the rounds changes nothing if it is not below the number of suffixes. -/
theorem freeName_eq_rooted {rounds : ℕ} (h : IsFirstFree taken name n) (hrounds : n ≤ rounds) :
    freeName rounds taken name = rooted name n := by
  -- every round lengthens the name by one suffix and leaves one less to be put on
  induction rounds generalizing name n with
  | zero =>
    obtain rfl := Nat.le_zero.mp hrounds
    rw [rooted_zero, freeName]
  | succ rounds ih =>
    rw [freeName]
    cases n with
    | zero => rw [if_neg (by simpa using isFirstFree_zero_iff.mp h), rooted_zero]
    | succ n =>
      obtain ⟨hname, hrest⟩ := isFirstFree_succ_iff.mp h
      rw [if_pos (List.contains_iff_mem.mpr hname), rooted_succ]
      exact ih hrest (Nat.le_of_succ_le_succ hrounds)

/-! ## The entry point -/

/-- The search for the name of the entry point ends, within one round for each module, and only
with one name: `App` with the least number of suffixes that no imported type has.  So the function
that the entry point declares below its imports has another name than all that is imported. -/
theorem entry_name_free (modules : List ComponentModule) (markup : List String) :
    ∃ n ≤ modules.length,
      (∀ m ∈ modules, m.typeId ≠ rooted "App" n) ∧
      (∀ k < n, ∃ m ∈ modules, m.typeId = rooted "App" k) ∧
      entryName modules = rooted "App" n ∧
      (∀ result, Search (modules.map (·.typeId)) "App" result ↔ result = rooted "App" n) ∧
      ∃ body, entryText modules markup =
        String.join (modules.map fun m => importText m.typeId (entryImport m.path)) ++
          (if modules.isEmpty then "" else "\n") ++
          "export default function " ++ rooted "App" n ++ "() \x7b\n" ++ body := by
  -- there are more names to try than modules, so one of them is free
  obtain ⟨n, hn, hfirst⟩ := exists_isFirstFree (modules.map (·.typeId)) "App"
  rw [List.length_map] at hn
  have hname : entryName modules = rooted "App" n := freeName_eq_rooted hfirst hn
  refine ⟨n, hn, ?free, ?least, hname, fun result => ⟨?unique, ?ends⟩, ?text⟩
  case free =>
    intro m hm htype
    exact hfirst.free (htype ▸ List.mem_map_of_mem hm)
  case least => exact fun k hk => List.mem_map.mp (hfirst.least k hk)
  case unique => exact fun h => h.unique hfirst.search
  -- conversely the search ends at the first free name
  case ends =>
    rintro rfl
    exact hfirst.search
  case text =>
    rw [← hname]
    simp only [entryText, String.append_assoc]
    exact ⟨_, rfl⟩

example : entryName [⟨"AppRoot", "", ""⟩, ⟨"App", "", ""⟩, ⟨"AppRootRootRoot", "", ""⟩] =
    "AppRootRoot" := by
  decide +kernel

end ComponentCanvas.Project
