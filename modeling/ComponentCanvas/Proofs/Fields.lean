import ComponentCanvas.Fields
import Mathlib.Data.List.Nodup

/-!
# Laws of Tables

How reading a table, its keys and their distinctness relate to writing an entry.
-/

namespace ComponentCanvas.Fields

variable {α : Type} {fields : Fields α} {key : String} {value : α}

@[simp] theorem keys_nil : keys ([] : Fields α) = [] := rfl

@[simp] theorem keys_cons (k : String) (v : α) (rest : Fields α) :
    keys ((k, v) :: rest) = k :: keys rest := rfl

@[simp] theorem keys_append (fields rest : Fields α) :
    keys (fields ++ rest) = keys fields ++ keys rest := List.map_append

/-- A table contains a key exactly if it is among its keys. -/
theorem contains_iff_mem_keys : contains fields key = true ↔ key ∈ keys fields := by
  induction fields with
  | nil => simp [contains, get?]
  | cons entry rest ih =>
    obtain ⟨k, v⟩ := entry
    rw [contains, get?]
    by_cases h : k = key
    · simp [h]
    · rw [if_neg (by simpa using h), ← contains, ih, keys_cons, List.mem_cons]
      simp [Ne.symm h]

theorem get?_eq_none : get? fields key = none ↔ key ∉ keys fields := by
  rw [← contains_iff_mem_keys, contains, Option.not_isSome_iff_eq_none]

/-- What is found is an entry. -/
theorem mem_of_get? (h : get? fields key = some value) : (key, value) ∈ fields := by
  induction fields with
  | nil => cases h
  | cons entry rest ih =>
    obtain ⟨k, v⟩ := entry
    rw [get?] at h
    -- the first entry has the key, or the value is found behind it
    split at h
    · next hk =>
      rw [eq_of_beq hk, Option.some.inj h]
      exact List.mem_cons_self ..
    · exact List.mem_cons_of_mem _ (ih h)

/-- Writing an entry leaves the values of other keys. -/
theorem get?_insert_of_ne {k : String} (h : k ≠ key) :
    get? (insert fields key value) k = get? fields k := by
  induction fields with
  | nil => simp [insert, get?, Ne.symm h]
  | cons entry rest ih =>
    obtain ⟨k', v⟩ := entry
    rw [insert]
    -- the entry that is replaced, or one that stays
    split
    · next hk =>
      rw [eq_of_beq hk, get?, get?, if_neg (by simpa using Ne.symm h),
        if_neg (by simpa using Ne.symm h)]
    · rw [get?, get?, ih]

/-- An entry that was written is read. -/
@[simp] theorem get?_insert_self : get? (insert fields key value) key = some value := by
  induction fields with
  | nil => simp [insert, get?]
  | cons entry rest ih =>
    obtain ⟨k, v⟩ := entry
    rw [insert]
    split
    · next hk => rw [get?, if_pos hk]
    · next hk => rw [get?, if_neg hk, ih]

/-- With distinct keys every entry is the one that is read under its key. -/
theorem get?_of_mem (hnodup : (keys fields).Nodup) (h : (key, value) ∈ fields) :
    get? fields key = some value := by
  induction fields with
  | nil => cases h
  | cons entry rest ih =>
    obtain ⟨k, v⟩ := entry
    rw [keys_cons, List.nodup_cons] at hnodup
    rcases List.mem_cons.mp h with heq | h
    · obtain ⟨rfl, rfl⟩ := Prod.mk.inj heq
      rw [get?, if_pos (beq_self_eq_true key)]
    -- the key stands further on, and it stands only once
    · have hne : k ≠ key := by
        rintro rfl
        exact hnodup.1 (List.mem_map.mpr ⟨_, h, rfl⟩)
      rw [get?, if_neg (by simpa using hne), ih hnodup.2 h]

/-- An entry that is filtered out is not read. -/
theorem get?_filter (h : (keys fields).Nodup) (p : α → Bool) (key : String) :
    get? (fields.filter (fun entry => p entry.2)) key = (get? fields key).filter p := by
  induction fields with
  | nil => rfl
  | cons entry rest ih =>
    obtain ⟨k, v⟩ := entry
    rw [keys_cons, List.nodup_cons] at h
    rw [List.filter_cons, get?]
    by_cases hk : k = key
    · subst hk
      rw [if_pos (beq_self_eq_true k), Option.filter_some]
      split
      · rw [get?, if_pos (beq_self_eq_true k)]
      · -- the key has no other entry
        rw [ih h.2, get?_eq_none.mpr h.1]
        rfl
    · have hne : (k == key) = false := by simpa using hk
      rw [hne]
      -- the entry has another key, so it does not matter whether it stays
      split
      · rw [get?, hne]
        exact ih h.2
      · exact ih h.2

/-- A table with distinct keys is what is read under its keys in their order. -/
theorem eq_filterMap_keys (h : (keys fields).Nodup) :
    fields = (keys fields).filterMap fun k => (get? fields k).map (k, ·) := by
  induction fields with
  | nil => rfl
  | cons entry rest ih =>
    obtain ⟨k, v⟩ := entry
    rw [keys_cons, List.nodup_cons] at h
    -- the first entry hides none of the others, since no key stands twice
    have hrest : ∀ k' ∈ keys rest, get? ((k, v) :: rest) k' = get? rest k' := by
      intro k' hk'
      have hne : k ≠ k' := by
        rintro rfl
        exact h.1 hk'
      rw [get?, if_neg (by simpa using hne)]
    rw [keys_cons, List.filterMap_cons_some (by rw [get?, if_pos (beq_self_eq_true k)]; rfl),
      List.filterMap_congr fun k' hk' => by rw [hrest k' hk'], ← ih h.2]

/-- Tables with the same distinct keys and the same values are the same. -/
theorem ext_get? {others : Fields α} (h : (keys fields).Nodup) (hkeys : keys fields = keys others)
    (hget : ∀ k, get? fields k = get? others k) : fields = others := by
  calc fields
    _ = (keys fields).filterMap fun k => (get? fields k).map (k, ·) := eq_filterMap_keys h
    _ = (keys others).filterMap fun k => (get? others k).map (k, ·) := by simp only [hkeys, hget]
    _ = others := (eq_filterMap_keys (hkeys ▸ h)).symm

/-- A new key is put at the end. -/
theorem insert_of_notMem (h : key ∉ keys fields) :
    insert fields key value = fields ++ [(key, value)] := by
  induction fields with
  | nil => rfl
  | cons entry rest ih =>
    obtain ⟨k, v⟩ := entry
    rw [keys_cons, List.mem_cons, not_or] at h
    rw [insert, if_neg (by simpa using Ne.symm h.1), ih h.2, List.cons_append]

/-- Writing an entry changes nothing exactly if it is there. -/
theorem insert_eq_self : insert fields key value = fields ↔ get? fields key = some value := by
  constructor
  -- what is found after writing was there before
  · intro h
    rw [← h, get?_insert_self]
  -- the entry that is replaced holds the value already
  · intro h
    induction fields with
    | nil => cases h
    | cons entry rest ih =>
      obtain ⟨k, v⟩ := entry
      rw [get?] at h
      rw [insert]
      split at h
      · next hk => rw [if_pos hk, Option.some.inj h, eq_of_beq hk]
      · next hk => rw [if_neg hk, ih h]

/-- A present key keeps its place. -/
theorem keys_insert_of_mem (h : key ∈ keys fields) :
    keys (insert fields key value) = keys fields := by
  induction fields with
  | nil => simp at h
  | cons entry rest ih =>
    obtain ⟨k, v⟩ := entry
    rw [insert]
    -- the entry is replaced where it stands
    by_cases hk : k = key
    · simp [hk]
    · rw [keys_cons, List.mem_cons] at h
      rw [if_neg (by simpa using hk), keys_cons, keys_cons, ih (h.resolve_left (Ne.symm hk))]

/-- Writing an entry adds its key and no other one. -/
@[simp] theorem mem_keys_insert {k : String} :
    k ∈ keys (insert fields key value) ↔ k = key ∨ k ∈ keys fields := by
  -- the key is there and stays, or it is put at the end
  by_cases h : key ∈ keys fields
  · rw [keys_insert_of_mem h]
    constructor
    · exact Or.inr
    · rintro (rfl | hk)
      · exact h
      · exact hk
  · rw [insert_of_notMem h, keys_append, List.mem_append]
    simp [or_comm]

theorem nodup_keys_insert (h : (keys fields).Nodup) : (keys (insert fields key value)).Nodup := by
  by_cases hk : key ∈ keys fields
  · rwa [keys_insert_of_mem hk]
  · rw [insert_of_notMem hk, keys_append]
    exact List.nodup_append.mpr ⟨h, by simp, by rintro a ha b hb rfl; simp_all⟩

/-- An entry of a table after one was written is that one or was there before. -/
theorem mem_of_mem_insert {entry : String × α} (h : entry ∈ insert fields key value) :
    entry = (key, value) ∨ entry ∈ fields := by
  induction fields with
  | nil => exact Or.inl (by simpa [insert] using h)
  | cons first rest ih =>
    obtain ⟨k, v⟩ := first
    rw [insert] at h
    -- the entry that is replaced, or one that stays
    split at h
    · next hk =>
      rcases List.mem_cons.mp h with rfl | h
      · exact Or.inl (by rw [eq_of_beq hk])
      · exact Or.inr (List.mem_cons_of_mem _ h)
    · rcases List.mem_cons.mp h with rfl | h
      · exact Or.inr (List.mem_cons_self ..)
      · exact (ih h).imp_right (List.mem_cons_of_mem _)

theorem nodup_keys_insertAll {additions : Fields α} (h : (keys fields).Nodup) :
    (keys (insertAll fields additions)).Nodup := by
  induction additions generalizing fields with
  | nil => exact h
  | cons entry rest ih => exact ih (nodup_keys_insert h)

@[simp] theorem mem_keys_insertAll {additions : Fields α} {k : String} :
    k ∈ keys (insertAll fields additions) ↔ k ∈ keys fields ∨ k ∈ keys additions := by
  induction additions generalizing fields with
  | nil => simp [insertAll]
  | cons entry rest ih =>
    rw [insertAll, List.foldl_cons, ← insertAll, ih, mem_keys_insert, keys_cons, List.mem_cons,
      or_assoc, or_left_comm]

/-- An entry of a table after all of another were written is from one of the two. -/
theorem mem_of_mem_insertAll {additions : Fields α} {entry : String × α}
    (h : entry ∈ insertAll fields additions) : entry ∈ fields ∨ entry ∈ additions := by
  induction additions generalizing fields with
  | nil => exact Or.inl h
  | cons first rest ih =>
    rcases ih h with h | h
    · rcases mem_of_mem_insert h with rfl | h
      · exact Or.inr (List.mem_cons_self ..)
      · exact Or.inl h
    · exact Or.inr (List.mem_cons_of_mem _ h)

/-- Erasing an entry erases its key. -/
theorem keys_erase (key : String) : keys (erase fields key) = (keys fields).erase key := by
  induction fields with
  | nil => rfl
  | cons first rest ih =>
    obtain ⟨k, v⟩ := first
    rw [erase, keys_cons, List.erase_cons]
    split
    · rfl
    · rw [keys_cons, ih]

/-- Removing a key leaves the values of other keys. -/
theorem get?_erase_of_ne {k : String} (h : k ≠ key) :
    get? (erase fields key) k = get? fields k := by
  induction fields with
  | nil => rfl
  | cons first rest ih =>
    obtain ⟨k', v⟩ := first
    rw [erase]
    split
    · next hk => rw [get?, if_neg (by simpa [eq_of_beq hk] using Ne.symm h)]
    · rw [get?, get?, ih]

theorem get?_erase_self (h : (keys fields).Nodup) : get? (erase fields key) key = none := by
  rw [get?_eq_none, keys_erase]
  exact h.not_mem_erase

theorem erase_sublist (fields : Fields α) (key : String) : (erase fields key).Sublist fields := by
  induction fields with
  | nil => exact .slnil
  | cons first rest ih =>
    obtain ⟨k, v⟩ := first
    rw [erase]
    -- the entry with the key is dropped, any other one is kept
    split
    · exact List.sublist_cons_self ..
    · exact ih.cons_cons _

@[simp] theorem fillGap_concat (init : Fields α) (last : String × α) :
    fillGap (init ++ [last]) = last :: init := by
  simp [fillGap]

/-- The gap is filled from the entries that are left, so all of them stay. -/
theorem fillGap_perm (rest : Fields α) : (fillGap rest).Perm rest := by
  rcases rest.eq_nil_or_concat' with rfl | ⟨init, last, rfl⟩
  · rfl
  · rw [fillGap_concat]
    exact (List.perm_append_singleton last init).symm

/-- Both ways to remove a key leave the same entries. -/
theorem swapErase_perm (fields : Fields α) (key : String) :
    (swapErase fields key).Perm (erase fields key) := by
  induction fields with
  | nil => rfl
  | cons first rest ih =>
    obtain ⟨k, v⟩ := first
    rw [swapErase, erase]
    split
    · exact fillGap_perm rest
    · exact ih.cons _

theorem mem_of_mem_swapErase {entry : String × α} (h : entry ∈ swapErase fields key) :
    entry ∈ fields :=
  (erase_sublist fields key).subset ((swapErase_perm fields key).subset h)

theorem keys_swapErase_perm (fields : Fields α) (key : String) :
    (keys (swapErase fields key)).Perm ((keys fields).erase key) := by
  rw [← keys_erase]
  exact (swapErase_perm fields key).map _

/-- With distinct keys the order makes no difference to what is read. -/
theorem get?_of_perm {others : Fields α} (h : fields.Perm others) (hnodup : (keys fields).Nodup)
    (key : String) : get? fields key = get? others key := by
  have hkeys : (keys fields).Perm (keys others) := h.map _
  cases hget : get? fields key with
  | some value => exact (get?_of_mem (hkeys.nodup hnodup) (h.subset (mem_of_get? hget))).symm
  | none =>
    rw [get?_eq_none, hkeys.mem_iff] at hget
    exact (get?_eq_none.mpr hget).symm

/-- A key that is removed is gone, and the others keep their values. -/
theorem get?_swapErase (h : (keys fields).Nodup) (key k : String) :
    get? (swapErase fields key) k = if k = key then none else get? fields k := by
  have hnodup : (keys (swapErase fields key)).Nodup :=
    (keys_swapErase_perm fields key).symm.nodup (h.erase key)
  rw [get?_of_perm (swapErase_perm fields key) hnodup]
  split
  · next hk =>
    rw [hk]
    exact get?_erase_self h
  · next hk => exact get?_erase_of_ne hk

/-- Whether a key stands at the end of a table or next to it, or is not there: the last entry is no
other one than that behind the gap. -/
def NearEnd (fields : Fields α) (key : String) : Prop :=
  fields.length ≤ (keys fields).idxOf key + 2

/-- The last entry fills the gap.  The order stays exactly if it stood behind the gap. -/
theorem keys_swapErase_eq_iff (h : (keys fields).Nodup) :
    keys (swapErase fields key) = (keys fields).erase key ↔ NearEnd fields key := by
  induction fields with
  | nil => simp [NearEnd, swapErase]
  | cons first rest ih =>
    obtain ⟨k, v⟩ := first
    rw [keys_cons, List.nodup_cons] at h
    rw [swapErase, NearEnd, keys_cons, List.length_cons]
    by_cases hk : k = key
    · subst hk
      rw [if_pos (beq_self_eq_true k), List.erase_cons_head, List.idxOf_cons_self]
      -- the key stands first: nothing is moved if at most one entry stands behind it
      rcases rest with _ | ⟨⟨next, w⟩, others⟩
      · simp [fillGap]
      rcases others.eq_nil_or_concat' with rfl | ⟨init, ⟨last, u⟩, rfl⟩
      · simp [fillGap]
      · -- the last key comes first now, and another one was first
        have hne : last ≠ next := by
          rintro rfl
          simp at h
        rw [← List.cons_append, fillGap_concat]
        simp [hne]
    -- behind another key both positions are one less
    · rw [if_neg (by simpa using hk), List.erase_cons_tail (by simpa using hk),
        List.idxOf_cons_ne _ hk, keys_cons, List.cons.injEq, and_iff_right rfl, ih h.2, NearEnd]
      omega

/-- The first of two tables hides entries of the second. -/
theorem get?_append (fields rest : Fields α) (key : String) :
    get? (fields ++ rest) key = (get? fields key).or (get? rest key) := by
  induction fields with
  | nil => rfl
  | cons entry fields ih =>
    obtain ⟨k, v⟩ := entry
    rw [List.cons_append, get?, get?]
    split
    · rfl
    · exact ih

/-- Values that are changed one by one stay under their keys. -/
theorem get?_map_snd {β : Type} (f : α → β) (fields : Fields α) (key : String) :
    get? (fields.map fun (k, v) => (k, f v)) key = (get? fields key).map f := by
  induction fields with
  | nil => rfl
  | cons entry rest ih =>
    obtain ⟨k, v⟩ := entry
    rw [List.map_cons, get?, get?]
    split
    · rfl
    · exact ih

/-! ## Tables written into others -/

section InsertAll

variable {additions : Fields α}

/-- The keys of two tables in one: those of the first stay in place, and the others of the second
follow in their order. -/
theorem keys_insertAll (h : (keys additions).Nodup) : keys (insertAll fields additions) =
    keys fields ++ (keys additions).filter (· ∉ keys fields) := by
  induction additions generalizing fields with
  | nil => simp [insertAll]
  | cons entry rest ih =>
    obtain ⟨k, v⟩ := entry
    rw [keys_cons, List.nodup_cons] at h
    rw [insertAll, List.foldl_cons, ← insertAll, ih h.2, keys_cons]
    by_cases hk : k ∈ keys fields
    · rw [keys_insert_of_mem hk, List.filter_cons_of_neg (by simpa using hk)]
    · -- a key that was written comes first among the new ones, and none of the others is it
      have hrest : (keys rest).filter (· ∉ keys fields ++ [k]) =
          (keys rest).filter (· ∉ keys fields) := by
        refine List.filter_congr fun other hother => ?_
        have hne : other ≠ k := by
          rintro rfl
          exact h.1 hother
        simp [hne]
      rw [insert_of_notMem hk, keys_append, keys_cons, keys_nil, hrest,
        List.filter_cons_of_pos (by simpa using hk), List.append_assoc, List.singleton_append]

/-- Of two tables in one, the second is read first. -/
theorem get?_insertAll (h : (keys additions).Nodup) (key : String) :
    get? (insertAll fields additions) key = (get? additions key).or (get? fields key) := by
  induction additions generalizing fields with
  | nil => rfl
  | cons entry rest ih =>
    obtain ⟨k, v⟩ := entry
    rw [keys_cons, List.nodup_cons] at h
    rw [insertAll, List.foldl_cons, ← insertAll, ih h.2, get?]
    -- later additions cannot write the key again, since it stands once among them
    by_cases hk : k = key
    · subst hk
      rw [get?_eq_none.mpr h.1, get?_insert_self, if_pos (beq_self_eq_true k)]
      rfl
    · rw [get?_insert_of_ne (Ne.symm hk), if_neg (by simpa using hk)]

/-- Entries with distinct keys are a table as they stand. -/
theorem ofList_eq_self {entries : Fields α} (h : (keys entries).Nodup) :
    ofList entries = entries := by
  refine (ext_get? h ?_ fun key => ?_).symm
  · rw [ofList, keys_insertAll h]
    simp
  · rw [ofList, get?_insertAll h]
    exact (Option.or_none ..).symm

end InsertAll

/-! ## Sorted tables -/

/-- What is written into a sorted table is found there. -/
@[simp] theorem get?_insertSorted_self :
    get? (insertSorted fields key value) key = some value := by
  induction fields with
  | nil => simp [insertSorted, get?]
  | cons entry rest ih =>
    obtain ⟨k, v⟩ := entry
    rw [insertSorted]
    -- the new entry takes the place of one with its key, or stands in front of a larger key, or
    -- later
    split
    · next hk => rw [get?, if_pos hk]
    · next hk =>
      split
      · rw [get?, if_pos (beq_self_eq_true key)]
      · rw [get?, if_neg hk, ih]

/-- Writing into a sorted table leaves other keys as they were. -/
theorem get?_insertSorted_of_ne {k : String} (h : key ≠ k) :
    get? (insertSorted fields key value) k = get? fields k := by
  induction fields with
  | nil => simp [insertSorted, get?, h]
  | cons entry rest ih =>
    obtain ⟨k', v⟩ := entry
    rw [insertSorted]
    -- an entry with the new key is replaced, which other keys do not see
    split
    · next hk =>
      rw [eq_of_beq hk, get?, get?, if_neg (by simpa using h), if_neg (by simpa using h)]
    · split
      · rw [get?, if_neg (by simpa using h)]
      · rw [get?, get?, ih]

/-- Sorting keeps of the entries under one key the last. -/
theorem get?_sorted (fields : Fields α) (key : String) :
    get? (sorted fields) key = get? fields.reverse key := by
  -- generalized over the table that the fold carries along
  suffices hfold : ∀ acc : Fields α,
      get? (fields.foldl (fun acc entry => insertSorted acc entry.1 entry.2) acc) key =
        (get? fields.reverse key).or (get? acc key) by
    exact (hfold []).trans (Option.or_none ..)
  induction fields with
  | nil => exact fun _ => rfl
  | cons entry rest ih =>
    obtain ⟨k, v⟩ := entry
    intro acc
    rw [List.foldl_cons, ih, List.reverse_cons, get?_append]
    by_cases h : k = key
    · subst h
      cases get? rest.reverse k <;> simp [get?]
    · rw [get?_insertSorted_of_ne h]
      cases get? rest.reverse key <;> simp [get?, h]

@[simp] theorem mem_keys_sorted {fields : Fields α} {k : String} :
    k ∈ keys (sorted fields) ↔ k ∈ keys fields := by
  rw [← contains_iff_mem_keys, contains, get?_sorted, ← contains, contains_iff_mem_keys, keys, keys,
    List.map_reverse, List.mem_reverse]

/-- The keys of a sorted table are sorted as names are. -/
theorem keys_insertSorted :
    keys (insertSorted fields key value) = insertName (keys fields) key := by
  induction fields with
  | nil => rfl
  | cons entry rest ih =>
    obtain ⟨k, v⟩ := entry
    rw [insertSorted, keys_cons, insertName]
    -- by the same comparisons as for a list of names
    split
    · rfl
    · split
      · rfl
      · rw [keys_cons, ih]

/-- What is written into a sorted table takes the place of what stands under its key, and all other
entries stay. -/
theorem insertSorted_perm (h : (keys fields).Pairwise (· < ·)) (key : String) (value : α) :
    ∃ rest, fields.Perm ((get? fields key).toList.map (fun v => (key, v)) ++ rest) ∧
      (insertSorted fields key value).Perm ((key, value) :: rest) := by
  induction fields with
  | nil => exact ⟨[], .nil, .refl _⟩
  | cons entry rest ih =>
    obtain ⟨k, v⟩ := entry
    obtain ⟨hfirst, hrest⟩ := List.pairwise_cons.mp h
    rw [insertSorted]
    split
    · next hk =>
      -- the entry of the key is replaced
      obtain rfl := eq_of_beq hk
      exact ⟨rest, by simp [get?], .refl _⟩
    · next hk =>
      split
      · next hlt =>
        -- all other keys are behind the first one
        have hnone : get? ((k, v) :: rest) key = none := by
          rw [get?_eq_none, keys_cons, List.mem_cons, not_or]
          exact ⟨fun heq => hk (by simp [heq]), fun hmem => String.lt_asymm hlt (hfirst key hmem)⟩
        rw [hnone]
        exact ⟨_, .refl _, .refl _⟩
      -- behind a smaller key, which both lists keep
      · obtain ⟨others, hfields, hinserted⟩ := ih hrest
        rw [get?, if_neg hk]
        exact ⟨(k, v) :: others, (hfields.cons _).trans List.perm_middle.symm,
          (hinserted.cons _).trans (.swap ..)⟩

/-- The value of a name in a table of names with their values. -/
theorem get?_map_self {names : List String} (f : String → α) (name : String) :
    get? (names.map fun n => (n, f n)) name = if name ∈ names then some (f name) else none := by
  induction names with
  | nil => rfl
  | cons first rest ih =>
    rw [List.map_cons, get?, ih]
    by_cases h : first = name
    · simp [h]
    · simp [h, Ne.symm h]

/-- An entry is read if all others under its key agree with it. -/
theorem get?_of_agree {entry : String × α} (h : entry ∈ fields)
    (hagree : ∀ other ∈ fields, other.1 = entry.1 → other.2 = entry.2) :
    get? fields entry.1 = some entry.2 := by
  have hkey : contains fields entry.1 = true :=
    contains_iff_mem_keys.mpr (List.mem_map_of_mem h)
  obtain ⟨value, hvalue⟩ := Option.isSome_iff_exists.mp hkey
  have hsame : value = entry.2 := hagree (entry.1, value) (mem_of_get? hvalue) rfl
  rw [hvalue, hsame]

/-- All entries are read exactly if no two of them under one key differ. -/
theorem forall_get?_iff : (∀ entry ∈ fields, get? fields entry.1 = some entry.2) ↔
    ∀ entry ∈ fields, ∀ other ∈ fields, entry.1 = other.1 → entry.2 = other.2 := by
  constructor
  -- entries of one key are both what is found under it
  · intro hread entry hentry other hother hkey
    have hsame := hread entry hentry
    rw [hkey, hread other hother] at hsame
    exact (Option.some.inj hsame).symm
  · intro hagree entry hentry
    apply get?_of_agree hentry
    intro other hother hkey
    exact hagree other hother entry hentry hkey

end ComponentCanvas.Fields

namespace ComponentCanvas

/-- A name that is put among sorted ones joins them. -/
theorem mem_insertName {names : List String} {name n : String} :
    n ∈ insertName names name ↔ n = name ∨ n ∈ names := by
  induction names with
  | nil => simp [insertName]
  | cons first rest ih =>
    rw [insertName]
    split
    · next heq =>
      rw [eq_of_beq heq]
      simp
    · split
      · simp
      · rw [List.mem_cons, ih, List.mem_cons, or_left_comm]

/-- Sorting names loses none and adds none. -/
@[simp] theorem mem_sortedNames {names : List String} {n : String} :
    n ∈ sortedNames names ↔ n ∈ names := by
  suffices h : ∀ sorted, n ∈ names.foldl insertName sorted ↔ n ∈ sorted ∨ n ∈ names by
    simpa [sortedNames] using h []
  induction names with
  | nil => simp
  | cons name rest ih =>
    intro sorted
    rw [List.foldl_cons, ih, mem_insertName, List.mem_cons, or_assoc, or_left_comm]

end ComponentCanvas
