import ComponentCanvas.Payload.Merging
import ComponentCanvas.Proofs.Fields
import Mathlib.Data.List.Dedup
import Mathlib.Data.List.Forall2
import Mathlib.Data.List.Induction

/-!
# Merged Batches

What stays of a batch stands under distinct types: those that are picked come in the order in which
they are picked last, and behind them the other ones that are defined, in the order in which they
are defined last.  A type has its last definition, or if there is none its last pick; so what the
picks of a type that is defined ask for makes no difference.
-/

namespace ComponentCanvas.Payload

/-! ## The last item of each key -/

section LastOfEach

variable {α : Type} {key : α → String}

/-- The last item with a key. -/
def lastWith? (key : α → String) (items : List α) (k : String) : Option α :=
  items.reverse.find? (key · == k)

/-- Another item stands behind all that are kept, in place of the one with its key. -/
theorem lastOfEach_concat (items : List α) (item : α) :
    lastOfEach key (items ++ [item]) =
      Fields.erase (lastOfEach key items) (key item) ++ [(key item, item)] := by
  rw [lastOfEach, List.foldl_append]
  rfl

/-- Of a name that comes once more only the new place counts. -/
theorem dedup_concat (names : List String) (name : String) :
    (names ++ [name]).dedup = names.dedup.erase name ++ [name] := by
  induction names with
  | nil => simp
  | cons first rest ih =>
    rw [List.cons_append]
    by_cases hmem : first ∈ rest
    · rw [List.dedup_cons_of_mem (List.mem_append_left _ hmem), List.dedup_cons_of_mem hmem, ih]
    · rw [List.dedup_cons_of_notMem hmem]
      by_cases hname : first = name
      · -- the place that the name had so far is given up
        subst hname
        have hnotMem : first ∉ rest.dedup := by rwa [List.mem_dedup]
        rw [List.dedup_cons_of_mem (by simp), ih, List.erase_cons_head,
          List.erase_of_not_mem hnotMem]
      · rw [List.dedup_cons_of_notMem (by simp [hmem, hname]), ih,
          List.erase_cons_tail (by simpa using hname), List.cons_append]

/-- The keys stand in the order of their last items. -/
theorem keys_lastOfEach (items : List α) :
    Fields.keys (lastOfEach key items) = (items.map key).dedup := by
  induction items using List.reverseRecOn with
  | nil => rfl
  | append_singleton items item ih =>
    rw [lastOfEach_concat, Fields.keys_append, Fields.keys_erase, ih, List.map_append,
      List.map_singleton, dedup_concat]
    rfl

theorem nodup_keys_lastOfEach (key : α → String) (items : List α) :
    (Fields.keys (lastOfEach key items)).Nodup := by
  rw [keys_lastOfEach]
  exact List.nodup_dedup _

/-- A key has its last item. -/
theorem get?_lastOfEach (items : List α) (k : String) :
    Fields.get? (lastOfEach key items) k = lastWith? key items k := by
  induction items using List.reverseRecOn with
  | nil => rfl
  | append_singleton items item ih =>
    rw [lastOfEach_concat, Fields.get?_append, lastWith?, List.reverse_append,
      List.reverse_singleton, List.singleton_append, List.find?_cons]
    by_cases hk : key item = k
    · subst hk
      -- the item of this key that was kept is gone, since there was only one
      rw [Fields.get?_erase_self (nodup_keys_lastOfEach key items), Option.none_or]
      simp [Fields.get?]
    · have hnone : Fields.get? [(key item, item)] k = none := by simp [Fields.get?, hk]
      rw [Fields.get?_erase_of_ne (Ne.symm hk), ih, hnone, Option.or_none, lastWith?,
        beq_eq_false_iff_ne.mpr hk]

theorem key_eq_of_mem_lastOfEach {items : List α} {k : String} {item : α}
    (h : (k, item) ∈ lastOfEach key items) : k = key item := by
  have hget := Fields.get?_of_mem (nodup_keys_lastOfEach key items) h
  rw [get?_lastOfEach, lastWith?] at hget
  have hkey : (key item == k) = true := List.find?_some (p := (key · == k)) hget
  exact (eq_of_beq hkey).symm

/-- There is a last item with each key that some item has, and with no other one. -/
theorem lastWith?_eq_none {items : List α} {k : String} :
    lastWith? key items k = none ↔ k ∉ items.map key := by
  rw [← get?_lastOfEach, Fields.get?_eq_none, keys_lastOfEach, List.mem_dedup]

/-- Items without the key make no difference to the last one with it. -/
theorem lastWith?_congr {items others : List α} {k : String}
    (h : List.Forall₂ (fun item other => item = other ∨ key item ≠ k ∧ key other ≠ k)
      items others) :
    lastWith? key items k = lastWith? key others k := by
  rw [← List.forall₂_reverse_iff] at h
  rw [lastWith?, lastWith?]
  generalize items.reverse = backwards, others.reverse = backwards' at h
  induction h with
  | nil => rfl
  | @cons item other _ _ hfirst _ ih =>
    rw [List.find?_cons, List.find?_cons]
    -- from behind, the first pair is equal or is passed over on both sides
    rcases hfirst with rfl | ⟨hitem, hother⟩
    · rw [ih]
    · rw [beq_eq_false_iff_ne.mpr hitem, beq_eq_false_iff_ne.mpr hother, ih]

end LastOfEach

/-! ## What stays of a batch -/

/-- The type that a choice asks for or makes. -/
def choiceKey (catalog : Catalog) : Choice → String
  | .picked pick => pickKey catalog pick
  | .defined definition => definitionKey definition

variable {catalog : Catalog} {picks : List Pick} {definitions : List Definition}

private theorem keys_map_snd {α β : Type} (f : α → β) (fields : Fields α) :
    Fields.keys (fields.map fun (key, a) => (key, f a)) = Fields.keys fields := by
  simp [Fields.keys]

/-- What stays of a batch stays under distinct keys. -/
theorem nodup_keys_merge : (Fields.keys (merge catalog picks definitions)).Nodup := by
  apply Fields.nodup_keys_insertAll
  rw [keys_map_snd]
  exact nodup_keys_lastOfEach (pickKey catalog) picks

/-- What stays of a batch stays under the type that it asks for or makes. -/
theorem key_of_mem_merge {key : String} {choice : Choice}
    (h : (key, choice) ∈ merge catalog picks definitions) : key = choiceKey catalog choice := by
  rcases Fields.mem_of_mem_insertAll h with h | h
  -- a pick or a definition, each under its own key
  · obtain ⟨⟨k, pick⟩, hmem, heq⟩ := List.mem_map.mp h
    obtain ⟨rfl, rfl⟩ := Prod.mk.inj heq
    have hkey : k = pickKey catalog pick := key_eq_of_mem_lastOfEach hmem
    exact hkey
  · obtain ⟨⟨k, definition⟩, hmem, heq⟩ := List.mem_map.mp h
    obtain ⟨rfl, rfl⟩ := Prod.mk.inj heq
    have hkey : k = definitionKey definition := key_eq_of_mem_lastOfEach hmem
    exact hkey

/-- The types of a batch: those that are picked in the order of their last picks, and behind them
the other ones in the order of their last definitions. -/
def mergedTypes (catalog : Catalog) (picks : List Pick) (definitions : List Definition) :
    List String :=
  let picked := picks.map (pickKey catalog)
  picked.dedup ++ (definitions.map definitionKey).dedup.filter (· ∉ picked)

/-- What a type of a batch is bound to: its last definition, or else its last pick. -/
def mergedChoice? (catalog : Catalog) (picks : List Pick) (definitions : List Definition)
    (typeId : String) : Option Choice :=
  ((lastWith? definitionKey definitions typeId).map .defined).or
    ((lastWith? (pickKey catalog) picks typeId).map .picked)

theorem keys_merge :
    Fields.keys (merge catalog picks definitions) = mergedTypes catalog picks definitions := by
  have hnodup := nodup_keys_lastOfEach definitionKey definitions
  rw [← keys_map_snd Choice.defined] at hnodup
  rw [merge, Fields.keys_insertAll hnodup, keys_map_snd, keys_map_snd, keys_lastOfEach,
    keys_lastOfEach, mergedTypes]
  simp only [List.mem_dedup]

theorem get?_merge (typeId : String) :
    Fields.get? (merge catalog picks definitions) typeId =
      mergedChoice? catalog picks definitions typeId := by
  have hnodup := nodup_keys_lastOfEach definitionKey definitions
  rw [← keys_map_snd Choice.defined] at hnodup
  rw [merge, Fields.get?_insertAll hnodup, Fields.get?_map_snd, Fields.get?_map_snd,
    get?_lastOfEach, get?_lastOfEach, mergedChoice?]

/-! ## Picks of a type that is defined -/

/-- Whether two picks ask for one type and differ at most in the properties and the category that
they bring, and that only if the type is defined. -/
def Replaceable (catalog : Catalog) (definitions : List Definition) (pick other : Pick) : Prop :=
  pick.typeId = other.typeId ∧
    (pickKey catalog pick ∈ definitions.map definitionKey ∨ pick = other)

theorem pickKey_congr {pick other : Pick} (h : pick.typeId = other.typeId) :
    pickKey catalog pick = pickKey catalog other := by
  rw [pickKey, pickKey, h]

section Replaceable

variable {others : List Pick}
  (h : List.Forall₂ (Replaceable catalog definitions) picks others)

include h

theorem map_pickKey_of_replaceable :
    picks.map (pickKey catalog) = others.map (pickKey catalog) := by
  induction h with
  | nil => rfl
  | cons hfirst _ ih => rw [List.map_cons, List.map_cons, pickKey_congr hfirst.1, ih]

/-- Replacing picks of a type that is defined changes no choice. -/
theorem mergedChoice?_of_replaceable (typeId : String) :
    mergedChoice? catalog picks definitions typeId =
      mergedChoice? catalog others definitions typeId := by
  rw [mergedChoice?, mergedChoice?]
  cases hdefinition : lastWith? definitionKey definitions typeId with
  | some definition => rfl
  | none =>
    -- the type is not defined, so the picks of it are the same
    rw [lastWith?_eq_none] at hdefinition
    rw [lastWith?_congr (h.imp fun pick other hpick => ?_)]
    rcases hpick.2 with hdefined | rfl
    · refine .inr ⟨?_, ?_⟩
      · rintro rfl
        exact hdefinition hdefined
      · rintro rfl
        exact hdefinition (pickKey_congr hpick.1 ▸ hdefined)
    · exact .inl rfl

end Replaceable

/-- What stays of a batch is determined by the last occurrences of its types: it stands under
distinct types, those that are picked in the order of their last picks and then the other ones in
the order of their last definitions, and a type has its last definition, or if there is none its
last pick.  The properties and categories of picks of a type that is defined make no difference. -/
theorem merge_last_occurrences (catalog : Catalog) (picks : List Pick)
    (definitions : List Definition) :
    Fields.keys (merge catalog picks definitions) = mergedTypes catalog picks definitions ∧
    (Fields.keys (merge catalog picks definitions)).Nodup ∧
    (∀ typeId, Fields.get? (merge catalog picks definitions) typeId =
      mergedChoice? catalog picks definitions typeId) ∧
    ∀ others, List.Forall₂ (Replaceable catalog definitions) picks others →
      merge catalog others definitions = merge catalog picks definitions := by
  refine ⟨keys_merge, nodup_keys_merge, get?_merge, fun others h => ?_⟩
  -- both batches have the same types in the same order, and each has the same choice in both
  refine (Fields.ext_get? nodup_keys_merge ?_ fun typeId => ?_).symm
  · rw [keys_merge, keys_merge, mergedTypes, mergedTypes, map_pickKey_of_replaceable h]
  · rw [get?_merge, get?_merge, mergedChoice?_of_replaceable h]

end ComponentCanvas.Payload
