import ComponentCanvas.Document
import ComponentCanvas.Proofs.Fields

/-!
# Edits of a Document

An edit does to each instance what its identifier says, and an addition goes to the end.  So what a
run of edits leaves is known without running it: the additions in their order, each with its own
changes, and without those that are ended later.
-/

namespace ComponentCanvas

/-! ## Bags without null -/

/-- Whether no property of a bag is null. -/
def NoneNull (bag : Bag) : Prop := ∀ property ∈ bag, property.2 ≠ .null

theorem Json.isNull_iff {value : Json} : value.isNull = true ↔ value = .null := by
  cases value <;> simp [Json.isNull]

theorem noneNull_dropNulls (bag : Bag) : NoneNull (dropNulls bag) := by
  intro property h hnull
  have := (List.mem_filter.mp h).2
  simp [hnull, Json.isNull] at this

/-- A change of one property leaves no null at the top: null removes the property. -/
theorem NoneNull.patchField {bag : Bag} (h : NoneNull bag) (key : String) (value : Json) :
    NoneNull (patchField bag key value) := by
  intro property hmem
  rw [ComponentCanvas.patchField] at hmem
  split at hmem
  · exact h property (Fields.mem_of_mem_swapErase hmem)
  · next hvalue =>
    rcases Fields.mem_of_mem_insert hmem with rfl | hmem
    · exact fun hnull => hvalue (Json.isNull_iff.mpr hnull)
    · exact h property hmem

theorem NoneNull.overlay {bag : Bag} (h : NoneNull bag) (changes : Bag) :
    NoneNull (overlay bag changes) := by
  induction changes generalizing bag with
  | nil => exact h
  | cons entry rest ih => exact ih (h.patchField entry.1 entry.2)

namespace Document

/-! ## Edits -/

/-- A change of a document. -/
inductive Edit where
  | add (placed : Instance)
  | update (id : InstanceId) (changes : Bag)
  | move (id : InstanceId) (position : Position)
  | remove (id : InstanceId)
  | clear

/-- What an edit gives back. -/
inductive Returned where
  | added (id : InstanceId)
  | changed
  | removed (placed : Instance)
  | cleared
  | failed (e : DocumentError)

/-- The document after an edit; one that fails leaves it. -/
def edit (document : Document) : Edit → Document × Returned
  | .add placed =>
    let (after, id) := document.add placed
    (after, .added id)
  | .update id changes =>
    match document.update id changes with
    | .ok after => (after, .changed)
    | .error e => (document, .failed e)
  | .move id position =>
    match document.move id position with
    | .ok after => (after, .changed)
    | .error e => (document, .failed e)
  | .remove id =>
    match document.remove id with
    | .ok (after, placed) => (after, .removed placed)
    | .error e => (document, .failed e)
  | .clear => (document.clear, .cleared)

/-- Makes one edit after the other. -/
def run (document : Document) : List Edit → Document × List Returned
  | [] => (document, [])
  | e :: rest =>
    let (between, returned) := document.edit e
    let (final, others) := run between rest
    (final, returned :: others)

theorem run_cons (document : Document) (e : Edit) (rest : List Edit) :
    document.run (e :: rest) =
      (((document.edit e).1.run rest).1,
        (document.edit e).2 :: ((document.edit e).1.run rest).2) := rfl

/-- The identifiers of the instances, in order. -/
def ids (document : Document) : List InstanceId := document.instances.map (·.1)

theorem get?_eq_none {document : Document} {id : InstanceId} :
    document.get? id = none ↔ id ∉ document.ids := by
  rw [get?, List.lookup_eq_none_iff, ids, List.mem_map, not_exists]
  refine forall_congr' fun entry => ?_
  rw [not_and, bne_iff_ne, ne_comm]

/-! ## What an edit does to an instance -/

namespace Edit

/-- The identifier of the instance that an edit is about, if it is about one. -/
def target? : Edit → Option InstanceId
  | .update id _ | .move id _ | .remove id => some id
  | .add _ | .clear => none

/-- Whether an edit ends the instance with an identifier. -/
def ends (id : InstanceId) : Edit → Bool
  | .remove other => other == id
  | .clear => true
  | .add _ | .update _ _ | .move _ _ => false

/-- The instance with an identifier after an edit that does not end it. -/
def change (id : InstanceId) (placed : Instance) : Edit → Instance
  | .update other changes =>
    if other = id then { placed with properties := overlay placed.properties changes } else placed
  | .move other position => if other = id then { placed with position } else placed
  | .add _ | .remove _ | .clear => placed

/-- The instance that an edit adds when the numbers up to the given one have been given out. -/
def additions (last : Nat) : Edit → List (InstanceId × Instance)
  | .add placed => [(⟨last + 1⟩, { placed with properties := dropNulls placed.properties })]
  | .update _ _ | .move _ _ | .remove _ | .clear => []

/-- An edit of one instance adds none. -/
theorem additions_of_target {e : Edit} {id : InstanceId} (h : e.target? = some id) (last : Nat) :
    e.additions last = [] := by
  cases e with
  | add _ | clear => cases h
  | update _ _ | move _ _ | remove _ => rfl

end Edit

/-- What edits make of an instance, unless one of them ends it. -/
def fate? (edits : List Edit) : InstanceId × Instance → Option (InstanceId × Instance)
  | (id, placed) =>
    if edits.any (·.ends id) then none else some (id, edits.foldl (Edit.change id) placed)

/-- What edits leave of the instances that they add, when the numbers up to the given one have been
given out before. -/
def survivors (last : Nat) : List Edit → List (InstanceId × Instance)
  | [] => []
  | e :: later =>
    (e.additions last).filterMap (fate? later) ++
      survivors (last + (e.additions last).length) later

@[simp] theorem fate?_nil (entry : InstanceId × Instance) : fate? [] entry = some entry := rfl

theorem fate?_cons (e : Edit) (later : List Edit) (entry : InstanceId × Instance) :
    fate? (e :: later) entry = (fate? [e] entry).bind (fate? later) := by
  obtain ⟨id, placed⟩ := entry
  by_cases h : e.ends id = true <;> simp [fate?, h]

/-- An edit of one instance leaves all others. -/
theorem fate?_of_ne {e : Edit} {id : InstanceId} (h : e.target? = some id)
    {entry : InstanceId × Instance} (hne : entry.1 ≠ id) : fate? [e] entry = some entry := by
  obtain ⟨other, placed⟩ := entry
  cases e <;> simp_all [Edit.target?, fate?, Edit.ends, Edit.change, ne_comm]

/-- The identifiers of what edits leave. -/
theorem map_fst_fate? (edits : List Edit) (entries : List (InstanceId × Instance)) :
    (entries.filterMap (fate? edits)).map (·.1) =
      (entries.map (·.1)).filter fun id => !edits.any (·.ends id) := by
  induction entries with
  | nil => rfl
  | cons entry rest ih =>
    obtain ⟨id, placed⟩ := entry
    rw [List.map_cons, List.filter_cons, List.filterMap_cons, fate?]
    cases edits.any (·.ends id) <;> simp [ih]

private theorem filterMap_fate?_of_forall {edits : List Edit}
    {entries : List (InstanceId × Instance)}
    (h : ∀ entry ∈ entries, fate? edits entry = some entry) :
    entries.filterMap (fate? edits) = entries :=
  (List.filterMap_congr h).trans List.filterMap_some

variable {document : Document}

/-! ## One edit -/

theorem edit_of_unknown {e : Edit} {id : InstanceId} (htarget : e.target? = some id)
    (h : document.get? id = none) :
    document.edit e = (document, .failed (.unknownInstance id)) := by
  cases e <;> simp_all [Edit.target?, edit, update, move, modify, remove]

/-- An edit fails exactly if it is about an instance that is not there. -/
theorem edit_failed_iff {e : Edit} {error : DocumentError} :
    (document.edit e).2 = .failed error ↔
      ∃ id, e.target? = some id ∧ document.get? id = none ∧ error = .unknownInstance id := by
  constructor
  · intro h
    -- additions and clearing never fail, and any other edit fails only if its instance is missing
    cases htarget : e.target? with
    | none => cases e <;> simp_all [Edit.target?, edit]
    | some id =>
      cases hget : document.get? id with
      | none =>
        rw [edit_of_unknown htarget hget] at h
        exact ⟨id, rfl, hget, (Returned.failed.inj h).symm⟩
      | some placed =>
        cases e <;> simp_all [Edit.target?, edit, update, move, modify, remove]
  · rintro ⟨id, htarget, hget, rfl⟩
    rw [edit_of_unknown htarget hget]

/-- An instance that is there is changed. -/
theorem modify_of_get? {id : InstanceId} {placed : Instance}
    (h : document.get? id = some placed) (change : Instance → Instance) :
    ∃ after, document.modify id change = .ok after ∧ after.get? id = some (change placed) := by
  rw [modify, h]
  refine ⟨_, rfl, ?_⟩
  rw [get?] at h ⊢
  dsimp only
  -- only the list of instances matters, and the first one under the id is changed
  generalize document.instances = entries at h ⊢
  induction entries with
  | nil => cases h
  | cons entry rest ih =>
    obtain ⟨other, found⟩ := entry
    rw [List.map_cons, List.lookup_cons]
    rw [List.lookup_cons] at h
    by_cases hid : id = other
    · subst hid
      obtain rfl : found = placed := by simpa using h
      simp
    · have hne : (id == other) = false := by simpa using hid
      rw [hne] at h ⊢
      exact ih h

/-- Helper: changing one instance gives each its fate if the edit is about that one. -/
private theorem filterMap_fate?_of_change (e : Edit) {id : InstanceId}
    (htarget : e.target? = some id) (hends : e.ends id = false) {change : Instance → Instance}
    (hchange : ∀ placed, e.change id placed = change placed)
    (entries : List (InstanceId × Instance)) :
    entries.filterMap (fate? [e]) =
      entries.map fun (other, placed) =>
        (other, if other == id then change placed else placed) := by
  rw [← List.filterMap_eq_map]
  refine List.filterMap_congr fun entry _ => ?_
  obtain ⟨other, placed⟩ := entry
  by_cases h : other = id
  · subst h
    simp [fate?, hends, hchange]
  · rw [fate?_of_ne htarget h]
    simp [h]

/-- Each instance has its fate, and an addition goes to the end. -/
theorem instances_edit (document : Document) (e : Edit) :
    (document.edit e).1.instances =
      document.instances.filterMap (fate? [e]) ++ e.additions document.lastNumber := by
  by_cases hunknown : ∃ id, e.target? = some id ∧ document.get? id = none
  · -- an edit of an instance that is not there does nothing, and is about none of the others
    obtain ⟨id, htarget, hget⟩ := hunknown
    have hothers : ∀ entry ∈ document.instances, fate? [e] entry = some entry := by
      intro entry hentry
      apply fate?_of_ne htarget
      rintro rfl
      exact get?_eq_none.mp hget (List.mem_map_of_mem hentry)
    rw [edit_of_unknown htarget hget, filterMap_fate?_of_forall hothers,
      Edit.additions_of_target htarget, List.append_nil]
  · have hknown : ∀ id, e.target? = some id → ∃ placed, document.get? id = some placed :=
      fun id htarget => Option.ne_none_iff_exists'.mp fun hget => hunknown ⟨id, htarget, hget⟩
    cases e with
    | add placed =>
      have hkept : document.instances.filterMap (fate? [.add placed]) = document.instances :=
        filterMap_fate?_of_forall fun _ _ => rfl
      rw [hkept]
      rfl
    | clear => simp [edit, clear, fate?, Edit.ends, Edit.additions]
    | update id changes =>
      obtain ⟨placed, hget⟩ := hknown id rfl
      rw [filterMap_fate?_of_change (.update id changes) rfl rfl fun placed => if_pos rfl]
      simp only [edit, update, modify, hget, Edit.additions, List.append_nil]
    | move id position =>
      obtain ⟨placed, hget⟩ := hknown id rfl
      rw [filterMap_fate?_of_change (.move id position) rfl rfl fun placed => if_pos rfl]
      simp only [edit, move, modify, hget, Edit.additions, List.append_nil]
    -- the instance is filtered out, and no other one changes
    | remove id =>
      obtain ⟨placed, hget⟩ := hknown id rfl
      simp only [edit, remove, hget, Edit.additions, List.append_nil]
      rw [← List.filterMap_eq_filter]
      refine List.filterMap_congr fun entry _ => ?_
      obtain ⟨other, placed⟩ := entry
      by_cases h : other = id
      · simp [fate?, Edit.ends, Option.guard, h]
      · simp [fate?, Edit.ends, Edit.change, Option.guard, h, Ne.symm h]

/-- Only an addition takes a number. -/
theorem lastNumber_edit (document : Document) (e : Edit) :
    (document.edit e).1.lastNumber =
      document.lastNumber + (e.additions document.lastNumber).length := by
  cases e with
  | add placed => rfl
  | clear => rfl
  -- the other edits succeed or fail, and take no number in either case
  | update id changes =>
    simp only [edit, update, modify, Edit.additions]
    cases document.get? id <;> rfl
  | move id position =>
    simp only [edit, move, modify, Edit.additions]
    cases document.get? id <;> rfl
  | remove id =>
    simp only [edit, remove, Edit.additions]
    cases document.get? id <;> rfl

/-- The identifiers of what an edit ends go, and that of an addition comes at the end. -/
theorem ids_edit (document : Document) (e : Edit) :
    (document.edit e).1.ids =
      document.ids.filter (fun id => !e.ends id) ++
        (e.additions document.lastNumber).map (·.1) := by
  rw [ids, instances_edit, List.map_append, map_fst_fate?, ids]
  simp

/-- An edit of one instance leaves the others, in their order. -/
theorem filter_ne_edit {e : Edit} {id : InstanceId} (htarget : e.target? = some id) :
    (document.edit e).1.instances.filter (·.1 != id) =
      document.instances.filter (·.1 != id) := by
  rw [instances_edit, Edit.additions_of_target htarget, List.append_nil]
  induction document.instances with
  | nil => rfl
  | cons entry rest ih =>
    by_cases h : entry.1 = id
    · -- the entry is passed over before the edit, and after it if it is still there
      rw [List.filter_cons_of_neg (by simp [h]), List.filterMap_cons, ← ih, fate?]
      split
      · rfl
      · next after hafter =>
        split at hafter
        · cases hafter
        · obtain rfl := Option.some.inj hafter
          exact List.filter_cons_of_neg (by simp [h])
    · have hkept : fate? [e] entry = some entry := fate?_of_ne htarget h
      rw [List.filterMap_cons_some hkept, List.filter_cons_of_pos (by simp [h]),
        List.filter_cons_of_pos (by simp [h]), ih]

/-! ## What every edit keeps -/

theorem mem_additions {e : Edit} {last : Nat} {entry : InstanceId × Instance}
    (h : entry ∈ e.additions last) :
    entry.1.number = last + 1 ∧ NoneNull entry.2.properties := by
  cases e <;> simp only [Edit.additions, List.not_mem_nil, List.mem_singleton] at h
  subst h
  exact ⟨rfl, noneNull_dropNulls _⟩

/-- No change puts a null at the top of the properties. -/
theorem noneNull_change {placed : Instance} (h : NoneNull placed.properties) (id : InstanceId)
    (e : Edit) : NoneNull (e.change id placed).properties := by
  cases e with
  | add _ | remove _ | clear => exact h
  -- a patch removes what it sets to null, and other instances are left alone
  | update other changes =>
    rw [Edit.change]
    split
    · exact h.overlay changes
    · exact h
  | move other position =>
    rw [Edit.change]
    split <;> exact h

/-- What holds of a document that edits have made: its identifiers ascend up to the last number that
was given out, and no property is null. -/
structure Sound (document : Document) : Prop where
  ascending : (document.ids.map (·.number)).Pairwise (· < ·)
  given : ∀ id ∈ document.ids, id.number ≤ document.lastNumber
  noneNull : ∀ entry ∈ document.instances, NoneNull entry.2.properties

theorem sound_empty : Sound {} where
  ascending := .nil
  given := nofun
  noneNull := nofun

/-- Every edit keeps a document sound. -/
theorem Sound.edit (h : document.Sound) (e : Edit) : (document.edit e).1.Sound where
  ascending := by
    rw [ids_edit, List.map_append, List.pairwise_append]
    refine ⟨?_, ?_, ?_⟩
    -- the ids that stay keep their order, and a new one is larger than all of them
    · exact h.ascending.sublist ((List.filter_sublist ..).map _)
    · cases e <;> simp [Edit.additions]
    · intro n hn n' hn'
      obtain ⟨id, hid, rfl⟩ := List.mem_map.mp hn
      obtain ⟨_, hadded, rfl⟩ := List.mem_map.mp hn'
      obtain ⟨entry, hentry, rfl⟩ := List.mem_map.mp hadded
      -- the number of the new instance has not been given before
      have hgiven := h.given id (List.mem_of_mem_filter hid)
      have hnumber := (mem_additions hentry).1
      omega
  given := by
    intro id hid
    rw [ids_edit, List.mem_append] at hid
    rw [lastNumber_edit]
    rcases hid with hid | hid
    · have hgiven := h.given id (List.mem_of_mem_filter hid)
      omega
    · obtain ⟨entry, hentry, rfl⟩ := List.mem_map.mp hid
      have hnumber := (mem_additions hentry).1
      have hlength := List.length_pos_of_mem hentry
      omega
  noneNull := by
    intro entry hentry
    rw [instances_edit, List.mem_append] at hentry
    -- an instance that stays may have been changed
    rcases hentry with hentry | hentry
    · obtain ⟨⟨id, placed⟩, hbefore, hfate⟩ := List.mem_filterMap.mp hentry
      rw [fate?] at hfate
      split at hfate
      · cases hfate
      · obtain rfl := Option.some.inj hfate
        exact noneNull_change (h.noneNull _ hbefore) id e
    · exact (mem_additions hentry).2

/-- An identifier that was given out and is no longer there. -/
def Spent (document : Document) (id : InstanceId) : Prop :=
  id.number ≤ document.lastNumber ∧ id ∉ document.ids

/-- An identifier that was given out is not added. -/
theorem notMem_additions {e : Edit} {last : Nat} {id : InstanceId} (h : id.number ≤ last) :
    id ∉ (e.additions last).map (·.1) := by
  intro hid
  obtain ⟨entry, hentry, rfl⟩ := List.mem_map.mp hid
  have hnumber := (mem_additions hentry).1
  omega

/-- No edit brings an identifier back. -/
theorem Spent.edit {id : InstanceId} (h : document.Spent id) (e : Edit) :
    (document.edit e).1.Spent id := by
  obtain ⟨hgiven, hgone⟩ := h
  refine ⟨?_, ?_⟩
  · rw [lastNumber_edit]
    omega
  · rw [ids_edit, List.mem_append, not_or]
    exact ⟨fun hid => hgone (List.mem_of_mem_filter hid), notMem_additions hgiven⟩

/-- What an edit ends is spent, if its number was given out. -/
theorem spent_of_ends {e : Edit} {id : InstanceId} (hends : e.ends id = true)
    (hgiven : id.number ≤ document.lastNumber) : (document.edit e).1.Spent id := by
  refine ⟨?_, ?_⟩
  · rw [lastNumber_edit]
    omega
  · rw [ids_edit, List.mem_append, not_or]
    exact ⟨by simp [hends], notMem_additions hgiven⟩

/-! ## Runs -/

/-- The identifiers among what edits give back. -/
def addedIds (returned : List Returned) : List InstanceId :=
  returned.filterMap fun
    | .added id => some id
    | _ => none

/-- Whether an edit is an addition. -/
def Edit.isAdd : Edit → Bool
  | .add _ => true
  | .update _ _ | .move _ _ | .remove _ | .clear => false

/-- An addition gives the next id, and no other edit gives one. -/
theorem addedIds_cons_edit (document : Document) (e : Edit) (others : List Returned) :
    addedIds ((document.edit e).2 :: others) =
      (if e.isAdd then [⟨document.lastNumber + 1⟩] else []) ++ addedIds others := by
  cases e with
  | add placed => rfl
  | clear => rfl
  -- the other edits succeed or fail, and give no id in either case
  | update id changes =>
    simp only [edit, update, modify, Edit.isAdd]
    cases document.get? id <;> rfl
  | move id position =>
    simp only [edit, move, modify, Edit.isAdd]
    cases document.get? id <;> rfl
  | remove id =>
    simp only [edit, remove, Edit.isAdd]
    cases document.get? id <;> rfl

theorem length_additions (e : Edit) (last : Nat) :
    (e.additions last).length = if e.isAdd then 1 else 0 := by
  cases e <;> rfl

/-- The numbers are given out one after the other. -/
theorem addedIds_run (document : Document) (edits : List Edit) :
    addedIds (document.run edits).2 =
      (List.range' (document.lastNumber + 1) (edits.countP Edit.isAdd)).map InstanceId.mk := by
  induction edits generalizing document with
  | nil => rfl
  | cons e rest ih =>
    rw [run_cons, addedIds_cons_edit, ih, lastNumber_edit, length_additions, List.countP_cons]
    cases e.isAdd
    · simp
    · simp [List.range'_succ]

theorem lastNumber_run (document : Document) (edits : List Edit) :
    (document.run edits).1.lastNumber = document.lastNumber + edits.countP Edit.isAdd := by
  induction edits generalizing document with
  | nil => rfl
  | cons e rest ih =>
    rw [run_cons, ih, lastNumber_edit, length_additions, List.countP_cons]
    omega

/-- The instances after a run are those before it and those that it adds, each with its fate. -/
theorem instances_run (document : Document) (edits : List Edit) :
    (document.run edits).1.instances =
      document.instances.filterMap (fate? edits) ++ survivors document.lastNumber edits := by
  induction edits generalizing document with
  | nil =>
    have hkept : document.instances.filterMap (fate? []) = document.instances :=
      filterMap_fate?_of_forall fun _ _ => rfl
    rw [hkept, survivors, List.append_nil]
    rfl
  -- what the first edit leaves or adds meets the fate of the later edits
  | cons e rest ih =>
    have hfate : (fun entry => (fate? [e] entry).bind (fate? rest)) = fate? (e :: rest) :=
      funext fun entry => (fate?_cons e rest entry).symm
    rw [run_cons, ih, instances_edit, List.filterMap_append, List.filterMap_filterMap, hfate,
      lastNumber_edit, survivors, List.append_assoc]

theorem Sound.run (h : document.Sound) (edits : List Edit) : (document.run edits).1.Sound := by
  induction edits generalizing document with
  | nil => exact h
  | cons e rest ih => exact ih (h.edit e)

theorem Spent.run {id : InstanceId} (h : document.Spent id) (edits : List Edit) :
    (document.run edits).1.Spent id := by
  induction edits generalizing document with
  | nil => exact h
  | cons e rest ih => exact ih (h.edit e)

end Document

end ComponentCanvas
