import ComponentCanvas.Proofs.Document

/-!
# Patched Bags

A bag holds after a patch what the patch says, and what the patch does not speak of stays.  The
order of the properties is not that simple: the last one moves to where one is removed.  So the
properties stay in order if each is removed at the end or next to it, and otherwise one may come too
early.
-/

namespace ComponentCanvas

variable {bag : Bag} {key : String} {value : Json}

/-! ## What a patch leaves -/

/-- The value of a property after a patch, given the one before and what the patch says of it. -/
def patchedValue (old : Option Json) : Option Json → Option Json
  | none => old
  | some value => if value.isNull then none else some value

theorem get?_dropNulls (h : (Fields.keys bag).Nodup) (key : String) :
    Fields.get? (dropNulls bag) key = (Fields.get? bag key).filter fun value => !value.isNull :=
  Fields.get?_filter h (fun value => !value.isNull) key

theorem nodup_keys_patchField (h : (Fields.keys bag).Nodup) (key : String) (value : Json) :
    (Fields.keys (patchField bag key value)).Nodup := by
  rw [patchField]
  split
  · exact (Fields.keys_swapErase_perm bag key).symm.nodup (h.erase key)
  · exact Fields.nodup_keys_insert h

/-- The value of a property after one change. -/
theorem get?_patchField (h : (Fields.keys bag).Nodup) (key : String) (value : Json) (k : String) :
    Fields.get? (patchField bag key value) k =
      patchedValue (Fields.get? bag k) (Fields.get? [(key, value)] k) := by
  rw [patchField, Fields.get?, Fields.get?]
  by_cases hk : key = k
  · subst hk
    -- null takes the property out, which may move another one but does not change it
    split <;> simp_all [patchedValue, Fields.get?_swapErase]
  · have hne : (key == k) = false := by simpa using hk
    rw [hne]
    split
    · rw [Fields.get?_swapErase h, if_neg (Ne.symm hk)]
      rfl
    · exact Fields.get?_insert_of_ne (Ne.symm hk)

theorem overlay_cons (bag : Bag) (key : String) (value : Json) (rest : Bag) :
    overlay bag ((key, value) :: rest) = overlay (patchField bag key value) rest := rfl

theorem overlay_append (bag before rest : Bag) :
    overlay bag (before ++ rest) = overlay (overlay bag before) rest := List.foldl_append ..

theorem nodup_keys_overlay (h : (Fields.keys bag).Nodup) (changes : Bag) :
    (Fields.keys (overlay bag changes)).Nodup := by
  induction changes generalizing bag with
  | nil => exact h
  | cons entry rest ih => exact ih (nodup_keys_patchField h entry.1 entry.2)

/-- Of all that a patch says of a property the last counts. -/
theorem get?_overlay (h : (Fields.keys bag).Nodup) (changes : Bag) (k : String) :
    Fields.get? (overlay bag changes) k =
      patchedValue (Fields.get? bag k) (Fields.get? changes.reverse k) := by
  induction changes generalizing bag with
  | nil => rfl
  | cons entry rest ih =>
    obtain ⟨key, value⟩ := entry
    rw [overlay_cons, ih (nodup_keys_patchField h key value), get?_patchField h, List.reverse_cons,
      Fields.get?_append]
    cases Fields.get? rest.reverse k <;> rfl

/-! ## The order of the properties -/

/-- The keys that a patch nulls. -/
def nulledKeys (changes : Bag) : List String := Fields.keys (changes.filter (·.2.isNull))

/-- The keys that a patch leaves if it keeps their order: those that it does not null, and behind
them its own that are new. -/
def orderlyKeys (keys : List String) (changes : Bag) : List String :=
  keys.filter (· ∉ nulledKeys changes) ++ (Fields.keys (dropNulls changes)).filter (· ∉ keys)

/-- The keys that one change leaves if it keeps their order. -/
def orderlyStep (keys : List String) (key : String) (value : Json) : List String :=
  if value.isNull then keys.erase key else if key ∈ keys then keys else keys ++ [key]

/-- Whether a patch removes each property at the end or next to it. -/
def RemovesNearEnd : Bag → Bag → Prop
  | _, [] => True
  | bag, (key, value) :: rest =>
    (value.isNull = true → Fields.NearEnd bag key) ∧ RemovesNearEnd (patchField bag key value) rest

theorem nulledKeys_of_noneNull {changes : Bag} (h : NoneNull changes) :
    nulledKeys changes = [] := by
  rw [nulledKeys, List.filter_eq_nil_iff.mpr fun entry hentry => by
    simpa [Json.isNull_iff] using h entry hentry]
  rfl

/-- Without null nothing is removed from anywhere. -/
theorem removesNearEnd_of_noneNull {changes : Bag} (h : NoneNull changes) :
    RemovesNearEnd bag changes := by
  induction changes generalizing bag with
  | nil => trivial
  | cons entry rest ih =>
    obtain ⟨key, value⟩ := entry
    refine ⟨fun hnull => ?_, ih fun other hother => h other (List.mem_cons_of_mem _ hother)⟩
    exact absurd (Json.isNull_iff.mp hnull) (h (key, value) (List.mem_cons_self ..))

theorem nulledKeys_cons (key : String) (value : Json) (rest : Bag) :
    nulledKeys ((key, value) :: rest) =
      if value.isNull then key :: nulledKeys rest else nulledKeys rest := by
  rw [nulledKeys, List.filter_cons]
  split <;> rfl

theorem dropNulls_cons (key : String) (value : Json) (rest : Bag) :
    dropNulls ((key, value) :: rest) =
      if value.isNull then dropNulls rest else (key, value) :: dropNulls rest := by
  cases hnull : value.isNull <;> simp [dropNulls, hnull]

/-- The order that a patch should leave comes about change by change. -/
theorem orderlyKeys_cons {keys : List String} (h : keys.Nodup) {rest : Bag}
    (hkey : key ∉ Fields.keys rest) (value : Json) :
    orderlyKeys keys ((key, value) :: rest) = orderlyKeys (orderlyStep keys key value) rest := by
  have hnulled : key ∉ nulledKeys rest := fun hmem =>
    hkey ((List.filter_sublist.map _).subset hmem)
  have hother : ∀ other ∈ Fields.keys (dropNulls rest), other ≠ key := by
    rintro other hmem rfl
    exact hkey ((List.filter_sublist.map _).subset hmem)
  rw [orderlyKeys, orderlyKeys, orderlyStep, nulledKeys_cons, dropNulls_cons]
  split
  · -- the key is taken out of the old ones, and it is none of the new ones
    have hnew : (Fields.keys (dropNulls rest)).filter (· ∉ keys.erase key) =
        (Fields.keys (dropNulls rest)).filter (· ∉ keys) :=
      List.filter_congr fun other hmem => by simp [hother other hmem]
    have hold : (keys.erase key).filter (· ∉ nulledKeys rest) =
        keys.filter (· ∉ key :: nulledKeys rest) := by
      rw [h.erase_eq_filter, List.filter_filter]
      refine List.filter_congr fun other _ => Bool.eq_iff_iff.mpr ?_
      simp [and_comm]
    rw [hold, hnew]
  · rw [Fields.keys_cons]
    split
    · next hmem => rw [List.filter_cons_of_neg (by simpa using hmem)]
    · next hmem =>
      -- the key comes behind the old ones, and it is not among those that come later
      have hlater : (Fields.keys (dropNulls rest)).filter (· ∉ keys ++ [key]) =
          (Fields.keys (dropNulls rest)).filter (· ∉ keys) :=
        List.filter_congr fun other hmem => by simp [hother other hmem]
      rw [List.filter_cons_of_pos (by simpa using hmem), hlater, List.filter_append,
        List.filter_cons_of_pos (by simpa using hnulled), List.append_assoc]
      rfl

/-- An orderly change makes no key stand twice. -/
theorem nodup_orderlyStep {keys : List String} (h : keys.Nodup) (key : String) (value : Json) :
    (orderlyStep keys key value).Nodup := by
  rw [orderlyStep]
  split
  · exact h.erase key
  · split
    · exact h
    · next hmem => exact List.nodup_append_comm.mp (List.nodup_cons.mpr ⟨hmem, h⟩)

/-- Two orderly patches in a row are one. -/
theorem orderlyKeys_append {keys : List String} (h : keys.Nodup) {before rest : Bag}
    (hkeys : (Fields.keys (before ++ rest)).Nodup) :
    orderlyKeys keys (before ++ rest) = orderlyKeys (orderlyKeys keys before) rest := by
  induction before generalizing keys with
  | nil => simp [orderlyKeys, nulledKeys, dropNulls]
  | cons entry before ih =>
    obtain ⟨key, value⟩ := entry
    rw [List.cons_append, Fields.keys_cons, List.nodup_cons] at hkeys
    have hbefore : key ∉ Fields.keys before := fun hmem => hkeys.1 (by simp [hmem])
    rw [List.cons_append, orderlyKeys_cons h hkeys.1, orderlyKeys_cons h hbefore,
      ih (nodup_orderlyStep h key value) hkeys.2]

/-- The old keys in another order give the same keys in another order. -/
theorem orderlyKeys_perm {keys others : List String} (h : keys.Perm others) (changes : Bag) :
    (orderlyKeys keys changes).Perm (orderlyKeys others changes) := by
  have hnew : (Fields.keys (dropNulls changes)).filter (· ∉ keys) =
      (Fields.keys (dropNulls changes)).filter (· ∉ others) :=
    List.filter_congr fun key _ => by simp [h.mem_iff]
  rw [orderlyKeys, orderlyKeys, hnew]
  exact (h.filter _).append_right _

/-! ## One change -/

/-- A property that is written keeps its place, and a new one goes to the end. -/
theorem keys_patchField_of_not_null (hnull : ¬ value.isNull = true) (bag : Bag) (key : String) :
    Fields.keys (patchField bag key value) = orderlyStep (Fields.keys bag) key value := by
  rw [patchField, orderlyStep, if_neg hnull, if_neg hnull]
  split
  · next hmem => exact Fields.keys_insert_of_mem hmem
  · next hmem =>
    rw [Fields.insert_of_notMem hmem, Fields.keys_append]
    rfl

/-- A change keeps the order exactly if it removes nothing or near the end. -/
theorem keys_patchField_eq_iff (h : (Fields.keys bag).Nodup) (key : String) (value : Json) :
    Fields.keys (patchField bag key value) = orderlyStep (Fields.keys bag) key value ↔
      (value.isNull = true → Fields.NearEnd bag key) := by
  by_cases hnull : value.isNull = true
  · rw [patchField, orderlyStep, if_pos hnull, if_pos hnull, Fields.keys_swapErase_eq_iff h,
      forall_prop_of_true hnull]
  · exact iff_of_true (keys_patchField_of_not_null hnull bag key) fun h => absurd h hnull

/-- In any case it leaves these keys. -/
theorem keys_patchField_perm (bag : Bag) (key : String) (value : Json) :
    (Fields.keys (patchField bag key value)).Perm (orderlyStep (Fields.keys bag) key value) := by
  by_cases hnull : value.isNull = true
  · rw [patchField, orderlyStep, if_pos hnull, if_pos hnull]
    exact Fields.keys_swapErase_perm bag key
  · rw [keys_patchField_of_not_null hnull]

/-! ## A patch -/

/-- A patch leaves the keys that it should leave, in some order. -/
theorem keys_overlay_perm (h : (Fields.keys bag).Nodup) {changes : Bag}
    (hchanges : (Fields.keys changes).Nodup) :
    (Fields.keys (overlay bag changes)).Perm (orderlyKeys (Fields.keys bag) changes) := by
  induction changes generalizing bag with
  | nil => simp [overlay, orderlyKeys, nulledKeys, dropNulls]
  | cons entry rest ih =>
    obtain ⟨key, value⟩ := entry
    rw [Fields.keys_cons, List.nodup_cons] at hchanges
    rw [overlay_cons, orderlyKeys_cons h hchanges.1]
    exact (ih (nodup_keys_patchField h key value) hchanges.2).trans
      (orderlyKeys_perm (keys_patchField_perm bag key value) rest)

/-- The order is kept by a patch that removes near the end only. -/
theorem keys_overlay (h : (Fields.keys bag).Nodup) {changes : Bag}
    (hchanges : (Fields.keys changes).Nodup) (hremoves : RemovesNearEnd bag changes) :
    Fields.keys (overlay bag changes) = orderlyKeys (Fields.keys bag) changes := by
  induction changes generalizing bag with
  | nil => simp [overlay, orderlyKeys, nulledKeys, dropNulls]
  | cons entry rest ih =>
    obtain ⟨key, value⟩ := entry
    rw [Fields.keys_cons, List.nodup_cons] at hchanges
    rw [overlay_cons, orderlyKeys_cons h hchanges.1,
      ih (nodup_keys_patchField h key value) hchanges.2 hremoves.2,
      (keys_patchField_eq_iff h key value).mpr hremoves.1]

/-- Where nothing is nulled, the old keys are left in front as they are. -/
theorem orderlyKeys_eq_iff {keys others : List String} (h : keys.Perm others) {changes : Bag}
    (hnone : NoneNull changes) :
    orderlyKeys keys changes = orderlyKeys others changes ↔ keys = others := by
  refine ⟨fun heq => ?_, fun heq => by rw [heq]⟩
  rw [orderlyKeys, orderlyKeys, nulledKeys_of_noneNull hnone] at heq
  have hold := List.append_inj_left heq (by simp [h.length_eq])
  simpa using hold

/-- A patch that removes one property keeps the order exactly if it removes it near the end. -/
theorem keys_overlay_eq_iff (h : (Fields.keys bag).Nodup) {before rest : Bag} {key : String}
    (hchanges : (Fields.keys (before ++ (key, .null) :: rest)).Nodup) (hbefore : NoneNull before)
    (hrest : NoneNull rest) :
    Fields.keys (overlay bag (before ++ (key, .null) :: rest)) =
      orderlyKeys (Fields.keys bag) (before ++ (key, .null) :: rest) ↔
    Fields.NearEnd (overlay bag before) key := by
  have hparts := hchanges
  rw [Fields.keys_append, List.nodup_append, Fields.keys_cons, List.nodup_cons] at hparts
  obtain ⟨hnodup, ⟨hkey, hlater⟩, -⟩ := hparts
  -- what comes before the removal and after it keeps the order
  have hfirst : Fields.keys (overlay bag before) = orderlyKeys (Fields.keys bag) before :=
    keys_overlay h hnodup (removesNearEnd_of_noneNull hbefore)
  have hbetween := nodup_keys_overlay h before
  have hlast : Fields.keys (overlay (patchField (overlay bag before) key .null) rest) = _ :=
    keys_overlay (nodup_keys_patchField hbetween key .null) hlater
      (removesNearEnd_of_noneNull hrest)
  rw [overlay_append, overlay_cons, hlast, orderlyKeys_append h hchanges, ← hfirst,
    orderlyKeys_cons hbetween hkey, orderlyKeys_eq_iff (keys_patchField_perm _ key .null) hrest,
    keys_patchField_eq_iff hbetween]
  exact forall_prop_of_true rfl

/-- What a patch makes of a bag. -/
structure Patched (bag changes after : Bag) : Prop where
  nodup : (Fields.keys after).Nodup
  values : ∀ key, Fields.get? after key =
    patchedValue (Fields.get? bag key) (Fields.get? changes key)
  keys : (Fields.keys after).Perm (orderlyKeys (Fields.keys bag) changes)
  ordered : RemovesNearEnd bag changes →
    Fields.keys after = orderlyKeys (Fields.keys bag) changes
  /-- What comes before the only removal and after it makes no difference. -/
  removal : ∀ before key rest, changes = before ++ (key, .null) :: rest → NoneNull before →
    NoneNull rest → (Fields.keys after = orderlyKeys (Fields.keys bag) changes ↔
      Fields.NearEnd (overlay bag before) key)

/-- A patch gives a bag with the keys and the values that it should have. -/
theorem patched_overlay (h : (Fields.keys bag).Nodup) {changes : Bag}
    (hchanges : (Fields.keys changes).Nodup) : Patched bag changes (overlay bag changes) where
  nodup := nodup_keys_overlay h changes
  values key := by
    rw [get?_overlay h, Fields.get?_of_perm changes.reverse_perm]
    exact (changes.reverse_perm.map _).symm.nodup hchanges
  keys := keys_overlay_perm h hchanges
  ordered := keys_overlay h hchanges
  removal before key rest hsplit hbefore hrest := by
    subst hsplit
    exact keys_overlay_eq_iff h hchanges hbefore hrest

/-- A patch leaves the properties that it should leave, with the values that they should have, and
it keeps their order if it removes near the end only; if it removes one property, only if. -/
theorem patch_order {bag changes : Bag} (h : (Fields.keys bag).Nodup)
    (hchanges : (Fields.keys changes).Nodup) :
    Patched bag changes (overlay bag changes) ∧
      ∀ (document : Document) (id : InstanceId) (placed : Instance),
        document.get? id = some placed → placed.properties = bag →
        ∃ after, document.update id changes = .ok after ∧
          after.get? id = some { placed with properties := overlay bag changes } := by
  refine ⟨patched_overlay h hchanges, fun document id placed hget hbag => ?_⟩
  subst hbag
  exact Document.modify_of_get? hget _

/-- The sizes of a box. -/
def boxSizes : Bag := [("width", .int 1), ("height", .int 2), ("depth", .int 3)]

/-- One property is removed next to the end, and another one is new. -/
theorem patch_order_of_height :
    let changes : Bag := [("height", .null), ("weight", .int 4)]
    (Fields.keys boxSizes).Nodup ∧ (Fields.keys changes).Nodup ∧ RemovesNearEnd boxSizes changes ∧
      Fields.keys (overlay boxSizes changes) = ["width", "depth", "weight"] ∧
      Patched boxSizes changes (overlay boxSizes changes) := by
  intro changes
  have hkeys : (Fields.keys boxSizes).Nodup := by simp [boxSizes]
  have hchanges : (Fields.keys changes).Nodup := by simp [changes]
  have hremoves : RemovesNearEnd boxSizes changes :=
    ⟨fun _ => by simp [Fields.NearEnd, boxSizes],
      ⟨fun hnull => by simp [Json.isNull] at hnull, trivial⟩⟩
  have hpatched := (patch_order hkeys hchanges).1
  exact ⟨hkeys, hchanges, hremoves, hpatched.ordered hremoves, hpatched⟩

/-- The first of three properties is removed, and the last one comes before the other one. -/
theorem patch_disorders :
    let changes : Bag := [("width", .null)]
    let document := (({} : Document).add ⟨"Box", .content, boxSizes, ⟨0, 0⟩⟩).1
    orderlyKeys (Fields.keys boxSizes) changes = ["height", "depth"] ∧
      ∃ after placed, document.update ⟨1⟩ changes = .ok after ∧ after.get? ⟨1⟩ = some placed ∧
        Fields.keys placed.properties = ["depth", "height"] :=
  ⟨rfl, _, _, rfl, rfl, rfl⟩

end ComponentCanvas
