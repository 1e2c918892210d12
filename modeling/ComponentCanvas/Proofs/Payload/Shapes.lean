import ComponentCanvas.Payload.Shape
import ComponentCanvas.Proofs.Json
import ComponentCanvas.Proofs.Pointwise
import ComponentCanvas.Proofs.Property.Domain
import Mathlib

/-!
# Shapes of Payloads

A payload is a batch or a bare list of picks, and a batch as well as a pick may be an object or an
array of its fields.  A batch that is an array opens with a list, and a pick that is an array opens
with the name of its type.  So a list of picks that is not empty is no batch, and it makes no
difference that a payload is tried as a batch first.

This holds of all values that the text of a payload can have, those with unreadable parts in members
that are passed over included.
-/

namespace ComponentCanvas

open Json (Raw record? required orDefault text? bag?)

/-! ## Bags of properties -/

namespace Json

mutual

/-- In a value of a program nothing is left to merge. -/
theorem merged_eq_self : (value : Json) → value.WellFormed → value.merged = value
  | .arr items, h => by rw [merged, mergedItems_eq_self items h]
  | .obj members, h => by rw [merged, mergedMembers_eq_self members h.2,
      Fields.ofList_eq_self h.1]
  | .null, _ | .bool _, _ | .int _, _ | .float _, _ | .str _, _ => by rw [merged]

theorem mergedItems_eq_self : (items : List Json) → WellFormedItems items →
    mergedItems items = items
  | [], _ => rfl
  | item :: rest, h => by
    rw [mergedItems, merged_eq_self item h.1, mergedItems_eq_self rest h.2]

theorem mergedMembers_eq_self : (members : List (String × Json)) → WellFormedMembers members →
    mergedMembers members = members
  | [], _ => rfl
  | (_, value) :: rest, h => by
    rw [mergedMembers, merged_eq_self value h.1, mergedMembers_eq_self rest h.2]

end

end Json

/-! ## Picks -/

/-- A pick is read field by field. -/
theorem Pick.ofJson?_eq_some {value : Raw} {pick : Pick} :
    Pick.ofJson? value = some pick ↔
      ∃ typeId category properties,
        record? [["type", "typeId"], ["category"], ["props", "properties"]] value =
          some [typeId, category, properties] ∧
        required text? typeId = some pick.typeId ∧
        Json.optional Category.ofJson? category = some pick.category ∧
        orDefault [] bag? properties = some pick.properties := by
  unfold Pick.ofJson?
  constructor
  · intro h
    obtain ⟨values, hvalues, h⟩ := Option.bind_eq_some_iff.mp h
    -- a record that is read has a value or nothing for each of the three fields
    split at h
    · next typeId category properties =>
      obtain ⟨t, ht, h⟩ := Option.bind_eq_some_iff.mp h
      obtain ⟨c, hc, h⟩ := Option.bind_eq_some_iff.mp h
      obtain ⟨p, hp, h⟩ := Option.bind_eq_some_iff.mp h
      obtain rfl := Option.some.inj h
      exact ⟨typeId, category, properties, hvalues, ht, hc, hp⟩
    · cases h
  · rintro ⟨typeId, category, properties, hvalues, ht, hc, hp⟩
    simp [hvalues, ht, hc, hp]

/-- A pick is an object, or an array that opens with the name of its type. -/
theorem Pick.shape_of_ofJson? {value : Raw} {pick : Pick} (h : Pick.ofJson? value = some pick) :
    (∃ members, value = .obj members) ∨
      ∃ rest, value = .arr (.str pick.typeId :: rest) := by
  obtain ⟨typeId, _, _, hvalues, htype, -⟩ := Pick.ofJson?_eq_some.mp h
  rcases Json.shape_of_record? hvalues with hobject | ⟨items, rfl, hitems⟩
  · exact .inl hobject
  right
  cases items with
  | nil =>
    -- the type is missing
    obtain ⟨rfl, -⟩ := List.cons.inj hitems
    cases htype
  | cons first rest =>
    obtain ⟨rfl, -⟩ := List.cons.inj hitems
    obtain rfl := Json.text?_eq_some.mp htype
    exact ⟨rest, rfl⟩

theorem Category.ofName_name (category : Category) : ofName category.name = category := by
  cases category <;> decide

/-- A pick that is written as an object is read as it was. -/
theorem Pick.ofJson?_toJson {pick : Pick} (h : (Json.obj pick.properties).WellFormed) :
    Pick.ofJson? (Raw.ofJson pick.toJson) = some pick := by
  have hproperties : bag? (Raw.ofJson (.obj pick.properties)) = some pick.properties := by
    simp only [bag?, Json.Readable.value?, Raw.value?_ofJson, Option.map_some,
      Json.merged_eq_self _ h]
  refine Pick.ofJson?_eq_some.mpr ⟨some (.str pick.typeId),
    some (.ofJson ((pick.category.map Category.toJson).getD .null)),
    some (.ofJson (.obj pick.properties)), rfl, rfl, ?_, hproperties⟩
  -- a category that is not given is written as null
  cases pick.category with
  | none => rfl
  | some category =>
    have hname : Category.ofJson? (Raw.str category.name) = some category :=
      congrArg some (Category.ofName_name category)
    show (Category.ofJson? (Raw.str category.name)).map some = some (some category)
    rw [hname]
    rfl

/-! ## Batches -/

namespace Payload

variable {value : Raw} {payload : Payload}

/-- A list of picks is a list each item of which is read as a pick. -/
theorem ofPicks?_eq_some : ofPicks? value = some payload ↔
    ∃ items picks, value = .arr items ∧ items.mapM Pick.ofJson? = some picks ∧
      payload = ⟨picks, []⟩ := by
  rw [ofPicks?, Option.map_eq_some_iff]
  constructor
  · rintro ⟨picks, hpicks, rfl⟩
    obtain ⟨items, hvalue, hitems⟩ := Json.list?_eq_some.mp hpicks
    exact ⟨items, picks, hvalue, hitems, rfl⟩
  · rintro ⟨items, picks, hvalue, hitems, rfl⟩
    exact ⟨picks, Json.list?_eq_some.mpr ⟨items, hvalue, hitems⟩, rfl⟩

/-- A batch that is an array has its picks as the first item. -/
theorem exists_picks_of_ofBatch? {first : Raw} {rest : List Raw}
    (h : ofBatch? (Raw.arr (first :: rest)) = some payload) :
    ∃ items, first = .arr items ∧ items.mapM Pick.ofJson? = some payload.picks := by
  unfold ofBatch? at h
  obtain ⟨values, hvalues, h⟩ := Option.bind_eq_some_iff.mp h
  rcases Json.shape_of_record? hvalues with ⟨members, hmembers⟩ | ⟨items, hitems, rfl⟩
  · cases hmembers
  obtain rfl := Raw.arr.inj hitems
  -- a batch that is an array has its picks first
  split at h
  · next picks definitions heq =>
    obtain ⟨rfl, -⟩ := List.cons.inj heq
    obtain ⟨found, hfound, h⟩ := Option.bind_eq_some_iff.mp h
    obtain ⟨_, -, h⟩ := Option.bind_eq_some_iff.mp h
    obtain rfl := Option.some.inj h
    exact Json.list?_eq_some.mp hfound
  · cases h

/-- A list of picks that is not empty is no batch: a batch would open with a list of picks, which as
a pick would open with the name of a type, and that is no pick. -/
theorem ofBatch?_eq_none {first : Raw} {rest : List Raw} {picks : List Pick}
    (h : (first :: rest).mapM Pick.ofJson? = some picks) :
    ofBatch? (Raw.arr (first :: rest)) = none := by
  rw [Option.eq_none_iff_forall_ne_some]
  intro batch hbatch
  obtain ⟨items, rfl, hitems⟩ := exists_picks_of_ofBatch? hbatch
  rw [List.mapM_cons] at h
  obtain ⟨pick, hpick, -⟩ := Option.bind_eq_some_iff.mp h
  -- as a batch the first item would be a list of picks, so the pick it is would be an array of its
  -- own type, which is a text
  rcases Pick.shape_of_ofJson? hpick with ⟨members, hmembers⟩ | ⟨others, hothers⟩
  · cases hmembers
  obtain rfl := Raw.arr.inj hothers
  rw [List.mapM_cons] at hitems
  obtain ⟨other, hother, -⟩ := Option.bind_eq_some_iff.mp hitems
  rcases Pick.shape_of_ofJson? hother with ⟨_, hshape⟩ | ⟨_, hshape⟩ <;> cases hshape

/-- A list of picks is read as such. -/
theorem ofJson?_of_picks {items : List Raw} {picks : List Pick}
    (h : items.mapM Pick.ofJson? = some picks) : ofJson? (Raw.arr items) = some ⟨picks, []⟩ := by
  cases items with
  | nil =>
    obtain rfl := Option.some.inj h
    rfl
  | cons first rest =>
    rw [ofJson?, ofBatch?_eq_none h]
    exact ofPicks?_eq_some.mpr ⟨_, picks, rfl, h, rfl⟩

/-- The text of a value is not empty, so what it says is read. -/
theorem read_of_ofJson? {text : String} (hvalue : Raw.read? (stripFence text) = some value)
    (h : ofJson? value = some payload) : read text = .ok payload := by
  have hne : (stripFence text).isEmpty = false := by
    rw [Bool.eq_false_iff]
    intro hempty
    rw [String.isEmpty_iff.mp hempty] at hvalue
    exact absurd hvalue (by simp [show Raw.read? "" = none by decide +kernel])
  rw [read, hne, hvalue, Option.bind_some, h]
  rfl

/-- What is both a batch and a bare list of picks is the empty list. -/
theorem eq_nil_of_both {batch list : Payload} (hbatch : ofBatch? value = some batch)
    (hlist : ofPicks? value = some list) :
    value = .arr [] ∧ batch = ⟨[], []⟩ ∧ list = ⟨[], []⟩ := by
  obtain ⟨items, picks, rfl, hitems, rfl⟩ := ofPicks?_eq_some.mp hlist
  cases items with
  | nil =>
    obtain rfl := Option.some.inj hitems
    obtain rfl := Option.some.inj hbatch
    exact ⟨rfl, rfl, rfl⟩
  | cons first rest => cases (ofBatch?_eq_none hitems).symm.trans hbatch

/-- The two shapes of a payload never conflict.  What is both a batch and a bare list of picks is
the empty list, and then both are empty.  So a bare list of picks, whatever way each of them is
spelled and whatever else stands in it, is read as these picks in their order and nothing else; in
particular picks that are written as objects are read as they were. -/
theorem shapes_never_conflict :
    (∀ (value : Raw) batch list, ofBatch? value = some batch → ofPicks? value = some list →
      value = .arr [] ∧ batch = ⟨[], []⟩ ∧ list = ⟨[], []⟩) ∧
    (ofBatch? (Raw.arr []) = some ⟨[], []⟩ ∧ ofPicks? (Raw.arr []) = some ⟨[], []⟩) ∧
    (∀ text items picks, Raw.read? (stripFence text) = some (.arr items) →
      List.Forall₂ (fun item pick => Pick.ofJson? item = some pick) items picks →
      read text = .ok ⟨picks, []⟩) ∧
    ∀ text picks, (∀ pick ∈ picks, (Json.obj pick.properties).WellFormed) →
      Json.read? (stripFence text) = some (.arr (picks.map Pick.toJson)) →
      read text = .ok ⟨picks, []⟩ := by
  have hpicks : ∀ text items picks, Raw.read? (stripFence text) = some (.arr items) →
      List.Forall₂ (fun item pick => Pick.ofJson? item = some pick) items picks →
      read text = .ok ⟨picks, []⟩ := fun text items picks hvalue hitems =>
    read_of_ofJson? hvalue (ofJson?_of_picks (mapM_eq_some_iff_forall₂.mpr hitems))
  refine ⟨fun value batch list => eq_nil_of_both, ⟨rfl, rfl⟩, hpicks, ?_⟩
  intro text picks hproperties hvalue
  -- every part of the text can be read, so its items are those that the picks were written as
  have hread := Json.read?_eq_some.mp hvalue
  rw [Raw.ofJson, Raw.ofItems_eq_map] at hread
  refine hpicks text _ picks hread ?_
  rw [List.map_map, List.forall₂_map_left_iff, List.forall₂_same]
  exact fun pick hpick => Pick.ofJson?_toJson (hproperties pick hpick)

/-- A card with a title. -/
def titledCard : Pick := ⟨"card", none, [("title", .str "A")]⟩

/-- A fenced list of a pick that is an object and one that is an array.  The object has a member
that is passed over, whose number is out of range, and the category of the other is an object. -/
def mixedPicks : String :=
  "```json\n[\x7b\"typeId\":\"card\",\"size\":1e9999999999," ++
    "\"props\":\x7b\"title\":\"A\"\x7d\x7d," ++
    "[\"nav\",\x7b\"layout\":null\x7d]]\n```"

/-- A list of a pick that is an object with all of its members. -/
def objectPicks : String :=
  "[\x7b\"type\":\"card\",\"category\":null,\"props\":\x7b\"title\":\"A\"\x7d\x7d]"

/-- An empty list in a fence is read both ways, with one result. -/
theorem shapes_never_conflict_of_cards :
    (∃ value, Raw.read? (stripFence "```\n[ ]\n```") = some value ∧
      (ofBatch? value).isSome = true ∧ ofBatch? value = ofPicks? value) ∧
    read mixedPicks = .ok ⟨[titledCard, ⟨"nav", some .layout, []⟩], []⟩ ∧
    read objectPicks = .ok ⟨[titledCard], []⟩ := by
  -- reading leaves the number out, as nobody asks for it
  have hmixed : Raw.read? (stripFence mixedPicks) = some (.arr
      [.obj [(some "typeId", .str "card"), (some "size", .unreadable),
          (some "props", .obj [(some "title", .str "A")])],
        .arr [.str "nav", .obj [(some "layout", .null)]]]) := by cbv
  have hobject : Json.read? (stripFence objectPicks) =
      some (.arr ([titledCard].map Pick.toJson)) := by cbv
  -- a bag of one text has nothing to merge
  have hproperties : ∀ pick ∈ [titledCard], (Json.obj pick.properties).WellFormed :=
    List.forall_mem_singleton.mpr ⟨by decide, trivial, trivial⟩
  have hempty : ((Raw.read? (stripFence "```\n[ ]\n```")).bind fun value =>
      (ofBatch? value).bind fun _ => ofPicks? value).isSome = true := by cbv
  obtain ⟨hboth, -, hpicks, hobjects⟩ := shapes_never_conflict
  refine ⟨?_, hpicks mixedPicks _ _ hmixed (.cons (by rfl) (.cons (by rfl) .nil)),
    hobjects objectPicks [titledCard] hproperties hobject⟩
  -- both readings give something for the empty list, and so the same
  obtain ⟨list, hlist⟩ := Option.isSome_iff_exists.mp hempty
  obtain ⟨value, hvalue, hlist⟩ := Option.bind_eq_some_iff.mp hlist
  obtain ⟨batch, hbatch, hlist⟩ := Option.bind_eq_some_iff.mp hlist
  obtain ⟨-, rfl, rfl⟩ := hboth value batch list hbatch hlist
  exact ⟨value, hvalue, by rw [hbatch]; rfl, hbatch.trans hlist.symm⟩

end Payload

end ComponentCanvas
