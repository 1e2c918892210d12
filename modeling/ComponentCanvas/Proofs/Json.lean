import ComponentCanvas.Json.Reader
import ComponentCanvas.Json.Shape

/-!
# Values Read in Part

A value without unreadable parts is the value that it was made of, and nothing else has one.  So a
text all of which can be read says the same to every reader.  What can be taken from a value with
unreadable parts, a text or a list, tells the form of the value.
-/

namespace ComponentCanvas.Json

namespace Raw

/-! ## Values all of which can be read -/

mutual

theorem value?_ofJson : (v : Json) → value? (ofJson v) = some v
  | .arr items => by rw [ofJson, value?, itemValues?_ofItems items, Option.map_some]
  | .obj members => by rw [ofJson, value?, memberValues?_ofMembers members, Option.map_some]
  | .null | .bool _ | .int _ | .float _ | .str _ => rfl

theorem itemValues?_ofItems : (items : List Json) → itemValues? (ofItems items) = some items
  | [] => rfl
  | item :: rest => by
    simp [ofItems, itemValues?, value?_ofJson item, itemValues?_ofItems rest]

theorem memberValues?_ofMembers : (members : List (String × Json)) →
    memberValues? (ofMembers members) = some members
  | [] => rfl
  | (name, value) :: rest => by
    simp [ofMembers, memberValues?, value?_ofJson value, memberValues?_ofMembers rest]

end

mutual

/-- Only such a value is read as a value. -/
theorem eq_ofJson_of_value? : (raw : Raw) → (v : Json) → raw.value? = some v → raw = ofJson v
  | .arr items, v, h => by
    obtain ⟨values, hvalues, rfl⟩ := Option.map_eq_some_iff.mp h
    rw [ofJson, eq_ofItems_of_itemValues? items values hvalues]
  | .obj members, v, h => by
    obtain ⟨values, hvalues, rfl⟩ := Option.map_eq_some_iff.mp h
    rw [ofJson, eq_ofMembers_of_memberValues? members values hvalues]
  -- the one form that has no value
  | .unreadable, v, h => by cases h
  | .null, v, h | .bool _, v, h | .int _, v, h | .float _, v, h | .str _, v, h => by
    obtain rfl := Option.some.inj h
    rfl

theorem eq_ofItems_of_itemValues? : (items : List Raw) → (values : List Json) →
    itemValues? items = some values → items = ofItems values
  | [], _, h => by
    obtain rfl := Option.some.inj h
    rfl
  | item :: rest, _, h => by
    obtain ⟨v, hv, h⟩ := Option.bind_eq_some_iff.mp h
    obtain ⟨vs, hvs, h⟩ := Option.bind_eq_some_iff.mp h
    obtain rfl := Option.some.inj h
    rw [ofItems, eq_ofJson_of_value? item v hv, eq_ofItems_of_itemValues? rest vs hvs]

/-- Members have values only if their names and their values can be read. -/
theorem eq_ofMembers_of_memberValues? : (members : List (Option String × Raw)) →
    (values : List (String × Json)) → memberValues? members = some values →
    members = ofMembers values
  | [], _, h => by
    obtain rfl := Option.some.inj h
    rfl
  | (name, raw) :: rest, _, h => by
    obtain ⟨readName, rfl, h⟩ := Option.bind_eq_some_iff.mp h
    obtain ⟨v, hv, h⟩ := Option.bind_eq_some_iff.mp h
    obtain ⟨vs, hvs, h⟩ := Option.bind_eq_some_iff.mp h
    obtain rfl := Option.some.inj h
    rw [ofMembers, eq_ofJson_of_value? raw v hv, eq_ofMembers_of_memberValues? rest vs hvs]

end

theorem ofItems_eq_map (items : List Json) : ofItems items = items.map ofJson := by
  induction items with
  | nil => rfl
  | cons item rest ih => rw [ofItems, ih, List.map_cons]

theorem value?_eq_some {raw : Raw} {v : Json} : raw.value? = some v ↔ raw = ofJson v :=
  ⟨eq_ofJson_of_value? raw v, fun h => h ▸ value?_ofJson v⟩

end Raw

/-- The strict reader gives the values that are read without unreadable parts. -/
theorem read?_eq_some {text : String} {v : Json} :
    read? text = some v ↔ Raw.read? text = some (.ofJson v) := by
  rw [read?, Option.bind_eq_some_iff]
  constructor
  · rintro ⟨raw, hread, hvalue⟩
    rw [hread, Raw.value?_eq_some.mp hvalue]
  · exact fun hread => ⟨_, hread, Raw.value?_ofJson v⟩

/-! ## What values with unreadable parts say -/

variable {α : Type} {value : Raw}

/-- Only a text decodes as a text. -/
theorem text?_eq_some {s : String} : text? value = some s ↔ value = .str s := by
  have hvalue : text? value = some s ↔ value.value? = some (.str s) := by
    unfold text?
    split
    · next t ht => simp [show value.value? = some (.str t) from ht]
    · next hother => exact iff_of_false nofun (hother s)
  rw [hvalue, Raw.value?_eq_some]
  rfl

theorem list?_eq_some {decode : Raw → Option α} {as : List α} :
    list? decode value = some as ↔ ∃ items, value = .arr items ∧ items.mapM decode = some as := by
  cases value <;> simp [list?, Readable.items?]

/-- A record that is read is an object or an array. -/
theorem shape_of_record? {fields : List (List String)} {values : List (Option Raw)}
    (h : record? fields value = some values) :
    (∃ members, value = .obj members) ∨
      ∃ items, value = .arr items ∧
        values = items.map some ++ List.replicate (fields.length - items.length) none := by
  cases value with
  | obj members => exact .inl ⟨members, rfl⟩
  -- an array gives its items to the fields in order, and nothing to the fields behind them
  | arr items =>
    simp only [record?, Readable.items?] at h
    split at h
    · exact .inr ⟨items, rfl, (Option.some.inj h).symm⟩
    · cases h
  | _ => cases h

end ComponentCanvas.Json
