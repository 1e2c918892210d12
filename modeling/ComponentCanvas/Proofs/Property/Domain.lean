import ComponentCanvas.Proofs.Fields
import ComponentCanvas.Json.Basic

/-!
# The Domain of Property Values

Which values a program can hold at all, and which of them have a source form.  Both are asked of
every value inside a value, and an object adds that its names are distinct.
-/

namespace ComponentCanvas.Json

/-! ## Values of a program -/

mutual

/-- What every value of a program is: its integers fit a word, its floats are finite, and the
names in an object are distinct. -/
def WellFormed : Json → Prop
  | .null | .bool _ | .str _ => True
  | .int n => fitsWord n = true
  | .float x => Decimal.isFinite x = true
  | .arr items => WellFormedItems items
  | .obj members => (Fields.keys members).Nodup ∧ WellFormedMembers members

/-- `WellFormed` for the items of an array. -/
def WellFormedItems : List Json → Prop
  | [] => True
  | item :: rest => WellFormed item ∧ WellFormedItems rest

/-- `WellFormed` for the members of an object. -/
def WellFormedMembers : List (String × Json) → Prop
  | [] => True
  | (_, value) :: rest => WellFormed value ∧ WellFormedMembers rest

end

theorem wellFormedItems_iff {items : List Json} :
    WellFormedItems items ↔ ∀ item ∈ items, item.WellFormed := by
  induction items with
  | nil => simp [WellFormedItems]
  | cons item rest ih => simp [WellFormedItems, ih]

theorem wellFormedMembers_iff {members : List (String × Json)} :
    WellFormedMembers members ↔ ∀ member ∈ members, member.2.WellFormed := by
  induction members with
  | nil => simp [WellFormedMembers]
  | cons member rest ih => rw [WellFormedMembers, ih, List.forall_mem_cons]

mutual

/-- Whether a value is well-formed is decided along the value. -/
def decideWellFormed : (v : Json) → Decidable v.WellFormed
  | .null | .bool _ | .str _ => .isTrue trivial
  | .int n => inferInstanceAs (Decidable (fitsWord n = true))
  | .float x => inferInstanceAs (Decidable (Decimal.isFinite x = true))
  | .arr items => decideWellFormedItems items
  | .obj members =>
    have := decideWellFormedMembers members
    inferInstanceAs (Decidable ((Fields.keys members).Nodup ∧ WellFormedMembers members))

/-- `decideWellFormed` for the items of an array. -/
def decideWellFormedItems : (items : List Json) → Decidable (WellFormedItems items)
  | [] => .isTrue trivial
  | item :: rest =>
    have := decideWellFormed item
    have := decideWellFormedItems rest
    inferInstanceAs (Decidable (WellFormed item ∧ WellFormedItems rest))

/-- `decideWellFormed` for the members of an object. -/
def decideWellFormedMembers :
    (members : List (String × Json)) → Decidable (WellFormedMembers members)
  | [] => .isTrue trivial
  | (_, value) :: rest =>
    have := decideWellFormed value
    have := decideWellFormedMembers rest
    inferInstanceAs (Decidable (WellFormed value ∧ WellFormedMembers rest))

end

instance (v : Json) : Decidable v.WellFormed := decideWellFormed v

/-! ## Values without null -/

mutual

/-- Whether null stands nowhere in a value. -/
def NullFree : Json → Prop
  | .null => False
  | .bool _ | .str _ | .int _ | .float _ => True
  | .arr items => NullFreeItems items
  | .obj members => NullFreeMembers members

/-- `NullFree` for the items of an array. -/
def NullFreeItems : List Json → Prop
  | [] => True
  | item :: rest => NullFree item ∧ NullFreeItems rest

/-- `NullFree` for the members of an object. -/
def NullFreeMembers : List (String × Json) → Prop
  | [] => True
  | (_, value) :: rest => NullFree value ∧ NullFreeMembers rest

end

theorem nullFreeItems_iff {items : List Json} :
    NullFreeItems items ↔ ∀ item ∈ items, item.NullFree := by
  induction items with
  | nil => simp [NullFreeItems]
  | cons item rest ih => simp [NullFreeItems, ih]

theorem nullFreeMembers_iff {members : List (String × Json)} :
    NullFreeMembers members ↔ ∀ member ∈ members, member.2.NullFree := by
  induction members with
  | nil => simp [NullFreeMembers]
  | cons member rest ih => rw [NullFreeMembers, ih, List.forall_mem_cons]

mutual

/-- Whether a value is free of null is decided along the value. -/
def decideNullFree : (v : Json) → Decidable v.NullFree
  | .null => .isFalse id
  | .bool _ | .str _ | .int _ | .float _ => .isTrue trivial
  | .arr items => decideNullFreeItems items
  | .obj members => decideNullFreeMembers members

/-- `decideNullFree` for the items of an array. -/
def decideNullFreeItems : (items : List Json) → Decidable (NullFreeItems items)
  | [] => .isTrue trivial
  | item :: rest =>
    have := decideNullFree item
    have := decideNullFreeItems rest
    inferInstanceAs (Decidable (NullFree item ∧ NullFreeItems rest))

/-- `decideNullFree` for the members of an object. -/
def decideNullFreeMembers :
    (members : List (String × Json)) → Decidable (NullFreeMembers members)
  | [] => .isTrue trivial
  | (_, value) :: rest =>
    have := decideNullFree value
    have := decideNullFreeMembers rest
    inferInstanceAs (Decidable (NullFree value ∧ NullFreeMembers rest))

end

instance (v : Json) : Decidable v.NullFree := decideNullFree v

end ComponentCanvas.Json
