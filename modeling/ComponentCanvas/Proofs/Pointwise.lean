import Mathlib.Data.List.Forall2

/-!
# Pointwise Related Lists

What is in one of two lists that are related item by item has a partner in the other one.
-/

namespace ComponentCanvas

variable {α β : Type} {R : α → β → Prop} {items : List α} {others : List β}

/-- Every item on the left has a partner. -/
theorem exists_right_of_forall₂ (h : List.Forall₂ R items others) {item : α}
    (hitem : item ∈ items) : ∃ other ∈ others, R item other := by
  induction h with
  | nil => cases hitem
  | cons hfirst _ ih =>
    rcases List.mem_cons.mp hitem with rfl | hitem
    · exact ⟨_, List.mem_cons_self .., hfirst⟩
    · obtain ⟨other, hother, hrelated⟩ := ih hitem
      exact ⟨other, List.mem_cons_of_mem _ hother, hrelated⟩

theorem exists_left_of_forall₂ (h : List.Forall₂ R items others) {other : β}
    (hother : other ∈ others) : ∃ item ∈ items, R item other :=
  exists_right_of_forall₂ (show List.Forall₂ (flip (flip R)) items others from h).flip hother

/-- Items are all read when each of them is. -/
theorem mapM_eq_some_iff_forall₂ {read : α → Option β} :
    items.mapM read = some others ↔ List.Forall₂ (fun item other => read item = some other)
      items others := by
  induction items generalizing others with
  | nil => simp [eq_comm]
  | cons item items ih => cases others <;> simp [List.mapM_cons, Option.bind_eq_some_iff, ih]

end ComponentCanvas
