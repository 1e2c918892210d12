import ComponentCanvas.Proofs.Except
import ComponentCanvas.Validation

/-!
# Accepted Sources

What is known of a script that passes validation, and of the causes for which one is turned down.
-/

namespace ComponentCanvas

open Script (Program)

/-! ## Causes -/

/-- Whether a cause blames the compiler and not the source. -/
def Cause.IsInternal : Cause → Prop
  | .lostUnit | .notLowered _ => True
  | _ => False

/-- Whether a computation blames nothing but the source. -/
def BlamesSource {α : Type} (x : Except Diagnostic α) : Prop :=
  ∀ d, x = .error d → ¬ d.cause.IsInternal

section BlamesSource

variable {α β : Type}

theorem BlamesSource.ok {a : α} : BlamesSource (.ok a) := by
  intro d h
  cases h

theorem BlamesSource.error {d : Diagnostic} (h : ¬ d.cause.IsInternal) :
    BlamesSource (.error d : Except Diagnostic α) := by
  intro d' hd
  obtain rfl := Except.error.inj hd
  exact h

theorem BlamesSource.bind {x : Except Diagnostic α} {f : α → Except Diagnostic β}
    (hx : BlamesSource x) (hf : ∀ a, x = .ok a → BlamesSource (f a)) : BlamesSource (x >>= f) := by
  cases x with
  | error d => exact .error (hx d rfl)
  | ok a => exact hf a rfl

end BlamesSource

/-! ## The checks -/

namespace Validation

variable {program : Program} {inventory : Inventory} {factories : List Factory}
  {factory : Factory} {typeId source : String} {scope : Scope}

/-- Module syntax stands in the source. -/
theorem blamesSource_requireSelfContained :
    BlamesSource (requireSelfContained program inventory source) := by
  unfold requireSelfContained
  split
  · exact .error not_false
  · split
    · exact .error not_false
    · exact .ok

theorem blamesSource_locateFactory : BlamesSource (locateFactory factories typeId source) := by
  unfold locateFactory
  dsimp only
  split
  · exact .ok
  all_goals exact .error not_false

theorem blamesSource_requireMarkup : BlamesSource (requireMarkup factory source) := by
  unfold requireMarkup
  split
  · exact .ok
  · exact .error not_false

theorem blamesSource_requireResolved : BlamesSource (requireResolved inventory scope source) := by
  unfold requireResolved
  split
  · exact .ok
  · exact .error not_false

/-- Whether a factory has the name of a type, as it is written or in canonical form. -/
def hasNameOf (typeId : String) (factory : Factory) : Bool :=
  factory.name == Text.trimmed typeId || factory.name == TypeId.canonical typeId

/-- The factory that is located is the only one with a name of the type. -/
theorem filter_hasNameOf (h : locateFactory factories typeId source = .ok factory) :
    factories.filter (hasNameOf typeId) = [factory] := by
  unfold locateFactory at h
  dsimp only at h
  split at h
  · next hfound =>
    obtain rfl := pure_eq_ok.mp h
    exact hfound
  all_goals cases h

/-- And the only one with a name of the type is located. -/
theorem locateFactory_of_filter (h : factories.filter (hasNameOf typeId) = [factory]) :
    locateFactory factories typeId source = .ok factory := by
  unfold hasNameOf at h
  unfold locateFactory
  dsimp only
  rw [h]
  rfl

/-- Of the factories with its own name it is the only one as well. -/
theorem filter_name_of_locateFactory (h : locateFactory factories typeId source = .ok factory) :
    factories.filter (·.name == factory.name) = [factory] := by
  have hfilter := filter_hasNameOf h
  have hfactory : hasNameOf typeId factory = true :=
    (List.mem_filter.mp (hfilter ▸ List.mem_singleton_self _)).2
  calc factories.filter (·.name == factory.name)
    _ = (factories.filter (hasNameOf typeId)).filter (·.name == factory.name) := by
      rw [List.filter_filter]
      refine List.filter_congr fun other _ => ?_
      -- what has the name of the factory has a name of the type
      cases hother : other.name == factory.name with
      | false => rfl
      | true =>
        have : hasNameOf typeId other = true := by
          rwa [hasNameOf, eq_of_beq hother, ← hasNameOf]
        rw [this, Bool.and_self]
    _ = [factory] := by simp [hfilter]

end Validation

/-! ## The whole -/

open Validation

variable {program : Program} {typeId source : String} {scope : Scope}

/-- None of the checks fails for an internal cause. -/
theorem blamesSource_validate : BlamesSource (validate program source typeId scope) := by
  unfold validate
  split
  · exact .error not_false
  · exact .bind blamesSource_requireSelfContained fun _ _ =>
      .bind blamesSource_locateFactory fun _ _ =>
      .bind blamesSource_requireMarkup fun _ _ =>
      .bind blamesSource_requireResolved fun _ _ => .ok

/-- What validation has found of a script that it accepts. -/
theorem exists_factory_of_validate {validated : Validated}
    (h : validate program source typeId scope = .ok validated) :
    ∃ factory, locateFactory (Factory.ofProgram program) typeId source = .ok factory ∧
      anyReturnsMarkup factory.body = true ∧
      validated = ⟨factory.name, (Inventory.ofMentions program.mentions).capabilities scope⟩ := by
  unfold validate at h
  split at h
  · cases h
  obtain ⟨-, -, h⟩ := bind_eq_ok.mp h
  obtain ⟨factory, hfactory, h⟩ := bind_eq_ok.mp h
  obtain ⟨_, hmarkup, h⟩ := bind_eq_ok.mp h
  obtain ⟨-, -, h⟩ := bind_eq_ok.mp h
  refine ⟨factory, hfactory, ?_, (pure_eq_ok.mp h).symm⟩
  -- the other checks have passed, and that for markup says what the factory returns
  unfold requireMarkup at hmarkup
  split at hmarkup
  · next hreturns => exact hreturns
  · cases hmarkup

end ComponentCanvas
