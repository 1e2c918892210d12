import ComponentCanvas.Proofs.Fields
import ComponentCanvas.Scope
import Mathlib.Tactic.SplitIfs

/-!
# What a Configuration Provides

The scope of a configuration is a table into which the capabilities are written one after the other.
So an atom takes the place of a hook of the same name, and a hook that of the host namespace, which
is the only capability that is a default import.
-/

namespace ComponentCanvas.Scope

variable {config : CapabilityConfig} {name : String} {c : Capability}

/-- What a configuration provides: atoms stand in front of hooks, and hooks in front of the host
namespace. -/
inductive Provides (config : CapabilityConfig) : Capability → Prop
  | atom {name : String} (h : name ∈ config.atoms) :
    Provides config ⟨name, config.atomsModule, .named, true⟩
  | hook {name : String} (h : name ∈ config.hooks) (hatom : name ∉ config.atoms) :
    Provides config ⟨name, config.hostModule, .named, false⟩
  | host (hhook : hostNamespace ∉ config.hooks) (hatom : hostNamespace ∉ config.atoms) :
    Provides config ⟨hostNamespace, config.hostModule, .default, false⟩

theorem ofConfig_eq_sorted :
    ofConfig config = Fields.sorted ((declared config).map fun c => (c.name, c)) := by
  rw [Fields.sorted, List.foldl_map]
  rfl

/-- What a name stands for: a primitive element, else a hook, else the host library. -/
theorem get?_ofConfig : Fields.get? (ofConfig config) name =
    if name ∈ config.atoms then some ⟨name, config.atomsModule, .named, true⟩
    else if name ∈ config.hooks then some ⟨name, config.hostModule, .named, false⟩
    else if name = hostNamespace then some ⟨hostNamespace, config.hostModule, .default, false⟩
    else none := by
  -- of two declarations the later one counts
  have hentries : ((declared config).map fun c => (c.name, c)).reverse =
      (config.atoms.reverse.map fun atom =>
        (atom, (⟨atom, config.atomsModule, .named, true⟩ : Capability))) ++
      ((config.hooks.reverse.map fun hook =>
        (hook, (⟨hook, config.hostModule, .named, false⟩ : Capability))) ++
      [(hostNamespace, ⟨hostNamespace, config.hostModule, .default, false⟩)]) := by
    simp [declared, Function.comp_def]
  rw [ofConfig_eq_sorted, Fields.get?_sorted, hentries, Fields.get?_append, Fields.get?_append,
    Fields.get?_map_self, Fields.get?_map_self]
  simp only [List.mem_reverse, Fields.get?, beq_iff_eq, eq_comm (a := hostNamespace)]
  split_ifs <;> rfl

/-- The scope of a configuration has exactly what the configuration provides. -/
theorem get?_ofConfig_eq_some :
    Fields.get? (ofConfig config) name = some c ↔ Provides config c ∧ c.name = name := by
  rw [get?_ofConfig]
  constructor
  · intro h
    -- later lists give way to earlier ones
    split_ifs at h with hatom hhook hhost
    · cases h
      exact ⟨.atom hatom, rfl⟩
    · cases h
      exact ⟨.hook hhook hatom, rfl⟩
    · cases h
      subst hhost
      exact ⟨.host hhook hatom, rfl⟩
  · rintro ⟨hprovides, rfl⟩
    cases hprovides with
    | atom h => simp [h]
    | hook h hatom => simp [h, hatom]
    | host hhook hatom => simp [hhook, hatom]

/-- Only the host namespace is a default import. -/
theorem Provides.name_eq (h : Provides config c) (hstyle : c.style = .default) :
    c.name = hostNamespace := by
  cases h with
  | atom | hook => cases hstyle
  | host => rfl

/-- In the module of the atoms there are atoms only, unless it is the host module. -/
theorem Provides.mem_atoms (h : Provides config c) (hne : config.hostModule ≠ config.atomsModule)
    (hmodule : c.module = config.atomsModule) : c.name ∈ config.atoms := by
  cases h with
  | atom h => exact h
  | hook | host => exact absurd hmodule hne

/-- Names that are provided are those of their capabilities. -/
theorem map_name_filterMap {names : List String}
    (h : ∀ name ∈ names, Fields.contains (ofConfig config) name = true) :
    (names.filterMap (Fields.get? (ofConfig config))).map (·.name) = names := by
  induction names with
  | nil => rfl
  | cons name rest ih =>
    obtain ⟨hname, hrest⟩ := List.forall_mem_cons.mp h
    obtain ⟨c, hc⟩ := Option.isSome_iff_exists.mp hname
    rw [List.filterMap_cons_some hc, List.map_cons, ih hrest, (get?_ofConfig_eq_some.mp hc).2]

end ComponentCanvas.Scope
