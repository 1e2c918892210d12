import ComponentCanvas.Proofs.Blueprint.Elements
import ComponentCanvas.Proofs.Validation

/-!
# Atoms and Capabilities

The primitive elements of a blueprint are told by their names, and the capabilities of a blueprint
by the mentions of its script.  A primitive element is among the capabilities unless its name is
bound somewhere in the script: a name that is bound anywhere counts as bound everywhere, also where
the element is used outside the scope of the binding.
-/

namespace ComponentCanvas.Script

/-- Whether a name is used in a script. -/
def Program.Uses (program : Program) (name : String) : Prop :=
  ∃ span, .reference name span ∈ program.mentions

/-- Whether a name is bound anywhere in a script. -/
def Program.Binds (program : Program) (name : String) : Prop := .binding name ∈ program.mentions

end ComponentCanvas.Script

namespace ComponentCanvas.Blueprint

open Script (Program Mention)

/-! ## Capabilities -/

variable {program : Program} {scope : Scope} {name : String}

/-- The inventory lists a name among the references exactly if the script uses it. -/
theorem uses_iff_mem_references :
    program.Uses name ↔
      name ∈ (Inventory.ofMentions program.mentions).references.map Prod.fst := by
  constructor
  · rintro ⟨span, h⟩
    exact List.mem_map.mpr ⟨(name, span), List.mem_filterMap.mpr ⟨_, h, rfl⟩, rfl⟩
  · intro h
    obtain ⟨⟨_, span⟩, hreference, rfl⟩ := List.mem_map.mp h
    obtain ⟨mention, hmention, heq⟩ := List.mem_filterMap.mp hreference
    -- no other kind of mention counts as a reference
    cases mention with
    | reference other span =>
      obtain ⟨rfl, rfl⟩ := Prod.mk.inj (Option.some.inj heq)
      exact ⟨span, hmention⟩
    | _ => cases heq

/-- The inventory lists a name among the bindings exactly if the script binds it. -/
theorem binds_iff_binds :
    (Inventory.ofMentions program.mentions).binds name = true ↔ program.Binds name := by
  rw [Inventory.binds, List.contains_iff_mem]
  constructor
  · intro h
    obtain ⟨mention, hmention, heq⟩ := List.mem_filterMap.mp h
    cases mention with
    | binding other =>
      obtain rfl := Option.some.inj heq
      exact hmention
    | _ => cases heq
  · exact fun h => List.mem_filterMap.mpr ⟨_, h, rfl⟩

/-- The capabilities of a script are the names of the scope that it uses and binds nowhere. -/
theorem mem_capabilities :
    name ∈ (Inventory.ofMentions program.mentions).capabilities scope ↔
      program.Uses name ∧ ¬ program.Binds name ∧ Fields.contains scope name = true := by
  rw [Inventory.capabilities, mem_sortedNames, List.mem_filter, ← uses_iff_mem_references,
    Bool.and_eq_true, Bool.not_eq_true', ← binds_iff_binds, Bool.not_eq_true]

/-! ## Names of elements -/

variable {env : Surroundings}

/-- The receiver is a host element. -/
theorem tagKind_receiver : env.tagKind (tagText .receiver) = .intrinsic := by
  rw [tagKind_eq_intrinsic]
  refine Or.inl ?_
  simp [tagText, Script.TagName.text]

/-- A member of the receiver is a host element. -/
theorem tagKind_unknown (path : List String) :
    env.tagKind (tagText (.member none path)) = .intrinsic := by
  rw [tagKind_eq_intrinsic, tagText]
  refine Or.inl ?_
  cases path with
  | nil => simp [String.intercalate_singleton]
  | cons step rest => simp [String.intercalate_cons_cons]

/-- A member of a component is a host element. -/
theorem tagKind_member (root : String × Text.Span) (step : String) (rest : List String) :
    env.tagKind (tagText (.member (some root) (step :: rest))) = .intrinsic := by
  rw [tagKind_eq_intrinsic]
  refine Or.inr ?_
  simp [tagText, Script.TagName.text, String.intercalate_cons_cons]

/-- An element that can be primitive is used under its name, unless the name is that of a host
element or lies in a namespace. -/
theorem mentions_of_tagKind {tag : Script.TagName} (h : env.tagKind (tagText tag) = .atom)
    (hcomponent : Script.isComponentName (tagText tag) = true)
    (hspace : ':' ∉ (tagText tag).toList) :
    ∃ span, .reference (tagText tag) span ∈ tag.mentions := by
  have hne : env.tagKind (tagText tag) ≠ .intrinsic := by
    rw [h]
    exact TagKind.noConfusion
  -- only a plain name in a tag is both a primitive element and a reference to a value
  cases tag with
  | host name hhost =>
    rw [show tagText (.host name hhost) = name from rfl, hhost] at hcomponent
    cases hcomponent
  | component name span => exact ⟨span, List.mem_singleton_self _⟩
  | namespaced space name =>
    -- its text has a colon in it
    exact absurd (by simp [tagText, Script.TagName.text]) hspace
  | receiver => exact absurd tagKind_receiver hne
  | member root path =>
    cases root with
    | none => exact absurd (tagKind_unknown path) hne
    | some root =>
      cases path with
      | nil => exact ⟨root.2, by simp [tagText, Script.TagName.text, Script.TagName.mentions]⟩
      | cons step rest => exact absurd (tagKind_member root step rest) hne

/-! ## Primitive elements -/

/-- The policy that primitive elements are in the scope and are used under their names. -/
def atomPolicy (program : Program) (scope : Scope) : Policy where
  builtin _ := True
  tag t := t.kind = .atom → scope.isAtom t.name = true ∧
    (Script.isComponentName t.name = true → ':' ∉ t.name.toList → program.Uses t.name)
  element _ _ := True
  builtin_member _ _ := trivial
  builtin_setState := trivial
  element_shown _ _ := trivial

/-- A primitive element is one of the capabilities in scope. -/
theorem contains_of_isAtom (h : scope.isAtom name = true) : Fields.contains scope name = true := by
  rw [Scope.isAtom] at h
  rw [Fields.contains]
  cases hfound : Fields.get? scope name with
  | none =>
    rw [hfound] at h
    cases h
  | some capability => rfl

/-- The capabilities of a compiled blueprint are those of its script. -/
theorem capabilities_of_compile {typeId source : String} {b : Blueprint}
    (h : compile typeId source scope = .ok b) :
    ∃ program factoryName,
      Program.read (Payload.stripFence source) = .ok program ∧
      ofProgram? program (Payload.stripFence source) scope (TypeId.canonical typeId) factoryName
        b.capabilities (Digest.ofText source) = some b ∧
      b.capabilities = (Inventory.ofMentions program.mentions).capabilities scope := by
  obtain ⟨-, -, program, validated, hread, hvalidated, hprogram⟩ := compile_eq_ok.mp h
  obtain ⟨factory, -, -, rfl⟩ := exists_factory_of_validate hvalidated
  have hcapabilities : b.capabilities =
      (Inventory.ofMentions program.mentions).capabilities scope := by
    obtain ⟨_, -, rfl⟩ := ofProgram?_eq_some.mp hprogram
    rfl
  exact ⟨program, factory.name, hread, hcapabilities ▸ hprogram, hcapabilities⟩

/-- A primitive element of a compiled blueprint is among its capabilities exactly if the script uses
its name and binds it nowhere.  It uses the name, unless that is the name of a host element or lies
in a namespace. -/
theorem atoms_imported {typeId source : String} {b : Blueprint}
    (h : compile typeId source scope = .ok b) :
    ∃ program, Program.read (Payload.stripFence source) = .ok program ∧
      ∀ tag ∈ b.tagsOfKind (· == .atom),
        (tag ∈ b.capabilities ↔ program.Uses tag ∧ ¬ program.Binds tag) ∧
        (Script.isComponentName tag = true → ':' ∉ tag.toList → program.Uses tag) := by
  obtain ⟨program, factoryName, hread, hprogram, hcapabilities⟩ := capabilities_of_compile h
  refine ⟨program, hread, fun tag htag => ?_⟩
  -- the kind of a written tag comes from its name, and the name from a mention
  have hpermits : (atomPolicy program scope).Permits b.written := by
    refine permits_of_mentions (fun t ht hatom => ⟨(atom_of_tagKind hatom).1, ?_⟩) hprogram
    intro hcomponent hspace
    obtain ⟨span, hspan⟩ := mentions_of_tagKind hatom hcomponent hspace
    exact ⟨span, ht hspan⟩
  -- what is collected is written
  rw [Blueprint.tagsOfKind, mem_sortedNames] at htag
  obtain ⟨t, ht, rfl⟩ := List.mem_map.mp htag
  obtain ⟨hmem, hkind⟩ := List.mem_filter.mp ht
  obtain ⟨hscope, huses⟩ := hpermits t (b.tags_subset_written hmem) (eq_of_beq hkind)
  refine ⟨?_, huses⟩
  rw [hcapabilities, mem_capabilities]
  simp [contains_of_isAtom hscope]

/-- The icon of the badge is used and bound nowhere, so it is imported. -/
theorem atoms_imported_of_badge :
    ∃ b program, compile "Card" badgeSource iconScope = .ok b ∧
      Program.read (Payload.stripFence badgeSource) = .ok program ∧
      b.tagsOfKind (· == .atom) = ["Icon"] ∧ b.capabilities = ["Icon"] ∧
      program.Uses "Icon" ∧ ¬ program.Binds "Icon" := by
  have hrun : ((compile "Card" badgeSource iconScope).mapError (fun _ => ()) >>= fun b =>
      pure (b.tagsOfKind (· == .atom), b.capabilities)) = .ok (["Icon"], ["Icon"]) := by
    decide +kernel
  obtain ⟨b, hcompile, hrun⟩ := bind_eq_ok.mp hrun
  obtain ⟨hatoms, hcapabilities⟩ := Prod.mk.inj (pure_eq_ok.mp hrun)
  rw [mapError_eq_ok] at hcompile
  -- the one tag is imported, so the script uses it and binds it nowhere
  obtain ⟨program, hread, himported⟩ := atoms_imported hcompile
  obtain ⟨hiff, -⟩ := himported "Icon" (by simp [hatoms])
  obtain ⟨huses, hbinds⟩ := hiff.mp (by simp [hcapabilities])
  exact ⟨b, program, hcompile, hread, hatoms, hcapabilities, huses, hbinds⟩

/-- A card with an icon, next to a row that has a parameter of the same name. -/
def shadowedSource : String :=
  "function Row(\x7b Icon \x7d) \x7b return <p/>; \x7d
   function Card() \x7b return <Icon/>; \x7d"

/-- The icon of the card is a primitive element and is not imported, as another function binds its
name. -/
theorem atoms_not_imported :
    ∃ b, compile "Card" shadowedSource (Scope.ofConfig {}) = .ok b ∧
      "Icon" ∈ b.tagsOfKind (· == .atom) ∧ "Icon" ∉ b.capabilities := by
  have hrun : ((compile "Card" shadowedSource (Scope.ofConfig {})).mapError (fun _ => ()) >>=
      fun b => pure (b.tagsOfKind (· == .atom), b.capabilities)) = .ok (["Icon"], []) := by
    decide +kernel
  obtain ⟨b, hcompile, hrun⟩ := bind_eq_ok.mp hrun
  obtain ⟨hatoms, hcapabilities⟩ := Prod.mk.inj (pure_eq_ok.mp hrun)
  rw [mapError_eq_ok] at hcompile
  exact ⟨b, hcompile, by simp [hatoms], by simp [hcapabilities]⟩

end ComponentCanvas.Blueprint
