import ComponentCanvas.Proofs.Blueprint.Compilation
import ComponentCanvas.Proofs.Blueprint.Watching

/-!
# Collected Tags

A rendering shows no element that is not written in the blueprint.  The tags that are collected from
a blueprint are those that are written in it, except that the walk passes over patterns: an element
in the default of a parameter or of a variable is rendered, where the default is taken, and is not
collected.
-/

namespace ComponentCanvas.Blueprint

variable {b : Blueprint} {tag : String} {kind : TagKind}

/-- The tags of a kind are the collected tags with that kind. -/
theorem mem_tagsOfKind : tag ∈ b.tagsOfKind (· == kind) ↔ ⟨tag, kind⟩ ∈ b.tags := by
  rw [Blueprint.tagsOfKind, mem_sortedNames, List.mem_map]
  constructor
  · rintro ⟨t, ht, rfl⟩
    obtain ⟨hmem, hkind⟩ := List.mem_filter.mp ht
    rwa [← eq_of_beq hkind]
  · intro h
    exact ⟨⟨tag, kind⟩, List.mem_filter.mpr ⟨h, beq_self_eq_true kind⟩, rfl⟩

/-- The policy that elements are written in a blueprint. -/
def writtenPolicy (b : Blueprint) : Policy where
  builtin _ := True
  tag t := t ∈ b.written
  element t _ := t ∈ b.written
  builtin_member _ _ := trivial
  builtin_setState := trivial
  element_shown _ h := h

/-- Every element that a blueprint is rendered to is written in it. -/
theorem mem_written_of_rendered {props : Bag} {limits : Limits} {nodes : List RenderNode}
    (hok : b.instantiate props limits = .ok nodes) {attributes : Fields Value}
    {children : List RenderNode}
    (hpart : Value.node (.element tag kind attributes children) ∈ RenderNode.listParts nodes) :
    ⟨tag, kind⟩ ∈ b.written := by
  have hwritten : (writtenPolicy b).Permits b.written := fun _ ht => ht
  -- an element that is shown meets the policy, so its tag is a written one
  have hnodes := (watch_meets (fun _ _ => trivial) hwritten props limits).2.2 nodes hok
  obtain ⟨node, hnode, hpart⟩ := RenderNode.mem_listParts.mp hpart
  exact hnodes node hnode _ hpart

/-- The factory of a compiled blueprint is among its helpers. -/
theorem factory_mem_helpers {typeId source : String} {scope : Scope}
    (h : compile typeId source scope = .ok b) : ∃ name, (name, b.factory) ∈ b.helpers := by
  obtain ⟨program, factoryName, capabilities, hprogram⟩ := exists_ofProgram?_of_compile h
  exact ⟨factoryName, Fields.mem_of_get? (eq_of_ofProgram? hprogram).2.2.2⟩

/-- Every element that a compiled blueprint is rendered to has a tag that is collected with its
kind, or one that is written in the default of a pattern. -/
theorem rendered_collected {typeId source : String} {scope : Scope}
    (h : compile typeId source scope = .ok b) {props : Bag} {limits : Limits}
    {nodes : List RenderNode} (hok : b.instantiate props limits = .ok nodes)
    {attributes : Fields Value} {children : List RenderNode}
    (hpart : Value.node (.element tag kind attributes children) ∈ RenderNode.listParts nodes) :
    tag ∈ b.tagsOfKind (· == kind) ∨ ⟨tag, kind⟩ ∈ b.defaulted := by
  obtain ⟨name, hfactory⟩ := factory_mem_helpers h
  have hwritten := mem_written_of_rendered hok hpart
  rw [mem_tagsOfKind]
  exact (Blueprint.splits hfactory ⟨tag, kind⟩).mp hwritten

/-- Whether a part of a value is a host element with the given tag. -/
def isHostElement (tag : String) : Value → Bool
  | .node (.element t .intrinsic _ _) => t == tag
  | _ => false

theorem exists_of_isHostElement {part : Value} (h : isHostElement tag part = true) :
    ∃ attributes children, part = .node (.element tag .intrinsic attributes children) := by
  unfold isHostElement at h
  split at h
  · exact ⟨_, _, by rw [eq_of_beq h]⟩
  · cases h

/-- A card in bold print around an icon, which is the default of a property. -/
def iconSource : String :=
  "function Card(\x7b icon = <i/> \x7d) \x7b return <b>\x7bicon\x7d</b>; \x7d"

/-- The card is rendered to its icon in bold print, and of the two tags one is collected. -/
theorem rendered_iconSource :
    ∃ b nodes, compile "Card" iconSource (Scope.ofConfig {}) = .ok b ∧
      b.instantiate [] ⟨20, 3⟩ = .ok nodes ∧
      b.tagsOfKind (· == .intrinsic) = ["b"] ∧
      ∀ tag ∈ ["b", "i"], ∃ attributes children,
        Value.node (.element tag .intrinsic attributes children) ∈ RenderNode.listParts nodes := by
  have hrun : ((compile "Card" iconSource (Scope.ofConfig {})).mapError (fun _ => ()) >>= fun b =>
      (b.instantiate [] ⟨20, 3⟩).mapError (fun _ => ()) >>= fun nodes =>
        pure (b.tagsOfKind (· == .intrinsic),
          ["b", "i"].all fun tag => (RenderNode.listParts nodes).any (isHostElement tag))) =
      .ok (["b"], true) := by decide +kernel
  obtain ⟨b, hcompile, hrun⟩ := bind_eq_ok.mp hrun
  obtain ⟨nodes, hnodes, hrun⟩ := bind_eq_ok.mp hrun
  -- `b` is collected, `i` is not, and both are among the parts of what is shown
  obtain ⟨htags, hparts⟩ := Prod.mk.inj (pure_eq_ok.mp hrun)
  rw [mapError_eq_ok] at hcompile hnodes
  refine ⟨b, nodes, hcompile, hnodes, htags, fun tag htag => ?_⟩
  obtain ⟨part, hpart, helement⟩ := List.any_eq_true.mp (List.all_eq_true.mp hparts tag htag)
  obtain ⟨attributes, children, rfl⟩ := exists_of_isHostElement helement
  exact ⟨attributes, children, hpart⟩

/-- The bold print is collected, or it is written in a default. -/
theorem rendered_collected_of_icon :
    ∃ b nodes attributes children, compile "Card" iconSource (Scope.ofConfig {}) = .ok b ∧
      b.instantiate [] ⟨20, 3⟩ = .ok nodes ∧
      Value.node (.element "b" .intrinsic attributes children) ∈ RenderNode.listParts nodes ∧
      ("b" ∈ b.tagsOfKind (· == .intrinsic) ∨ ⟨"b", .intrinsic⟩ ∈ b.defaulted) := by
  obtain ⟨b, nodes, hcompile, hnodes, -, hparts⟩ := rendered_iconSource
  obtain ⟨attributes, children, hpart⟩ := hparts "b" (by simp)
  exact ⟨b, nodes, attributes, children, hcompile, hnodes, hpart,
    rendered_collected hcompile hnodes hpart⟩

/-- The icon is rendered and not collected. -/
theorem rendered_not_collected :
    ∃ b nodes attributes children, compile "Card" iconSource (Scope.ofConfig {}) = .ok b ∧
      b.instantiate [] ⟨20, 3⟩ = .ok nodes ∧
      Value.node (.element "i" .intrinsic attributes children) ∈ RenderNode.listParts nodes ∧
      "i" ∉ b.tagsOfKind (· == .intrinsic) := by
  obtain ⟨b, nodes, hcompile, hnodes, htags, hparts⟩ := rendered_iconSource
  obtain ⟨attributes, children, hpart⟩ := hparts "i" (by simp)
  exact ⟨b, nodes, attributes, children, hcompile, hnodes, hpart, by simp [htags]⟩

end ComponentCanvas.Blueprint
