import ComponentCanvas.Proofs.Blueprint.Compilation
import ComponentCanvas.Proofs.Blueprint.Watching

/-!
# Rendered Elements

Elements come out of a rendering with the kind that their tag has in the script, and with
properties that the host can read.  That holds wherever an element lies: among the nodes, below
them, or inside a property.
-/

namespace ComponentCanvas.Blueprint

/-- What is known of an element that a blueprint under a scope is rendered to. -/
structure WellFormed (b : Blueprint) (scope : Scope) (tag : String) (kind : TagKind)
    (props : Fields Value) : Prop where
  intrinsic : kind = .intrinsic ↔
    (∃ c ∈ tag.toList.head?, 'a' ≤ c ∧ c ≤ 'z') ∨ '.' ∈ tag.toList
  atom : kind = .atom → scope.isAtom tag = true ∧ tag ∉ Fields.keys b.helpers
  catalog : kind ≠ .catalog
  reserved : "key" ∉ Fields.keys props ∧ "ref" ∉ Fields.keys props
  shown : ∀ field ∈ props, field.2 ≠ .undefined ∧ (∀ f, field.2 ≠ .function f) ∧
    ∀ name, field.2 ≠ .builtin name

/-- The policy that elements have the kinds of their tags and keep what is shown. -/
def kindPolicy (env : Surroundings) : Policy where
  builtin _ := True
  tag t := t.kind = env.tagKind t.name
  element t props := t.kind = env.tagKind t.name ∧ ∃ all, props = shownProps all
  builtin_member _ _ := trivial
  builtin_setState := trivial
  element_shown props h := ⟨h, props, rfl⟩

section Kinds

variable {env : Surroundings} {tag : String}

/-- The test by which a tag names a host element. -/
theorem hostTag_iff :
    ((tag.toList.head?.any fun c => 'a' ≤ c && c ≤ 'z') || tag.toList.contains '.') = true ↔
      (∃ c ∈ tag.toList.head?, 'a' ≤ c ∧ c ≤ 'z') ∨ '.' ∈ tag.toList := by
  simp [Option.any_eq_true]

theorem tagKind_eq_intrinsic : env.tagKind tag = .intrinsic ↔
    (∃ c ∈ tag.toList.head?, 'a' ≤ c ∧ c ≤ 'z') ∨ '.' ∈ tag.toList := by
  rw [← hostTag_iff]
  unfold Surroundings.tagKind
  split_ifs with hhost
  · exact iff_of_true rfl hhost
  all_goals exact iff_of_false not_false hhost

theorem atom_of_tagKind (h : env.tagKind tag = .atom) :
    env.scope.isAtom tag = true ∧ tag ∉ env.functions := by
  unfold Surroundings.tagKind at h
  split_ifs at h with hhost hfunction hatom
  exact ⟨hatom, by simpa using hfunction⟩

theorem tagKind_ne_catalog : env.tagKind tag ≠ .catalog := by
  unfold Surroundings.tagKind
  split_ifs <;> exact TagKind.noConfusion

end Kinds

theorem mem_shownProps {props : Fields Value} {field : String × Value}
    (h : field ∈ shownProps props) :
    field.1 ∉ reservedProps ∧ field.2.isRenderable = true := by
  obtain ⟨-, h⟩ := List.mem_filter.mp h
  simpa using h

/-- The properties that are shown have no reserved names. -/
theorem notMem_keys_shownProps {props : Fields Value} {name : String}
    (h : name ∈ reservedProps) : name ∉ Fields.keys (shownProps props) := by
  intro hname
  obtain ⟨field, hfield, rfl⟩ := List.mem_map.mp hname
  exact (mem_shownProps hfield).1 h

/-- An element whose kind is that of its tag, with the properties that are shown. -/
theorem wellFormed_of_kind {b : Blueprint} (env : Surroundings)
    (hhelpers : ∀ name, name ∈ Fields.keys b.helpers ↔ name ∈ env.functions) (tag : String)
    (props : Fields Value) :
    WellFormed b env.scope tag (env.tagKind tag) (shownProps props) where
  intrinsic := tagKind_eq_intrinsic
  atom h := ⟨(atom_of_tagKind h).1, fun hmem => (atom_of_tagKind h).2 ((hhelpers tag).mp hmem)⟩
  catalog := tagKind_ne_catalog
  reserved := ⟨notMem_keys_shownProps (by simp [reservedProps]),
    notMem_keys_shownProps (by simp [reservedProps])⟩
  shown field hfield := by
    have hrenderable := (mem_shownProps hfield).2
    refine ⟨?_, fun f => ?_, fun name => ?_⟩ <;>
      · intro hvalue
        rw [hvalue] at hrenderable
        cases hrenderable

/-- Every element that a compiled blueprint is rendered to is well formed. -/
theorem elements_wellFormed {typeId source : String} {scope : Scope} {b : Blueprint}
    (h : compile typeId source scope = .ok b) {props : Bag} {limits : Limits}
    {nodes : List RenderNode} (hok : b.instantiate props limits = .ok nodes) {tag : String}
    {kind : TagKind} {attributes : Fields Value} {children : List RenderNode}
    (hpart : Value.node (.element tag kind attributes children) ∈ RenderNode.listParts nodes) :
    WellFormed b scope tag kind attributes := by
  obtain ⟨program, factoryName, capabilities, hprogram⟩ := exists_ofProgram?_of_compile h
  -- the code keeps to the kinds of its tags, so what it renders does too
  have hwritten : (kindPolicy (surroundings program (Payload.stripFence source) scope)).Permits
      b.written := permits_of_ofProgram? (fun _ => rfl) hprogram
  have hnodes := (watch_meets (fun _ _ => trivial) hwritten props limits).2.2 nodes hok
  obtain ⟨node, hnode, hpart⟩ := RenderNode.mem_listParts.mp hpart
  obtain ⟨hkind, all, rfl⟩ := hnodes node hnode _ hpart
  dsimp only at hkind
  subst hkind
  refine wellFormed_of_kind (surroundings program (Payload.stripFence source) scope)
    (fun name => ?_) tag all
  rw [(eq_of_ofProgram? hprogram).2.2.1]
  exact mem_keys_helpersOf

/-- A card that shows a badge, which is an icon. -/
def badgeSource : String :=
  "function Badge() \x7b return <Icon key=\"k\" label=\"new\"/>; \x7d
   function Card() \x7b return <Badge/>; \x7d"

/-- A scope in which icons are primitive elements. -/
def iconScope : Scope := [("Icon", ⟨"Icon", "atoms", .named, true⟩)]

/-- The icon is well formed: it is a primitive element, and its key is not shown. -/
theorem badge_wellFormed :
    ∃ b nodes kind attributes children, compile "Card" badgeSource iconScope = .ok b ∧
      b.instantiate [] ⟨20, 3⟩ = .ok nodes ∧
      Value.node (.element "Icon" kind attributes children) ∈ RenderNode.listParts nodes ∧
      WellFormed b iconScope "Icon" kind attributes := by
  have hrun : ((compile "Card" badgeSource iconScope).mapError (fun _ => ()) >>= fun b =>
      (b.instantiate [] ⟨20, 3⟩).mapError (fun _ => ()) >>= fun nodes =>
        pure (nodes.head?.bind RenderNode.tag?)) = .ok (some "Icon") := by decide +kernel
  obtain ⟨b, hcompile, hrun⟩ := bind_eq_ok.mp hrun
  obtain ⟨nodes, hnodes, htag⟩ := bind_eq_ok.mp hrun
  obtain ⟨node, hnode, htag⟩ := Option.bind_eq_some_iff.mp (pure_eq_ok.mp htag)
  rw [mapError_eq_ok] at hcompile hnodes
  -- what is shown is the element itself, and it counts among its own parts
  cases node with
  | text s => cases htag
  | element tag kind attributes children =>
    obtain rfl := Option.some.inj htag
    have hpart : Value.node (.element "Icon" kind attributes children) ∈
        RenderNode.listParts nodes :=
      RenderNode.mem_listParts.mpr ⟨_, List.mem_of_head? hnode, by simp [RenderNode.parts]⟩
    exact ⟨b, nodes, kind, attributes, children, hcompile, hnodes, hpart,
      elements_wellFormed hcompile hnodes hpart⟩

end ComponentCanvas.Blueprint
