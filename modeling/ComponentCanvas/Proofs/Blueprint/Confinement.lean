import ComponentCanvas.Proofs.Blueprint.Watching

/-!
# Confinement

The builtins that a component can get hold of while it is rendered are the safe globals, its
capabilities, what sets a state, and members of these.  No computed name, spread, rest or callback
makes a builtin out of a text.
-/

namespace ComponentCanvas.Blueprint

/-- Whether a builtin is given to a blueprint under a name. -/
def IsRoot (b : Blueprint) (name : String) : Prop :=
  name ∈ Scope.safeGlobals ∨ name ∈ b.capabilities ∨ name = "setState"

/-- The name of a member of a member of a builtin, and so on. -/
def memberName (root : String) (members : List String) : String :=
  members.foldl (fun name member => name ++ "." ++ member) root

/-- Whether a builtin is one that is given to a blueprint, or reached from it through members. -/
def IsConfined (b : Blueprint) (name : String) : Prop :=
  ∃ root members, IsRoot b root ∧ name = memberName root members

/-- Whether all builtins in values are confined. -/
def BuiltinsConfined (b : Blueprint) (parts : List Value) : Prop :=
  ∀ name, Value.builtin name ∈ parts → IsConfined b name

/-- What is confined at a moment of a rendering. -/
structure Moment.Confined (b : Blueprint) (moment : Moment) : Prop where
  /-- The result of an evaluation or a call. -/
  result : ∀ v, moment.event = .result v → BuiltinsConfined b v.parts
  bound : ∀ name v, moment.event = .bound name v → BuiltinsConfined b v.parts
  frames : ∀ frame ∈ moment.frames, ∀ field ∈ frame, BuiltinsConfined b field.2.parts
  called : ∀ name, moment.event = .called name → IsConfined b name
  /-- A builtin that is called under a name without a dot, such as a hook, is a safe global or what
  sets a state unless it is a capability. -/
  hook : ∀ name, moment.event = .called name → '.' ∉ name.toList → name ∉ Scope.safeGlobals →
    name ≠ "setState" → name ∈ b.capabilities

variable {b : Blueprint}

theorem IsConfined.member {name : String} (h : IsConfined b name) (member : String) :
    IsConfined b (name ++ "." ++ member) := by
  obtain ⟨root, members, hroot, rfl⟩ := h
  exact ⟨root, members ++ [member], hroot, by rw [memberName, memberName, List.foldl_append]; rfl⟩

/-- Only the name of a root has no dot. -/
theorem IsConfined.isRoot {name : String} (h : IsConfined b name) (hdot : '.' ∉ name.toList) :
    IsRoot b name := by
  obtain ⟨root, members, hroot, rfl⟩ := h
  rcases List.eq_nil_or_concat members with rfl | ⟨front, last, rfl⟩
  · exact hroot
  · refine absurd ?_ hdot
    simp [memberName]

/-- The policy that permits the builtins that are confined. -/
def confinement (b : Blueprint) : Policy where
  builtin := IsConfined b
  tag _ := True
  element _ _ := True
  builtin_member member h := h.member member
  builtin_setState := ⟨"setState", [], Or.inr (Or.inr rfl), rfl⟩
  element_shown _ _ := trivial

theorem builtinsConfined_of_meets {v : Value} (h : v.Meets (confinement b)) :
    BuiltinsConfined b v.parts :=
  fun name hname => h (.builtin name) hname

/-- A moment at which everything meets the confinement is confined in every respect. -/
theorem Moment.confined_of_meets {moment : Moment} (h : moment.Meets (confinement b)) :
    moment.Confined b := by
  obtain ⟨event, frames⟩ := moment
  obtain ⟨hevent, hframes⟩ := h
  constructor
  -- results, bindings and frames hold values, for which the policy says it
  case result =>
    rintro v rfl
    exact builtinsConfined_of_meets hevent
  case bound =>
    rintro name v rfl
    exact builtinsConfined_of_meets hevent
  case frames =>
    intro frame hframe field hfield
    exact builtinsConfined_of_meets (hframes frame hframe field hfield)
  case called =>
    rintro name rfl
    exact hevent
  -- the root of the name is a global, a capability or the setter of a state
  case hook =>
    rintro name rfl hdot hsafe hstate
    rcases IsConfined.isRoot hevent hdot with hroot | hroot | hroot
    · exact absurd hroot hsafe
    · exact hroot
    · exact absurd hroot hstate

/-- While a blueprint is rendered, with any properties and under any limits, all builtins are
confined: in results, in frames, in calls, and in the nodes that come out.  The rendering that is
watched is the one that gives these nodes, and no result of an evaluation is left out. -/
theorem rendering_confined (b : Blueprint) (props : Bag) (limits : Limits) :
    (b.watch props limits).1 = b.instantiate props limits ∧
      (∀ moment ∈ (b.watch props limits).2, moment.Confined b) ∧
      (∀ nodes, b.instantiate props limits = .ok nodes →
        BuiltinsConfined b (RenderNode.listParts nodes)) ∧
      ∀ env call e, TakesNote (eval env call e) := by
  -- a name that is its own root needs no members
  have hbuiltin : ∀ name, name ∈ Scope.safeGlobals ∨ name ∈ b.capabilities →
      (confinement b).builtin name := by
    rintro name (h | h)
    · exact ⟨name, [], Or.inl h, rfl⟩
    · exact ⟨name, [], Or.inr (Or.inl h), rfl⟩
  obtain ⟨houtcome, hseen, hnodes⟩ := watch_meets hbuiltin (fun _ _ => trivial) props limits
  refine ⟨houtcome, fun moment hmoment => Moment.confined_of_meets (hseen moment hmoment),
    ?_, takesNote_eval⟩
  intro nodes hok name hname
  obtain ⟨node, hnode, hpart⟩ := RenderNode.mem_listParts.mp hname
  exact hnodes nodes hok node hnode _ hpart

/-- A switch that keeps its label in a state. -/
def labelSwitch : Blueprint where
  typeId := "Switch"
  factoryName := "Switch"
  factory := .mk 0 [.name "props"]
    [.bind (.array [.element (.name "label"), .element (.name "setLabel")] none)
      (some (.call (.name "useState") [.string "off"])),
     .ret (some (.markup (.element "button" .intrinsic [.field "onClick" (.name "setLabel")]
      [.expr (.name "label")])))]
  constants := []
  helpers := []
  capabilities := ["useState"]
  sourceHash := ""

/-- The switch calls its hook, and everything is confined when it does. -/
theorem labelSwitch_confined :
    labelSwitch.instantiate [] ⟨20, 2⟩ = .ok [.element "button" .intrinsic [] [.text "off"]] ∧
      ∃ moment ∈ (labelSwitch.watch [] ⟨20, 2⟩).2,
        moment.event = .called "useState" ∧ moment.Confined labelSwitch := by
  have hmem : (⟨.called "useState", [[("props", .map [])], []]⟩ : Moment) ∈
      (labelSwitch.watch [] ⟨20, 2⟩).2 := List.mem_of_getElem? (i := 3) rfl
  exact ⟨rfl, _, hmem, rfl, (rendering_confined labelSwitch [] ⟨20, 2⟩).2.1 _ hmem⟩

end ComponentCanvas.Blueprint
