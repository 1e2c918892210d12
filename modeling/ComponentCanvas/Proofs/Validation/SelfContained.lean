import ComponentCanvas.Proofs.Except
import ComponentCanvas.Proofs.Script.Nodes
import ComponentCanvas.Script.Parser
import ComponentCanvas.Validation

/-!
# Self-Contained Sources

A source is turned down for module syntax exactly if a statement at the top level declares that
something is imported or exported, or if a module is loaded anywhere in it, at any depth.

A module item that is no declaration of imports or exports does not count, although it ties the
source to other modules as well: a source that loads a module into a name is accepted.
-/

namespace ComponentCanvas

open Script (Expr Stmt Node Program ModuleItem)

/-! ## Module syntax -/

namespace Script

/-- Whether a statement declares that something is imported or exported. -/
def Stmt.DeclaresModule (s : Stmt) : Prop :=
  ∃ span form parts, s = .moduleItem span (.declaration form) parts

/-- Whether a node itself loads a module at run time. -/
def Node.LoadsModule (node : Node) : Prop := ∃ span, .dynamicImport span ∈ node.own

theorem Node.loadsModule_dynamicImport (span : Text.Span) (parts : List Stmt) :
    LoadsModule (.expr (.mk span (.other .dynamicImport parts))) :=
  ⟨span, List.mem_singleton_self _⟩

end Script

/-! ## The checks -/

namespace Validation

variable {program : Program} {inventory : Inventory} {factories : List Factory}
  {factory : Factory} {typeId source : String} {scope : Scope}

/-- A statement has no form of a module declaration exactly if it declares no module item. -/
theorem moduleForm?_eq_none {s : Stmt} : moduleForm? s = none ↔ ¬ s.DeclaresModule := by
  unfold moduleForm? Stmt.DeclaresModule
  split
  · simp
  · next hother =>
    refine iff_of_true rfl ?_
    rintro ⟨span, form, parts, rfl⟩
    exact hother span form parts rfl

/-- Nothing is imported exactly if no node at any depth loads a module. -/
theorem imports_eq_nil :
    (Inventory.ofMentions program.mentions).imports = [] ↔
      ∀ s ∈ program.body, ∀ node, Node.Within node (.stmt s) → ¬ node.LoadsModule := by
  rw [Inventory.ofMentions, List.filterMap_eq_nil_iff]
  constructor
  · rintro h s hs node hnode ⟨span, hspan⟩
    cases h _ (program.mem_mentions_iff.mpr ⟨s, hs, node, hnode, hspan⟩)
  · intro h m hm
    obtain ⟨s, hs, node, hnode, hown⟩ := program.mem_mentions_iff.mp hm
    -- no other kind of mention counts as an import
    cases m with
    | reference name span => rfl
    | binding name | member name | index name => rfl
    | dynamicImport span => exact absurd ⟨span, hown⟩ (h s hs node hnode)

/-- A script is self-contained if no statement declares a module item and nothing is imported. -/
theorem requireSelfContained_eq_ok :
    requireSelfContained program inventory source = .ok () ↔
      (∀ s ∈ program.body, ¬ s.DeclaresModule) ∧ inventory.imports = [] := by
  have hforms : program.body.findSome? moduleForm? = none ↔
      ∀ s ∈ program.body, ¬ s.DeclaresModule := by
    simp only [List.findSome?_eq_none_iff, moduleForm?_eq_none]
  rw [← hforms]
  -- declarations are looked for first, imports only if there are none
  unfold requireSelfContained
  cases program.body.findSome? moduleForm? with
  | some found => exact ⟨nofun, nofun⟩
  | none =>
    cases inventory.imports with
    | cons span rest => exact ⟨nofun, nofun⟩
    | nil => exact iff_of_true rfl ⟨rfl, rfl⟩

/-- The first check passes a script exactly if no statement declares an import or export and no node
within one loads a module. -/
theorem requireSelfContained_iff :
    requireSelfContained program (.ofMentions program.mentions) source = .ok () ↔
      ∀ s ∈ program.body, ¬ s.DeclaresModule ∧
        ∀ node, Node.Within node (.stmt s) → ¬ node.LoadsModule := by
  rw [requireSelfContained_eq_ok, imports_eq_nil]
  exact ⟨fun h s hs => ⟨h.1 s hs, h.2 s hs⟩,
    fun h => ⟨fun s hs => (h s hs).1, fun s hs => (h s hs).2⟩⟩

/-- A script that is not self-contained is refused with the code for modules. -/
theorem code_of_requireSelfContained {d : Diagnostic}
    (h : requireSelfContained program inventory source = .error d) :
    d.cause.code = "B-ERR-MODULE" := by
  unfold requireSelfContained at h
  -- a declaration, or an import somewhere in the code
  split at h
  · cases h
    rfl
  · split at h
    · cases h
      rfl
    · cases h

theorem code_ne_of_locateFactory {d : Diagnostic}
    (h : locateFactory factories typeId source = .error d) : d.cause.code ≠ "B-ERR-MODULE" := by
  unfold locateFactory at h
  dsimp only at h
  split at h <;> cases h <;> simp [Diagnostic.ofSpan, Diagnostic.general, Cause.code]

theorem code_ne_of_requireMarkup {d : Diagnostic} (h : requireMarkup factory source = .error d) :
    d.cause.code ≠ "B-ERR-MODULE" := by
  unfold requireMarkup at h
  split at h
  · cases h
  · cases h
    simp [Diagnostic.ofSpan, Cause.code]

theorem code_ne_of_requireResolved {d : Diagnostic}
    (h : requireResolved inventory scope source = .error d) :
    d.cause.code ≠ "B-ERR-MODULE" := by
  unfold requireResolved at h
  split at h
  · cases h
  · cases h
    simp [Diagnostic.ofSpan, Cause.code]

end Validation

/-! ## The whole -/

open Validation

section Whole

variable {program : Program} {source typeId : String} {scope : Scope}

/-- Helper: only the first check turns a source down for module syntax. -/
private theorem requireSelfContained_of_validate {d : Diagnostic}
    (h : validate program source typeId scope = .error d) (hcode : d.cause.code = "B-ERR-MODULE") :
    requireSelfContained program (.ofMentions program.mentions) source = .error d := by
  unfold validate at h
  split at h
  · cases h
    simp [Diagnostic.general, Cause.code] at hcode
  rcases bind_eq_error.mp h with h | ⟨_, -, h⟩
  · exact h
  -- the later checks give other codes
  rcases bind_eq_error.mp h with h | ⟨_, -, h⟩
  · exact absurd hcode (code_ne_of_locateFactory h)
  rcases bind_eq_error.mp h with h | ⟨_, -, h⟩
  · exact absurd hcode (code_ne_of_requireMarkup h)
  rcases bind_eq_error.mp h with h | ⟨_, -, h⟩
  · exact absurd hcode (code_ne_of_requireResolved h)
  · cases h

/-- Helper: a source with statements is turned down if the first check fails. -/
private theorem validate_of_requireSelfContained {d : Diagnostic} (hbody : program.body ≠ [])
    (h : requireSelfContained program (.ofMentions program.mentions) source = .error d) :
    validate program source typeId scope = .error d := by
  unfold validate
  rw [if_neg (by simpa using hbody)]
  exact bind_eq_error.mpr (.inl h)

/-- An accepted source has passed the first check. -/
theorem requireSelfContained_of_accepted {validated : Validated}
    (h : validate program source typeId scope = .ok validated) :
    requireSelfContained program (.ofMentions program.mentions) source = .ok () := by
  unfold validate at h
  split at h
  · cases h
  · obtain ⟨_, hcheck, -⟩ := bind_eq_ok.mp h
    exact hcheck

/-- A source is turned down for module syntax exactly if a statement of its body declares an import
or export, or a node within one loads a module.  In an accepted source the statements that have to
do with other modules are of the forms without a declaration, and nothing is loaded at any depth. -/
theorem module_syntax_refused (program : Program) (source typeId : String) (scope : Scope) :
    ((∃ d, validate program source typeId scope = .error d ∧ d.cause.code = "B-ERR-MODULE") ↔
      ∃ s ∈ program.body, s.DeclaresModule ∨
        ∃ node, Node.Within node (.stmt s) ∧ node.LoadsModule) ∧
    ∀ validated, validate program source typeId scope = .ok validated →
      ∀ s ∈ program.body,
        (∀ span item parts, s = .moduleItem span item parts →
          item = .loadedName ∨ item = .exportedValue ∨ item = .exportedNamespace) ∧
        ∀ span parts,
          ¬ Node.Within (.expr (.mk span (.other .dynamicImport parts))) (.stmt s) := by
  refine ⟨⟨?refused, ?offending⟩, ?accepted⟩
  case refused =>
    rintro ⟨d, h, hcode⟩
    have hfails := requireSelfContained_of_validate h hcode
    by_contra hnone
    -- without an offending statement the check would have passed
    rw [requireSelfContained_iff.mpr fun s hs => ?_] at hfails
    · cases hfails
    · exact ⟨fun hdeclares => hnone ⟨s, hs, .inl hdeclares⟩,
        fun node hnode hloads => hnone ⟨s, hs, .inr ⟨node, hnode, hloads⟩⟩⟩
  case offending =>
    rintro ⟨s, hs, hoffends⟩
    cases hcheck : requireSelfContained program (.ofMentions program.mentions) source with
    | ok _ =>
      -- an accepted script has passed the check, statement by statement
      obtain ⟨hdeclares, hloads⟩ := requireSelfContained_iff.mp hcheck s hs
      -- a check that is passed says that neither is there
      rcases hoffends with h | ⟨node, hnode, h⟩
      · exact absurd h hdeclares
      · exact absurd h (hloads node hnode)
    | error d =>
      exact ⟨d, validate_of_requireSelfContained (List.ne_nil_of_mem hs) hcheck,
        code_of_requireSelfContained hcheck⟩
  case accepted =>
    intro validated h s hs
    obtain ⟨hdeclares, hloads⟩ :=
      requireSelfContained_iff.mp (requireSelfContained_of_accepted h) s hs
    refine ⟨?_, fun span parts hnode => hloads _ hnode (Node.loadsModule_dynamicImport span parts)⟩
    rintro span item parts rfl
    -- three kinds of module items declare nothing and are accepted
    cases item with
    | declaration form => exact absurd ⟨span, form, parts, rfl⟩ hdeclares
    | loadedName => exact .inl rfl
    | exportedValue => exact .inr (.inl rfl)
    | exportedNamespace => exact .inr (.inr rfl)

end Whole

/-- A component in which the default of a parameter of a nested function loads a module. -/
def nestedLoadSource : String :=
  "function Card() \x7b const load = (m = import(\"m\")) => m; return <div/>; \x7d"

/-- The source is turned down, so the load is found at its depth. -/
theorem nested_load_refused :
    ∃ program, Program.read nestedLoadSource = .ok program ∧
      ∃ s ∈ program.body, s.DeclaresModule ∨
        ∃ node, Node.Within node (.stmt s) ∧ node.LoadsModule := by
  have hrun : ((Program.read nestedLoadSource).mapError (fun _ => ()) >>= fun program =>
      match validate program nestedLoadSource "Card" (Scope.ofConfig {}) with
      | .error d => pure (d.cause.code == "B-ERR-MODULE")
      | .ok _ => pure false) = .ok true := by
    decide +kernel
  obtain ⟨program, hread, hrun⟩ := bind_eq_ok.mp hrun
  rw [mapError_eq_ok] at hread
  -- the script is refused, so by the theorem it holds what offends
  refine ⟨program, hread,
    (module_syntax_refused program nestedLoadSource "Card" (Scope.ofConfig {})).1.mp ?_⟩
  split at hrun
  · next d h => exact ⟨d, h, eq_of_beq (pure_eq_ok.mp hrun)⟩
  · cases hrun

/-! ## Module items without a declaration -/

/-- A module that is loaded into a name, in front of a component. -/
def loadingSource : String :=
  "import x = require(\"m\");\nfunction Card() \x7b return <div/>; \x7d"

/-- Whether a statement loads a module into a name. -/
def Script.Stmt.loadsName : Stmt → Bool
  | .moduleItem _ .loadedName _ => true
  | _ => false

/-- Whether a statement loads a module under a name can be decided. -/
theorem Script.Stmt.loadsName_iff {s : Stmt} :
    s.loadsName ↔ ∃ span parts, s = .moduleItem span .loadedName parts := by
  unfold loadsName
  split
  · next span parts => exact iff_of_true rfl ⟨span, parts, rfl⟩
  · next hother =>
    refine iff_of_false Bool.false_ne_true ?_
    rintro ⟨span, parts, rfl⟩
    exact hother span parts rfl

/-- The source is accepted, and yet a statement of its body loads a module. -/
theorem loaded_name_accepted :
    ∃ program validated, Program.read loadingSource = .ok program ∧
      validate program loadingSource "Card" (Scope.ofConfig {}) = .ok validated ∧
      ∃ s ∈ program.body, ∃ span parts, s = .moduleItem span .loadedName parts := by
  have hrun : ((Program.read loadingSource).mapError (fun _ => ()) >>= fun program =>
      pure ((validate program loadingSource "Card" (Scope.ofConfig {})).toOption.isSome,
        program.body.any Script.Stmt.loadsName)) = .ok (true, true) := by
    decide +kernel
  obtain ⟨program, hread, hrun⟩ := bind_eq_ok.mp hrun
  rw [mapError_eq_ok] at hread
  obtain ⟨haccepted, hloads⟩ := Prod.mk.inj (pure_eq_ok.mp hrun)
  -- the script is accepted although one of its statements is a module item
  cases hvalidate : validate program loadingSource "Card" (Scope.ofConfig {}) with
  | ok validated =>
    obtain ⟨s, hs, hform⟩ := List.any_eq_true.mp hloads
    exact ⟨program, validated, hread, hvalidate, s, hs, Script.Stmt.loadsName_iff.mp hform⟩
  | error d =>
    rw [hvalidate] at haccepted
    cases haccepted

end ComponentCanvas
