import ComponentCanvas.Blueprint.Compilation
import ComponentCanvas.Proofs.Blueprint.Lowering
import ComponentCanvas.Proofs.Except
import ComponentCanvas.Proofs.Fields

/-!
# Compiled Blueprints

A compiled blueprint is what lowering makes out of a script.  It has the type that it is compiled
for, its helpers are the functions that the script declares at the top level, and its tags have the
kinds that the script gives them.
-/

namespace ComponentCanvas.Blueprint

variable {program : Script.Program} {typeId source factoryName sourceHash : String} {scope : Scope}
  {capabilities : List String} {b : Blueprint}

/-- What a script as a whole says about its tags. -/
def surroundings (program : Script.Program) (source : String) (scope : Scope) : Surroundings :=
  ⟨source.toList, scope, helperNames (declarations program)⟩

/-- A blueprint holds what is given with its script, what the script declares, and as its factory
the helper of that name. -/
theorem ofProgram?_eq_some :
    ofProgram? program source scope typeId factoryName capabilities sourceHash = some b ↔
      ∃ factory,
        Fields.get? (helpersOf (surroundings program source scope) (declarations program))
          factoryName = some factory ∧
        b = {
          typeId := typeId
          factoryName := factoryName
          factory := factory
          constants := constantsOf (surroundings program source scope) (declarations program)
          helpers := helpersOf (surroundings program source scope) (declarations program)
          capabilities := capabilities
          sourceHash := sourceHash } := by
  constructor
  · intro h
    obtain ⟨factory, hfactory, hb⟩ := Option.bind_eq_some_iff.mp h
    exact ⟨factory, hfactory, (Option.some.inj hb).symm⟩
  · rintro ⟨factory, hfactory, rfl⟩
    exact Option.bind_eq_some_iff.mpr ⟨factory, hfactory, rfl⟩

/-- The parts of a blueprint that come from the script. -/
theorem eq_of_ofProgram?
    (h : ofProgram? program source scope typeId factoryName capabilities sourceHash = some b) :
    b.typeId = typeId ∧
      b.constants = constantsOf (surroundings program source scope) (declarations program) ∧
      b.helpers = helpersOf (surroundings program source scope) (declarations program) ∧
      Fields.get? b.helpers factoryName = some b.factory := by
  obtain ⟨factory, hfactory, rfl⟩ := ofProgram?_eq_some.mp h
  exact ⟨rfl, rfl, rfl, hfactory⟩

/-- A source compiles if its type has a name and its script is read, passes validation and is
lowered. -/
theorem compile_eq_ok :
    compile typeId source scope = .ok b ↔
      TypeId.canonical typeId ≠ "" ∧ Payload.stripFence source ≠ "" ∧
      ∃ program validated,
        Script.Program.read (Payload.stripFence source) = .ok program ∧
        validate program (Payload.stripFence source) typeId scope = .ok validated ∧
        ofProgram? program (Payload.stripFence source) scope (TypeId.canonical typeId)
          validated.factoryName validated.capabilities (Digest.ofText source) = some b := by
  unfold compile
  dsimp only
  -- the checks are taken in the order in which compilation makes them
  by_cases htype : (TypeId.canonical typeId).isEmpty = true
  · rw [if_pos htype]
    exact iff_of_false nofun fun h => h.1 (String.isEmpty_iff.mp htype)
  rw [if_neg htype]
  by_cases hsource : (Payload.stripFence source).isEmpty = true
  · rw [if_pos hsource]
    exact iff_of_false nofun fun h => h.2.1 (String.isEmpty_iff.mp hsource)
  rw [if_neg hsource]
  rw [String.isEmpty_iff] at htype hsource
  constructor
  · intro h
    -- each of the three steps has succeeded, the last one by giving a blueprint
    obtain ⟨program, hread, h⟩ := bind_eq_ok.mp h
    obtain ⟨validated, hvalidated, h⟩ := bind_eq_ok.mp h
    refine ⟨htype, hsource, program, validated, mapError_eq_ok.mp hread, hvalidated, ?_⟩
    split at h
    · next hprogram => rw [hprogram, pure_eq_ok.mp h]
    · cases h
  · rintro ⟨-, -, program, validated, hread, hvalidated, hprogram⟩
    refine bind_eq_ok.mpr ⟨program, mapError_eq_ok.mpr hread, ?_⟩
    refine bind_eq_ok.mpr ⟨validated, hvalidated, ?_⟩
    rw [hprogram]
    rfl

/-- The digest of the source is all that a blueprint has of the source as given. -/
theorem ofProgram?_eq_map (sourceHash other : String) :
    ofProgram? program source scope typeId factoryName capabilities sourceHash =
      (ofProgram? program source scope typeId factoryName capabilities other).map
        fun b => { b with sourceHash := sourceHash } := by
  unfold ofProgram?
  dsimp only
  cases Fields.get? (helpersOf _ _) factoryName <;> rfl

/-- Two texts with the same source inside a fence compile alike, up to the digest of the text. -/
theorem compile_eq_map {other : String}
    (h : Payload.stripFence source = Payload.stripFence other) :
    compile typeId source scope = (compile typeId other scope).map
      fun b => { b with sourceHash := Digest.ofText source } := by
  unfold compile
  dsimp only
  rw [h]
  split
  · rfl
  split
  · rfl
  -- from here on only the digest still sees the source as it was given
  cases Script.Program.read (Payload.stripFence other) with
  | error e => rfl
  | ok program =>
    dsimp only [Except.mapError, bind, Except.bind]
    cases validate program (Payload.stripFence other) typeId scope with
    | error e => rfl
    | ok validated =>
      dsimp only
      rw [ofProgram?_eq_map (Digest.ofText source) (Digest.ofText other)]
      cases ofProgram? program _ scope _ _ _ (Digest.ofText other) <;> rfl

/-- A compiled blueprint is that of a script. -/
theorem exists_ofProgram?_of_compile (h : compile typeId source scope = .ok b) :
    ∃ program factoryName capabilities,
      ofProgram? program (Payload.stripFence source) scope (TypeId.canonical typeId) factoryName
        capabilities (Digest.ofText source) = some b := by
  obtain ⟨-, -, program, validated, -, -, hprogram⟩ := compile_eq_ok.mp h
  exact ⟨program, _, _, hprogram⟩

/-- A compiled definition has the canonical form of the type that was asked for. -/
theorem typeId_of_compile (h : compile typeId source scope = .ok b) :
    b.typeId = TypeId.canonical typeId := by
  obtain ⟨program, factoryName, capabilities, hprogram⟩ := exists_ofProgram?_of_compile h
  exact (eq_of_ofProgram? hprogram).1

/-- A type without a name is compiled to nothing. -/
theorem typeId_ne_empty (h : compile typeId source scope = .ok b) :
    TypeId.canonical typeId ≠ "" :=
  (compile_eq_ok.mp h).1

/-- The digest of a compiled blueprint is that of its source as given, with the fence. -/
theorem sourceHash_of_compile (h : compile typeId source scope = .ok b) :
    b.sourceHash = Digest.ofText source := by
  obtain ⟨program, factoryName, capabilities, hprogram⟩ := exists_ofProgram?_of_compile h
  obtain ⟨factory, -, rfl⟩ := ofProgram?_eq_some.mp hprogram
  rfl

/-! ## Declarations -/

variable {env : Surroundings} {ds : List Declaration}

/-- The helper that a declaration gives, if it gives one. -/
def helperOf? (env : Surroundings) : Declaration → Option (String × Function)
  | .helper name f => some (name, lowerFunction env f)
  | .constant _ _ => none

/-- The helpers are written in order, and of two with one name the later one counts. -/
theorem helpersOf_eq_ofList : helpersOf env ds = Fields.ofList (ds.filterMap (helperOf? env)) := by
  -- generalized over the helpers that are there already, which the fold carries along
  suffices hfold : ∀ helpers, ds.foldl (fun helpers d => match d with
      | .helper name f => Fields.insert helpers name (lowerFunction env f)
      | .constant _ _ => helpers) helpers =
        Fields.insertAll helpers (ds.filterMap (helperOf? env)) from hfold []
  induction ds with
  | nil => exact fun _ => rfl
  | cons d rest ih =>
    intro helpers
    cases d <;> exact ih _

/-- The names of the helpers are those of the functions that are declared. -/
theorem mem_keys_helpersOf {name : String} :
    name ∈ Fields.keys (helpersOf env ds) ↔ name ∈ helperNames ds := by
  have hnames : Fields.keys (ds.filterMap (helperOf? env)) = helperNames ds := by
    rw [Fields.keys, List.map_filterMap, helperNames]
    exact List.filterMap_congr fun d _ => by cases d <;> rfl
  rw [helpersOf_eq_ofList, Fields.ofList, Fields.mem_keys_insertAll, hnames]
  simp

/-- The mentions of a declaration. -/
def Declaration.mentions : Declaration → List Script.Mention
  | .helper _ f => f.mentions
  | .constant pattern none => pattern.mentions
  | .constant pattern (some e) => pattern.mentions ++ e.mentions

/-- A declaration mentions nothing that its variable does not. -/
theorem Declaration.mentions_ofBinder (binder : Script.Binder) :
    (Declaration.ofBinder binder).mentions ⊆ binder.mentions := by
  intro m hm
  unfold Declaration.ofBinder at hm
  split at hm
  -- the function of a helper is an initial value
  case h_1 | h_2 =>
    rw [mentions] at hm
    simp [Script.Binder.mentions, Script.Expr.mentions, Script.ExprForm.mentions, hm]
  case h_3 init _ _ =>
    cases init with
    | none =>
      rw [mentions] at hm
      simp [Script.Binder.mentions, hm]
    | some e =>
      rw [mentions, List.mem_append] at hm
      rcases hm with hm | hm <;> simp [Script.Binder.mentions, hm]

/-- What one variable mentions is mentioned by all of them together. -/
theorem mentions_subset_binders {binder : Script.Binder} {binders : List Script.Binder}
    (h : binder ∈ binders) : binder.mentions ⊆ Script.Binder.listMentions binders := by
  induction binders with
  | nil => cases h
  | cons first rest ih =>
    rw [Script.Binder.listMentions]
    rcases List.mem_cons.mp h with rfl | h
    · exact List.subset_append_left ..
    · exact List.subset_append_of_subset_right _ (ih h)

/-- What one statement mentions is mentioned by all of them together. -/
theorem mentions_subset_stmts {stmt : Script.Stmt} {stmts : List Script.Stmt}
    (h : stmt ∈ stmts) : stmt.mentions ⊆ Script.Stmt.listMentions stmts := by
  induction stmts with
  | nil => cases h
  | cons first rest ih =>
    rw [Script.Stmt.listMentions]
    rcases List.mem_cons.mp h with rfl | h
    · exact List.subset_append_left ..
    · exact List.subset_append_of_subset_right _ (ih h)

/-- A declaration mentions what its script mentions. -/
theorem mentions_of_mem_declarations {d : Declaration} (h : d ∈ declarations program) :
    d.mentions ⊆ program.mentions := by
  obtain ⟨stmt, hstmt, hd⟩ := List.mem_flatMap.mp h
  refine List.Subset.trans ?_ (mentions_subset_stmts hstmt)
  -- only functions and variables at the top level are declarations
  cases stmt with
  | function f =>
    obtain ⟨name, -, rfl⟩ := Option.map_eq_some_iff.mp (Option.mem_toList.mp hd)
    rw [Script.Stmt.mentions]
    exact List.Subset.refl _
  | vars reach binders =>
    obtain ⟨binder, hbinder, rfl⟩ := List.mem_map.mp hd
    rw [Script.Stmt.mentions]
    exact List.Subset.trans (Declaration.mentions_ofBinder binder)
      (mentions_subset_binders hbinder)
  | _ => cases hd

section Written

variable {p : Policy} {mentions : List Script.Mention}
  (hp : ∀ tag : Script.TagName, tag.mentions ⊆ mentions →
    p.tag ⟨tagText tag, env.tagKind (tagText tag)⟩)
  (hds : ∀ d ∈ ds, d.mentions ⊆ mentions)
include hp hds

/-- The helpers write no tags but those among the mentions of their declarations. -/
theorem permits_helpersOf {entry : String × Function} (h : entry ∈ helpersOf env ds) :
    p.Permits entry.2.written := by
  rw [helpersOf_eq_ofList] at h
  rcases Fields.mem_of_mem_insertAll h with h | h
  · cases h
  · obtain ⟨d, hmem, hd⟩ := List.mem_filterMap.mp h
    cases d with
    | helper name f =>
      obtain rfl := Option.some.inj hd
      exact permits_lowerFunction hp f (hds _ hmem)
    | constant pattern init => cases hd

/-- The constants write no tags but those among the mentions of their declarations. -/
theorem permits_constantsOf {constant : Pattern × Expr} (h : constant ∈ constantsOf env ds) :
    p.Permits (constant.1.written ++ constant.2.written) := by
  obtain ⟨d, hmem, hd⟩ := List.mem_filterMap.mp h
  cases d with
  | helper name f => cases hd
  | constant pattern init =>
    obtain rfl := Option.some.inj hd
    have hmentions := hds _ hmem
    cases init with
    -- without an initial value the constant is undefined, and only its pattern can write tags
    | none =>
      refine Policy.permits_append.mpr ⟨permits_lowerPattern hp pattern hmentions, ?_⟩
      simp [Expr.written]
    | some e =>
      rw [Declaration.mentions, List.append_subset] at hmentions
      exact Policy.permits_append.mpr ⟨permits_lowerPattern hp pattern hmentions.1,
        permits_lowerExpr hp e hmentions.2⟩

end Written

/-- A policy that permits the tags that a script mentions permits all tags that are written in its
blueprint. -/
theorem permits_of_mentions {p : Policy}
    (hp : ∀ tag : Script.TagName, tag.mentions ⊆ program.mentions →
      p.tag ⟨tagText tag, (surroundings program source scope).tagKind (tagText tag)⟩)
    (h : ofProgram? program source scope typeId factoryName capabilities sourceHash = some b) :
    p.Permits b.written := by
  obtain ⟨-, hconstants, hhelpers, hfactory⟩ := eq_of_ofProgram? h
  have hhelper : ∀ entry ∈ b.helpers, p.Permits entry.2.written := by
    rw [hhelpers]
    exact fun entry => permits_helpersOf hp fun _ => mentions_of_mem_declarations
  -- the factory is one of the helpers, so two kinds of code remain
  rw [Blueprint.written, Policy.permits_append, Policy.permits_append]
  refine ⟨fun t ht => ?_, fun t ht => ?_, hhelper _ (Fields.mem_of_get? hfactory)⟩
  · obtain ⟨constant, hconstant, ht⟩ := List.mem_flatMap.mp ht
    rw [hconstants] at hconstant
    exact permits_constantsOf hp (fun _ => mentions_of_mem_declarations) hconstant t ht
  · obtain ⟨entry, hentry, ht⟩ := List.mem_flatMap.mp ht
    exact hhelper entry hentry t ht

/-- All tags that are written in a compiled blueprint have the kinds that the script gives them. -/
theorem permits_of_ofProgram? {p : Policy}
    (hp : ∀ name, p.tag ⟨name, (surroundings program source scope).tagKind name⟩)
    (h : ofProgram? program source scope typeId factoryName capabilities sourceHash = some b) :
    p.Permits b.written :=
  permits_of_mentions (fun _ _ => hp _) h

end ComponentCanvas.Blueprint
