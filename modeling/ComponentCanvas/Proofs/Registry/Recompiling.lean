import ComponentCanvas.Proofs.Registry.Record

/-!
# What Is Not Compiled Again

A source that is registered already is not compiled again: the unit that is there is handed back.
The registry looks that unit up by canonical type, while a factory is located by the type as it is
written.  So the unit is the one that compiling would give exactly if the factory of the unit is
what the type, as it is written now, names in the source; and a definition that compiles is
accepted in any case.
-/

namespace ComponentCanvas

namespace Blueprint

variable {typeId other source : String} {scope : Scope} {b b' : Blueprint}

/-! ## One source under two spellings of its type -/

/-- The names of the functions in a source that a type, as it is written, names as factories. -/
def factoryNames (typeId source : String) : List String :=
  let script := (Script.Program.read (Payload.stripFence source)).toOption
  script.elim [] fun program =>
    ((Factory.ofProgram program).filter (Validation.hasNameOf typeId)).map (·.name)

theorem validate_congr {program : Script.Program}
    (h : Validation.locateFactory (Factory.ofProgram program) typeId source =
      Validation.locateFactory (Factory.ofProgram program) other source) :
    validate program source typeId scope = validate program source other scope := by
  unfold validate
  rw [h]

/-- The factory of a unit is the only one that the type names. -/
theorem factoryNames_of_compile (h : compile typeId source scope = .ok b) :
    factoryNames typeId source = [b.factoryName] := by
  obtain ⟨-, -, program, validated, hread, hvalidate, hprogram⟩ := compile_eq_ok.mp h
  obtain ⟨factory, hfactory, -, rfl⟩ := exists_factory_of_validate hvalidate
  obtain ⟨_, -, rfl⟩ := ofProgram?_eq_some.mp hprogram
  rw [factoryNames, hread]
  dsimp only [Except.toOption, Option.elim]
  rw [Validation.filter_hasNameOf hfactory, List.map_singleton]

/-- A source that compiles for one spelling of a type compiles to the same unit for another one
exactly if that spelling names the same factory. -/
theorem compile_eq_iff_factoryNames (h : compile typeId source scope = .ok b)
    (htype : TypeId.canonical other = TypeId.canonical typeId) :
    compile other source scope = .ok b ↔ factoryNames other source = [b.factoryName] := by
  refine ⟨factoryNames_of_compile, fun hnames => ?_⟩
  obtain ⟨hname, hsource, program, validated, hread, hvalidate, hprogram⟩ := compile_eq_ok.mp h
  obtain ⟨factory, hfactory, -, rfl⟩ := exists_factory_of_validate hvalidate
  have hunit : b.factoryName = factory.name := by
    obtain ⟨_, -, rfl⟩ := ofProgram?_eq_some.mp hprogram
    rfl
  rw [factoryNames, hread, hunit] at hnames
  obtain ⟨found, hfound, hsame⟩ := List.map_eq_singleton_iff.mp hnames
  -- there is only one function of this name, so both spellings locate it
  obtain rfl : found = factory := by
    have hmem : found ∈ (Factory.ofProgram program).filter (·.name == factory.name) := by
      refine List.mem_filter.mpr ⟨?_, beq_iff_eq.mpr hsame⟩
      exact (List.mem_filter.mp (hfound ▸ List.mem_singleton_self found)).1
    rw [Validation.filter_name_of_locateFactory hfactory] at hmem
    exact List.mem_singleton.mp hmem
  -- validation asks for the type only when it locates the factory
  have hlocate : Validation.locateFactory (Factory.ofProgram program) other
      (Payload.stripFence source) = .ok found := Validation.locateFactory_of_filter hfound
  rw [← htype] at hname hprogram
  exact compile_eq_ok.mpr ⟨hname, hsource, program, _, hread,
    (validate_congr (hlocate.trans hfactory.symm)).trans hvalidate, hprogram⟩

/-- Units of one source for two spellings of a type have nothing but their factories that could
differ. -/
theorem eq_of_compile (h : compile typeId source scope = .ok b)
    (h' : compile other source scope = .ok b')
    (htype : TypeId.canonical other = TypeId.canonical typeId) :
    b' = { b with factoryName := b'.factoryName, factory := b'.factory } := by
  obtain ⟨-, -, program, validated, hread, hvalidate, hprogram⟩ := compile_eq_ok.mp h
  obtain ⟨-, -, program', validated', hread', hvalidate', hprogram'⟩ := compile_eq_ok.mp h'
  -- both are lowered from one script, with the capabilities that it uses
  obtain rfl : program = program' := Except.ok.inj (hread.symm.trans hread')
  obtain ⟨_, -, -, rfl⟩ := exists_factory_of_validate hvalidate
  obtain ⟨_, -, -, rfl⟩ := exists_factory_of_validate hvalidate'
  obtain ⟨_, -, rfl⟩ := ofProgram?_eq_some.mp hprogram
  obtain ⟨_, -, rfl⟩ := ofProgram?_eq_some.mp hprogram'
  rw [htype]

end Blueprint

namespace Registry

variable {scope : Scope} {submitted : List Definition} {outcomes : List Outcome}
  {registry : Registry} {definition : Definition}

/-! ## The unit that is handed back -/

/-- Whether the digests of definitions tell their sources apart. -/
def DigestsDiffer (definitions : List Definition) : Prop :=
  ∀ definition ∈ definitions, ∀ other ∈ definitions,
    Digest.ofText definition.source = Digest.ofText other.source →
      definition.source = other.source

/-- Whether a unit is what one of the submitted definitions is compiled to, which has the type and
the source of another definition. -/
def IsUnitOf (scope : Scope) (submitted : List Definition) (definition : Definition)
    (b : Blueprint) : Prop :=
  ∃ earlier ∈ submitted,
    TypeId.canonical earlier.typeId = TypeId.canonical definition.typeId ∧
    earlier.source = definition.source ∧
    Blueprint.compile earlier.typeId earlier.source scope = .ok b

/-- With such digests a unit is handed back exactly if it is the one that is registered for the type
and that source was compiled to it. -/
theorem Recorded.current?_iff (h : Recorded scope submitted outcomes registry)
    (hdigests : DigestsDiffer (submitted ++ [definition])) {b : Blueprint} :
    registry.current? definition = some b ↔
      (∃ entry, registry.get? definition.typeId = some entry ∧ entry.blueprint = b) ∧
        IsUnitOf scope submitted definition b := by
  rw [current?_eq_some]
  refine and_congr_right fun hentry => ?_
  constructor
  · intro hhash
    -- the entry has an origin with this digest, so with this source
    obtain ⟨entry, hget, rfl⟩ := hentry
    obtain ⟨earlier, hmem, htype, hcompile, hearlier, -⟩ :=
      (h.isRecordOf (Fields.mem_of_get? hget)).origin
    refine ⟨earlier, hmem, htype, ?_, hcompile⟩
    exact hdigests earlier (List.mem_append_left _ hmem) definition (by simp)
      (hearlier.symm.trans hhash)
  · rintro ⟨earlier, -, -, hsource, hcompile⟩
    rw [Blueprint.sourceHash_of_compile hcompile, hsource]

/-- What registering a definition has to do with compiling it. -/
structure Recompiles (scope : Scope) (submitted : List Definition) (registry : Registry)
    (definition : Definition) : Prop where
  /-- A source is current if it is the one that the unit of its type was compiled from. -/
  current_iff : ∀ b, registry.current? definition = some b ↔
    (∃ entry, registry.get? definition.typeId = some entry ∧ entry.blueprint = b) ∧
      IsUnitOf scope submitted definition b
  /-- Any other source is compiled. -/
  fresh : registry.current? definition = none →
    (registry.register definition).2 =
      Blueprint.compile definition.typeId definition.source scope
  /-- A current one is accepted with the unit that is there, and nothing changes. -/
  kept : ∀ b, registry.current? definition = some b →
    registry.register definition = (registry, .ok b)
  /-- Compiling gives the same exactly if the type, as it is written, names the factory of the
  unit. -/
  agrees_iff :
    (registry.register definition).2 =
        Blueprint.compile definition.typeId definition.source scope ↔
      ∀ b, registry.current? definition = some b →
        Blueprint.factoryNames definition.typeId definition.source = [b.factoryName]
  /-- A definition that compiles is accepted, and only the factory of its unit can be another. -/
  accepts : ∀ b, Blueprint.compile definition.typeId definition.source scope = .ok b →
    ∃ b', (registry.register definition).2 = .ok b' ∧
      b' = { b with factoryName := b'.factoryName, factory := b'.factory }

/-- Registering a definition compiles it unless its unit is current. -/
theorem Recorded.recompiles (h : Recorded scope submitted outcomes registry)
    (hdigests : DigestsDiffer (submitted ++ [definition])) :
    Recompiles scope submitted registry definition where
  current_iff _ := h.current?_iff hdigests
  fresh hcurrent := by rw [register_of_not_current hcurrent, compile, h.inScope]
  kept _ hcurrent := register_of_current hcurrent
  agrees_iff := by
    cases hcurrent : registry.current? definition with
    | none =>
      refine iff_of_true ?_ (by simp)
      rw [register_of_not_current hcurrent, compile, h.inScope]
    | some b =>
      -- the unit comes from the same source, so only the spellings of the type are compared
      obtain ⟨-, earlier, -, htype, hsource, hearlier⟩ := (h.current?_iff hdigests).mp hcurrent
      rw [hsource] at hearlier
      rw [register_of_current hcurrent, eq_comm,
        Blueprint.compile_eq_iff_factoryNames hearlier htype.symm]
      simp
  accepts b hb := by
    cases hcurrent : registry.current? definition with
    | none =>
      refine ⟨b, ?_, rfl⟩
      rw [register_of_not_current hcurrent, compile, h.inScope, hb]
    | some b' =>
      obtain ⟨-, earlier, -, htype, hsource, hearlier⟩ := (h.current?_iff hdigests).mp hcurrent
      rw [hsource] at hearlier
      exact ⟨b', by rw [register_of_current hcurrent], Blueprint.eq_of_compile hb hearlier htype⟩

/-- Registering a definition is compiling it, unless its source is the one that the unit of its type
was compiled from.  Then that unit is handed back, for every spelling of the type, and it is the one
that compiling gives exactly if the spelling names the factory of the unit. -/
theorem register_recompiles (scope : Scope) (submissions : List Submission)
    (definition : Definition)
    (hdigests : DigestsDiffer (submissions.flatMap Submission.definitions ++ [definition])) :
    Recompiles scope (submissions.flatMap Submission.definitions)
      (run ⟨scope, []⟩ submissions).1 definition :=
  ((recorded_empty scope).run submissions).recompiles hdigests

/-- A price tag whose factory is named as one spelling of its type. -/
def priceTag (typeId : String) : Definition :=
  ⟨typeId, .other, [], "function Price_tag() \x7b return <div/>; \x7d"⟩

/-- Under that spelling, with blanks around it, the unit that is handed back is what the source
compiles to. -/
theorem register_recompiles_of_priceTag :
    let registry := (run ⟨Scope.ofConfig {}, []⟩ [.single (priceTag "Price_tag")]).1
    (registry.current? (priceTag " Price_tag ")).isSome = true ∧
      (registry.register (priceTag " Price_tag ")).2 =
        Blueprint.compile " Price_tag " (priceTag "").source (Scope.ofConfig {}) := by
  intro registry
  have hrecompiles : Recompiles _ _ registry (priceTag " Price_tag ") :=
    register_recompiles (Scope.ofConfig {}) [.single (priceTag "Price_tag")]
      (priceTag " Price_tag ") (by simp [DigestsDiffer, Submission.definitions, priceTag])
  have hname : (registry.current? (priceTag " Price_tag ")).map (·.factoryName) =
      some "Price_tag" := by decide +kernel
  have hnames : Blueprint.factoryNames " Price_tag " (priceTag "").source = ["Price_tag"] := by
    decide +kernel
  -- the spellings of the type differ in blanks only, so the factory has the same name
  refine ⟨?_, hrecompiles.agrees_iff.mpr fun b hb => ?_⟩
  · rw [← Option.isSome_map, hname]
    rfl
  · rw [hb, Option.map_some, Option.some_inj] at hname
    rw [hname]
    exact hnames

/-- Under the canonical spelling it is handed back as well, but the source does not compile. -/
theorem register_of_other_spelling :
    let registry := (run ⟨Scope.ofConfig {}, []⟩ [.single (priceTag "Price_tag")]).1
    DigestsDiffer [priceTag "Price_tag", priceTag "PriceTag"] ∧
      (registry.register (priceTag "PriceTag")).2.isOk = true ∧
      (Blueprint.compile "PriceTag" (priceTag "PriceTag").source (Scope.ofConfig {})).isOk =
        false :=
  ⟨by simp [DigestsDiffer, priceTag], by decide +kernel, by decide +kernel⟩

end Registry

end ComponentCanvas
