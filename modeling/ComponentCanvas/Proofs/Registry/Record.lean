import ComponentCanvas.Proofs.Registry.Turns

/-!
# The Record of a Registry

A registry that starts out empty is a record of what was submitted to it, one by one or in batches:
every entry comes from a definition that was accepted, under the canonical type of that definition,
and the entries stand in the order in which their types were first accepted.  What is turned down
leaves no trace, and what was just accepted is not compiled again.
-/

namespace ComponentCanvas.Registry

variable {registry now : Registry} {scope : Scope} {definition : Definition}
  {submitted : List Definition} {outcomes : List Outcome}

/-! ## What a turn can do -/

/-- What becomes of a registry when it is a definition's turn, and with which outcome. -/
inductive Turn (now : Registry) (definition : Definition) : Registry × Outcome → Prop where
  /-- The source is registered already. -/
  | current {b : Blueprint} (h : now.current? definition = some b) :
    Turn now definition (now, .ok b)
  /-- The source is compiled, and its unit is registered. -/
  | compiled {b : Blueprint} (h : now.compile definition = .ok b) :
    Turn now definition (now.settle definition (.ok b), .ok b)
  /-- The definition is turned down. -/
  | rejected (d : Diagnostic) : Turn now definition (now, .error d)

theorem turn_compile (now : Registry) (definition : Definition) :
    Turn now definition
      (now.settle definition (now.compile definition), now.compile definition) := by
  cases hcompile : now.compile definition with
  | error d => exact .rejected d
  | ok b => exact .compiled hcompile

/-- Registering is one of the things that a turn can do. -/
theorem turn_register (now : Registry) (definition : Definition) :
    Turn now definition (now.register definition) := by
  cases hcurrent : now.current? definition with
  | some b =>
    rw [register_of_current hcurrent]
    exact .current hcurrent
  | none =>
    rw [register_of_not_current hcurrent]
    exact turn_compile now definition

/-- A turn in a batch is one of the things that a turn can do. -/
theorem turn_takeTurn {before : Registry} (hscope : now.scope = before.scope)
    (definition : Definition) : Turn now definition (before.takeTurn now definition) := by
  cases hbefore : before.current? definition with
  | none =>
    rw [takeTurn_of_none hscope hbefore]
    exact turn_compile now definition
  -- the unit is looked up again, and it may be lost
  | some b =>
    rw [takeTurn, hbefore]
    cases hcurrent : now.current? definition with
    | some b' => exact .current hcurrent
    | none => exact .rejected _

/-- A source is registered if the entry of its type has its digest. -/
theorem current?_eq_some {b : Blueprint} :
    now.current? definition = some b ↔
      (∃ entry, now.get? definition.typeId = some entry ∧ entry.blueprint = b) ∧
        b.sourceHash = Digest.ofText definition.source := by
  rw [current?, Option.bind_eq_bind, Option.bind_eq_some_iff]
  constructor
  · rintro ⟨entry, hget, hentry⟩
    split at hentry
    -- the unit counts as current if its digest is that of the source
    · next hhash =>
      obtain rfl := Option.some.inj hentry
      exact ⟨⟨entry, hget, rfl⟩, eq_of_beq hhash⟩
    · cases hentry
  · rintro ⟨⟨entry, hget, rfl⟩, hhash⟩
    exact ⟨entry, hget, if_pos (beq_iff_eq.mpr hhash)⟩

theorem exists_entry_of_current? {b : Blueprint} (h : now.current? definition = some b) :
    ∃ entry, now.get? definition.typeId = some entry ∧ entry.blueprint = b :=
  (current?_eq_some.mp h).1

/-- A definition that is turned down leaves the registry as it was. -/
theorem Turn.eq_of_error {result : Registry × Outcome} (h : Turn now definition result)
    {d : Diagnostic} (herror : result.2 = .error d) : result.1 = now := by
  cases h with
  | current hcurrent => rfl
  | compiled hcompile => cases herror
  | rejected d => rfl

/-- A definition that is accepted is registered from then on. -/
theorem Turn.current?_of_ok {result : Registry × Outcome} (h : Turn now definition result)
    {b : Blueprint} (hok : result.2 = .ok b) : result.1.current? definition = some b := by
  cases h with
  | current hcurrent =>
    obtain rfl := Except.ok.inj hok
    exact hcurrent
  -- what was compiled has been written under its type, with the digest of the source
  | compiled hcompile =>
    obtain rfl := Except.ok.inj hok
    dsimp only
    rw [current?, get?, ← Blueprint.typeId_of_compile hcompile, settle, Fields.get?_insert_self]
    simp [entryOf, Blueprint.sourceHash_of_compile hcompile]
  | rejected d => cases hok

/-! ## The record -/

/-- The types of the definitions that were accepted, in order. -/
def acceptedTypes (outcomes : List Outcome) : List String :=
  outcomes.filterMap fun outcome => outcome.toOption.map (·.typeId)

/-- Whether a registry with a scope is the record of what was submitted, with these outcomes. -/
structure Recorded (scope : Scope) (submitted : List Definition) (outcomes : List Outcome)
    (registry : Registry) : Prop where
  inScope : registry.scope = scope
  nodup : registry.typeIds.Nodup
  entries : ∀ entry ∈ registry.entries, ∃ definition ∈ submitted, ∃ b,
    Blueprint.compile definition.typeId definition.source scope = .ok b ∧
      entry = (b.typeId, entryOf definition b)
  order : registry.typeIds = (acceptedTypes outcomes).eraseDups

theorem recorded_empty (scope : Scope) : Recorded scope [] [] ⟨scope, []⟩ where
  inScope := rfl
  nodup := List.nodup_nil
  entries := nofun
  order := rfl

section Order

/-- A name that is seen again is dropped. -/
theorem eraseDups_concat (names : List String) (name : String) :
    (names ++ [name]).eraseDups =
      if name ∈ names then names.eraseDups else names.eraseDups ++ [name] := by
  rw [List.eraseDups_append]
  split
  · next h => simp [List.removeAll, h]
  · next h =>
    have hnew : [name].removeAll names = [name] := by simp [List.removeAll, h]
    rw [hnew]
    rfl

theorem acceptedTypes_concat (outcomes : List Outcome) (b : Blueprint) :
    acceptedTypes (outcomes ++ [.ok b]) = acceptedTypes outcomes ++ [b.typeId] := by
  rw [acceptedTypes, List.filterMap_append]
  rfl

/-- The types of a record after another definition was accepted. -/
theorem Recorded.order_concat (h : Recorded scope submitted outcomes now) (b : Blueprint) :
    (acceptedTypes (outcomes ++ [.ok b])).eraseDups =
      if b.typeId ∈ now.typeIds then now.typeIds else now.typeIds ++ [b.typeId] := by
  rw [acceptedTypes_concat, eraseDups_concat, h.order]
  simp only [List.mem_eraseDups]

/-- What is registered was accepted under its type before. -/
theorem Recorded.mem_of_current? (h : Recorded scope submitted outcomes now) {b : Blueprint}
    (hcurrent : now.current? definition = some b) : b.typeId ∈ now.typeIds := by
  obtain ⟨entry, hget, rfl⟩ := exists_entry_of_current? hcurrent
  -- the entry that is found stands under the type of its own unit
  have hmem := Fields.mem_of_get? hget
  obtain ⟨_, -, _, -, heq⟩ := h.entries _ hmem
  obtain ⟨hkey, rfl⟩ := Prod.mk.inj heq
  exact List.mem_map.mpr ⟨_, hmem, hkey⟩

end Order

/-- A turn keeps the record. -/
theorem Recorded.turn (h : Recorded scope submitted outcomes now)
    {result : Registry × Outcome} (hturn : Turn now definition result) :
    Recorded scope (submitted ++ [definition]) (outcomes ++ [result.2]) result.1 := by
  have hentries : ∀ entry ∈ now.entries, ∃ d ∈ submitted ++ [definition], ∃ b,
      Blueprint.compile d.typeId d.source scope = .ok b ∧ entry = (b.typeId, entryOf d b) := by
    intro entry hentry
    obtain ⟨d, hd, hcompiled⟩ := h.entries entry hentry
    exact ⟨d, List.mem_append_left _ hd, hcompiled⟩
  cases hturn with
  | current hcurrent =>
    -- the type that is accepted again is dropped from the order
    refine ⟨h.inScope, h.nodup, hentries, ?_⟩
    rw [h.order_concat, if_pos (h.mem_of_current? hcurrent)]
  | @compiled b hcompile =>
    rw [compile, h.inScope] at hcompile
    refine ⟨h.inScope, Fields.nodup_keys_insert h.nodup, ?_, ?_⟩
    · intro entry hentry
      rcases Fields.mem_of_mem_insert hentry with rfl | hentry
      · exact ⟨definition, by simp, b, hcompile, rfl⟩
      · exact hentries entry hentry
    · -- a type that is there keeps its place, and any other one comes last
      rw [h.order_concat]
      by_cases hmem : b.typeId ∈ now.typeIds
      · rw [if_pos hmem]
        exact Fields.keys_insert_of_mem hmem
      · rw [if_neg hmem, typeIds, settle, Fields.insert_of_notMem hmem, Fields.keys_append]
        rfl
  | rejected d =>
    refine ⟨h.inScope, h.nodup, hentries, ?_⟩
    rw [h.order, acceptedTypes, acceptedTypes, List.filterMap_append]
    simp [Except.toOption]

/-- Turn by turn the record is kept. -/
theorem Recorded.takeAll {turn : Registry → Definition → Registry × Outcome}
    (hturn : ∀ now definition, now.scope = scope → Turn now definition (turn now definition))
    (h : Recorded scope submitted outcomes registry) (definitions : List Definition) :
    Recorded scope (submitted ++ definitions)
      (outcomes ++ (takeAll turn registry definitions).2)
      (takeAll turn registry definitions).1 := by
  -- the record grows with the turns, so it is generalised with the registry
  induction definitions generalizing registry submitted outcomes with
  | nil => simpa [Registry.takeAll] using h
  | cons definition rest ih =>
    have hnext := ih (h.turn (hturn registry definition h.inScope))
    rw [takeAll_cons]
    simpa using hnext

/-! ## Runs -/

/-- What a registry is given at once. -/
inductive Submission where
  | single (definition : Definition)
  | batch (definitions : List Definition)

/-- The definitions of a submission. -/
def Submission.definitions : Submission → List Definition
  | .single definition => [definition]
  | .batch definitions => definitions

/-- Registers what is submitted. -/
def submit (registry : Registry) : Submission → Registry × List Outcome
  | .single definition =>
    let (next, outcome) := registry.register definition
    (next, [outcome])
  | .batch definitions => registry.registerBatch definitions

/-- Registers one submission after the other. -/
def run (registry : Registry) : List Submission → Registry × List Outcome
  | [] => (registry, [])
  | submission :: rest =>
    let (between, outcomes) := registry.submit submission
    let (final, others) := run between rest
    (final, outcomes ++ others)

theorem run_cons (registry : Registry) (submission : Submission) (rest : List Submission) :
    registry.run (submission :: rest) =
      (((registry.submit submission).1.run rest).1,
        (registry.submit submission).2 ++ ((registry.submit submission).1.run rest).2) := rfl

/-- A submission of either kind keeps the record. -/
theorem Recorded.submit (h : Recorded scope submitted outcomes registry)
    (submission : Submission) :
    Recorded scope (submitted ++ submission.definitions)
      (outcomes ++ (registry.submit submission).2) (registry.submit submission).1 := by
  cases submission with
  | single definition => exact h.turn (turn_register registry definition)
  | batch definitions =>
    rw [Registry.submit, registerBatch_eq_takeAll]
    exact h.takeAll (fun now d hscope => turn_takeTurn (hscope.trans h.inScope.symm) d) definitions

/-- A run keeps the record. -/
theorem Recorded.run (h : Recorded scope submitted outcomes registry)
    (submissions : List Submission) :
    Recorded scope (submitted ++ submissions.flatMap Submission.definitions)
      (outcomes ++ (registry.run submissions).2) (registry.run submissions).1 := by
  induction submissions generalizing registry submitted outcomes with
  | nil => simpa [Registry.run] using h
  | cons submission rest ih =>
    have hrest := ih (h.submit submission)
    rw [run_cons, List.flatMap_cons]
    simpa using hrest

/-! ## What a record says -/

/-- Whether an entry under a key is what one of the submitted definitions is compiled to. -/
structure IsRecordOf (scope : Scope) (submitted : List Definition) (registry : Registry)
    (key : String) (entry : Registered) : Prop where
  typeId : entry.typeId = key
  blueprint : entry.blueprint.typeId = key
  canonical : TypeId.canonical key = key
  named : key ≠ ""
  /-- The entry is what looking its key up gives. -/
  found : registry.get? key = some entry
  origin : ∃ definition ∈ submitted, TypeId.canonical definition.typeId = key ∧
    Blueprint.compile definition.typeId definition.source scope = .ok entry.blueprint ∧
    entry.blueprint.sourceHash = Digest.ofText definition.source ∧
    entry.source = Payload.stripFence definition.source

/-- What holds of a registry when it has been given submissions, and of what it is given next. -/
structure Faithful (scope : Scope) (submitted : List Definition) (outcomes : List Outcome)
    (registry : Registry) : Prop where
  entries : ∀ entry ∈ registry.entries, IsRecordOf scope submitted registry entry.1 entry.2
  /-- The types stand in the order in which they were first accepted. -/
  order : registry.typeIds = (acceptedTypes outcomes).eraseDups
  /-- No entry is given up, and none changes its place. -/
  grows : ∀ more, registry.typeIds <+: (registry.run more).1.typeIds
  /-- A definition that compiles is accepted, and its type stands for its unit from then on. -/
  accepted : ∀ definition, (registry.compile definition).isOk = true →
    ∃ b, (registry.register definition).2 = .ok b ∧
      ∃ entry, (registry.register definition).1.get? definition.typeId = some entry ∧
        entry.blueprint = b
  /-- A definition that is turned down leaves the registry as it was. -/
  rejected : ∀ definition d, (registry.register definition).2 = .error d →
    (registry.register definition).1 = registry
  /-- A batch with a definition that is turned down is the batch without it. -/
  rejectedInBatch : ∀ definitions i d,
    (registry.registerBatch definitions).2[i]? = some (.error d) →
      registry.registerBatch (definitions.eraseIdx i) =
        ((registry.registerBatch definitions).1,
          (registry.registerBatch definitions).2.eraseIdx i)
  /-- A definition that was just accepted is accepted again, and changes nothing. -/
  repeated : ∀ definition b, (registry.register definition).2 = .ok b →
    (registry.register definition).1.register definition =
      ((registry.register definition).1, .ok b)

/-- Every entry is the record of a submitted definition. -/
theorem Recorded.isRecordOf (h : Recorded scope submitted outcomes registry)
    {entry : String × Registered} (hentry : entry ∈ registry.entries) :
    IsRecordOf scope submitted registry entry.1 entry.2 := by
  obtain ⟨definition, hmem, b, hcompile, rfl⟩ := h.entries entry hentry
  -- a compiled unit has the canonical form of the type as its own
  have hcanonical : TypeId.canonical b.typeId = b.typeId := by
    rw [Blueprint.typeId_of_compile hcompile, TypeId.canonical_canonical]
  exact {
    typeId := rfl
    blueprint := rfl
    canonical := hcanonical
    named := by
      rw [Blueprint.typeId_of_compile hcompile]
      exact Blueprint.typeId_ne_empty hcompile
    found := by
      rw [get?, hcanonical]
      exact Fields.get?_of_mem h.nodup hentry
    origin := ⟨definition, hmem, (Blueprint.typeId_of_compile hcompile).symm, hcompile,
      Blueprint.sourceHash_of_compile hcompile, rfl⟩ }

/-- A registry with a record keeps its entries by their canonical types. -/
theorem Recorded.keyed (h : Recorded scope submitted outcomes registry) : registry.Keyed where
  typeId _ hentry := (h.isRecordOf hentry).typeId
  blueprint _ hentry := (h.isRecordOf hentry).blueprint
  canonical _ hentry := (h.isRecordOf hentry).canonical

/-- So does every registry that is reached by submissions. -/
theorem keyed_run (scope : Scope) (submissions : List Submission) :
    (run ⟨scope, []⟩ submissions).1.Keyed :=
  ((recorded_empty scope).run submissions).keyed

/-- The types of a record stay in front when more is accepted. -/
theorem Recorded.isPrefix (h : Recorded scope submitted outcomes registry) {later : Registry}
    {others : List Definition} {more : List Outcome}
    (hlater : Recorded scope others (outcomes ++ more) later) :
    registry.typeIds <+: later.typeIds := by
  rw [h.order, hlater.order, acceptedTypes, acceptedTypes, List.filterMap_append,
    List.eraseDups_append]
  apply List.prefix_append

/-- Where a turn that turns a definition down changes nothing, the definition may as well be left
out. -/
theorem takeAll_eraseIdx {turn : Registry → Definition → Registry × Outcome}
    (hturn : ∀ now definition d, (turn now definition).2 = .error d →
      (turn now definition).1 = now)
    {definitions : List Definition} {i : Nat} {d : Diagnostic}
    (h : (takeAll turn registry definitions).2[i]? = some (.error d)) :
    takeAll turn registry (definitions.eraseIdx i) =
      ((takeAll turn registry definitions).1,
        (takeAll turn registry definitions).2.eraseIdx i) := by
  induction definitions generalizing registry i with
  | nil => cases h
  | cons definition rest ih =>
    rw [takeAll_cons] at h ⊢
    -- a turn that fails leaves the registry alone, so the others go on as if it had not been
    cases i with
    | zero =>
      rw [List.eraseIdx_cons_zero, List.eraseIdx_cons_zero,
        hturn registry definition d (Option.some.inj h)]
    | succ i =>
      rw [List.eraseIdx_cons_succ, List.eraseIdx_cons_succ, takeAll_cons, ih h]

/-- A definition that compiles is accepted, also where its source is not compiled again. -/
theorem exists_register_of_compile (h : (registry.compile definition).isOk = true) :
    ∃ b, (registry.register definition).2 = .ok b ∧
      ∃ entry, (registry.register definition).1.get? definition.typeId = some entry ∧
        entry.blueprint = b := by
  have haccepted : ∃ b, (registry.register definition).2 = .ok b := by
    -- the unit may be there already, and otherwise compiling gives it
    cases hcurrent : registry.current? definition with
    | some b =>
      rw [register_of_current hcurrent]
      exact ⟨b, rfl⟩
    | none =>
      rw [register_of_not_current hcurrent]
      cases hcompile : registry.compile definition with
      | error d =>
        rw [hcompile] at h
        cases h
      | ok b => exact ⟨b, rfl⟩
  obtain ⟨b, hb⟩ := haccepted
  exact ⟨b, hb, exists_entry_of_current? ((turn_register registry definition).current?_of_ok hb)⟩

/-- A turn that fails leaves the registry as it was. -/
theorem eq_of_takeTurn_error {before : Registry} {d : Diagnostic}
    (h : (before.takeTurn now definition).2 = .error d) :
    (before.takeTurn now definition).1 = now := by
  cases hbefore : before.current? definition with
  | some b => rw [takeTurn, hbefore]
  | none =>
    rw [takeTurn, hbefore] at h ⊢
    dsimp only at h ⊢
    rw [h, settle]

/-- A registry that starts out empty is a faithful record of any run. -/
theorem run_faithful (scope : Scope) (submissions : List Submission) :
    Faithful scope (submissions.flatMap Submission.definitions)
      (run ⟨scope, []⟩ submissions).2 (run ⟨scope, []⟩ submissions).1 := by
  have hrecord : Recorded scope (submissions.flatMap Submission.definitions)
      (run ⟨scope, []⟩ submissions).2 (run ⟨scope, []⟩ submissions).1 :=
    (recorded_empty scope).run submissions
  -- from here on only the record counts, not how it came about
  generalize (run ⟨scope, []⟩ submissions).1 = registry at hrecord ⊢
  exact {
    entries := fun entry hentry => hrecord.isRecordOf hentry
    order := hrecord.order
    grows := fun more => hrecord.isPrefix (hrecord.run more)
    accepted := fun _ => exists_register_of_compile
    rejected := fun definition d h => (turn_register registry definition).eq_of_error h
    rejectedInBatch := fun definitions i d h => by
      rw [registerBatch_eq_takeAll] at h ⊢
      rw [registerBatch_eq_takeAll]
      exact takeAll_eraseIdx (fun _ _ _ => eq_of_takeTurn_error) h
    repeated := fun definition b h =>
      register_of_current ((turn_register registry definition).current?_of_ok h) }

/-- After a card with a division a card without a source is turned down, and the division is not
compiled again. -/
theorem run_faithful_of_division :
    ∃ registry entry, (run ⟨Scope.ofConfig {}, []⟩ [.single divisionCard]).1 = registry ∧
      registry.entries = [("Card", entry)] ∧
      IsRecordOf (Scope.ofConfig {}) [divisionCard] registry "Card" entry ∧
      (registry.register ⟨"Card", .other, [], ""⟩).1 = registry ∧
      ∃ b, (registry.register divisionCard).1.register divisionCard =
        ((registry.register divisionCard).1, .ok b) := by
  have hfaithful := run_faithful (Scope.ofConfig {}) [.single divisionCard]
  have htypes : (run ⟨Scope.ofConfig {}, []⟩ [.single divisionCard]).1.typeIds = ["Card"] := by
    decide +kernel
  have hrejected : ((run ⟨Scope.ofConfig {}, []⟩ [.single divisionCard]).1.register
      ⟨"Card", .other, [], ""⟩).2.isOk = false := by decide +kernel
  have haccepted : ((run ⟨Scope.ofConfig {}, []⟩ [.single divisionCard]).1.register
      divisionCard).2.isOk = true := by decide +kernel
  -- three facts about the registry are evaluated, and all else follows from the theorem
  generalize (run ⟨Scope.ofConfig {}, []⟩ [.single divisionCard]).1 = registry at *
  obtain ⟨⟨key, entry⟩, hentries, hkey⟩ := List.map_eq_singleton_iff.mp htypes
  obtain rfl : key = "Card" := hkey
  refine ⟨registry, entry, rfl, hentries, ?_, ?_, ?_⟩
  · exact hfaithful.entries _ (hentries ▸ List.mem_singleton_self _)
  · cases houtcome : (registry.register ⟨"Card", .other, [], ""⟩).2 with
    | error d => exact hfaithful.rejected _ d houtcome
    | ok b =>
      rw [houtcome] at hrejected
      cases hrejected
  · cases houtcome : (registry.register divisionCard).2 with
    | error d =>
      rw [houtcome] at haccepted
      cases haccepted
    | ok b => exact ⟨b, hfaithful.repeated _ b houtcome⟩

end ComponentCanvas.Registry
