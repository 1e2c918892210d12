import ComponentCanvas.Proofs.Validation
import ComponentCanvas.Proofs.Validation.Scoping
import ComponentCanvas.Script.Parser
import Mathlib.Data.List.Basic

/-!
# Names That Do Not Resolve

The last check of a source is that every name in use resolves.  It fails exactly if some name is
neither bound anywhere in the script nor available in the scope, and it reports all such names,
each once, in the order in which they first occur.

Those names are free where they are used, apart from names that mean something without being bound,
such as the members of an enumeration in their values.  The converse fails, as scopes play no part
in the check: a free name passes if another function of the script binds it.
-/

namespace ComponentCanvas

open Text (Span)
open Script (Program references bindings)

/-! ## The first use of each name -/

namespace Inventory

/-- Choosing by name and choosing the first of each name can be exchanged. -/
theorem firstOfEach_filter (p : String → Bool) (uses : List (String × Span)) :
    firstOfEach (uses.filter fun entry => p entry.1) =
      (firstOfEach uses).filter fun entry => p entry.1 := by
  induction uses with
  | nil => rfl
  | cons entry rest ih =>
    rw [List.filter_cons, firstOfEach, List.filter_cons]
    split
    · rw [firstOfEach, ih, List.filter_filter, List.filter_filter]
      simp only [Bool.and_comm]
    · next hentry =>
      -- the entries of the same name are not chosen either
      rw [ih, List.filter_filter]
      apply List.filter_congr
      intro other _
      by_cases hother : other.1 = entry.1
      · simp [hother, hentry]
      · simp [hother]

/-- The names at their first use are the names in use, each once. -/
theorem map_firstOfEach (uses : List (String × Span)) :
    (firstOfEach uses).map Prod.fst = (uses.map Prod.fst).eraseDups := by
  -- what remains behind the first entry is no tail of the list, so the induction is on the length
  induction hlength : uses.length using Nat.strongRecOn generalizing uses with
  | ind n ih =>
    cases uses with
    | nil => rfl
    | cons entry rest =>
      have hshorter : (rest.filter (·.1 != entry.1)).length < n := by
        rw [← hlength]
        exact Nat.lt_succ_of_le (List.length_filter_le ..)
      have ih := ih _ hshorter (rest.filter (·.1 != entry.1)) rfl
      rw [firstOfEach_filter (· != entry.1) rest] at ih
      rw [firstOfEach, List.map_cons, List.map_cons, List.eraseDups_cons, ih, List.filter_map]
      rfl

end Inventory

/-! ## The check -/

namespace Script

/-- The uses in a script of names that are bound nowhere in it and do not resolve in a scope. -/
def Program.unmet (program : Program) (scope : Scope) : List (String × Span) :=
  (references program.mentions).filter fun (name, _) =>
    !(bindings program.mentions).contains name && !scope.isResolvable name

variable {program : Program} {scope : Scope}

theorem Program.mem_unmet {entry : String × Span} :
    entry ∈ program.unmet scope ↔ entry ∈ references program.mentions ∧
      entry.1 ∉ bindings program.mentions ∧ scope.isResolvable entry.1 = false := by
  simp [Program.unmet]

theorem Program.unresolved_eq :
    (Inventory.ofMentions program.mentions).unresolved scope =
      Inventory.firstOfEach (program.unmet scope) := rfl

/-- What is used and neither bound nor implied anywhere is free. -/
theorem Program.unmet_filter :
    (program.unmet scope).filter (!program.implied.contains ·.1) =
      program.free.filter fun (name, _) => !program.implied.contains name &&
        (!(bindings program.mentions).contains name && !scope.isResolvable name) := by
  rw [Program.unmet, List.filter_filter]
  -- both sides test for names that are not bound or implied, and only such names are left out
  apply program.omits.filter_eq
  intro entry hentry
  simp only [Bool.and_eq_true, Bool.not_eq_true'] at hentry
  rw [List.mem_append, not_or]
  exact ⟨by simpa using hentry.1, by simpa using hentry.2.1⟩

/-- A name that is bound nowhere is free unless it is implied. -/
theorem Program.mem_free_of_mem_unmet {entry : String × Span} (h : entry ∈ program.unmet scope)
    (himplied : entry.1 ∉ program.implied) : entry ∈ program.free := by
  have hmem : entry ∈ (program.unmet scope).filter (!program.implied.contains ·.1) :=
    List.mem_filter.mpr ⟨h, by simpa using himplied⟩
  rw [Program.unmet_filter] at hmem
  exact (List.mem_filter.mp hmem).1

-- the second member sees the first one, which nothing binds, so its use is unmet and not free
example :
    ((Program.read "enum Size \x7b small = 1, large = small \x7d").toOption.map fun program =>
      ((program.unmet (Scope.ofConfig {})).map Prod.fst, program.free.map Prod.fst,
        program.implied)) =
      some (["small"], [], ["arguments", "small", "large"]) := by
  decide +kernel

-- and so does the type behind an index with its parameter
example :
    ((Program.read "type T = \x7b a: 1; [key: string]: typeof key \x7d").toOption.map fun program =>
      ((program.unmet (Scope.ofConfig {})).map Prod.fst, program.free.map Prod.fst,
        program.implied)) =
      some (["key"], [], ["arguments", "key"]) := by
  decide +kernel

end Script

namespace Validation

/-- Whether a script passes the checks in front of that of its names. -/
structure PassesEarlierChecks (program : Program) (source typeId : String) : Prop where
  nonempty : program.body ≠ []
  selfContained :
    requireSelfContained program (Inventory.ofMentions program.mentions) source = .ok ()
  hasFactory : ∃ factory, locateFactory (Factory.ofProgram program) typeId source = .ok factory ∧
    requireMarkup factory source = .ok ()

variable {program : Program} {source typeId : String}

/-- A script that is accepted in some scope has passed them. -/
theorem passesEarlierChecks_of_validate {scope : Scope} {validated : Validated}
    (h : validate program source typeId scope = .ok validated) :
    PassesEarlierChecks program source typeId := by
  unfold validate at h
  split at h
  · cases h
  · next hbody =>
    obtain ⟨⟨⟩, hselfContained, h⟩ := bind_eq_ok.mp h
    obtain ⟨factory, hfactory, h⟩ := bind_eq_ok.mp h
    obtain ⟨⟨⟩, hmarkup, -⟩ := bind_eq_ok.mp h
    exact ⟨by simpa using hbody, hselfContained, factory, hfactory, hmarkup⟩

/-- Behind the earlier checks the names decide. -/
theorem PassesEarlierChecks.validate_eq (h : PassesEarlierChecks program source typeId)
    (scope : Scope) :
    ∃ validated, validate program source typeId scope =
      (requireResolved (Inventory.ofMentions program.mentions) scope source).map
        fun _ => validated := by
  obtain ⟨factory, hfactory, hmarkup⟩ := h.hasFactory
  refine ⟨⟨factory.name, (Inventory.ofMentions program.mentions).capabilities scope⟩, ?_⟩
  have hbody : program.body.isEmpty = false := by simpa using h.nonempty
  -- each of the earlier checks is replaced by its success
  unfold validate
  rw [hbody, if_neg Bool.false_ne_true]
  dsimp only
  rw [h.selfContained, hfactory]
  show requireMarkup factory source >>= _ = _
  rw [hmarkup]
  cases requireResolved (Inventory.ofMentions program.mentions) scope source <;> rfl

/-- After the earlier checks a script is accepted exactly if no use of a name is unmet. -/
theorem PassesEarlierChecks.validate_ok_iff (h : PassesEarlierChecks program source typeId)
    {scope : Scope} :
    (∃ validated, validate program source typeId scope = .ok validated) ↔
      program.unmet scope = [] := by
  obtain ⟨validated, heq⟩ := h.validate_eq scope
  rw [heq, requireResolved, Program.unresolved_eq]
  cases program.unmet scope with
  | nil => exact ⟨fun _ => rfl, fun _ => ⟨validated, rfl⟩⟩
  | cons entry rest => exact ⟨nofun, nofun⟩

/-- After the earlier checks a script is refused for its unmet names, at the first of them. -/
theorem PassesEarlierChecks.validate_error (h : PassesEarlierChecks program source typeId)
    {scope : Scope} {d : Diagnostic} (hd : validate program source typeId scope = .error d) :
    ∃ name span others,
      d = .ofSpan (.unresolved name others (Fields.keys scope)) source span ∧
      (program.unmet scope).head? = some (name, span) ∧
      name :: others = ((program.unmet scope).map Prod.fst).eraseDups := by
  obtain ⟨validated, heq⟩ := h.validate_eq scope
  rw [heq, requireResolved, Program.unresolved_eq] at hd
  rw [← Inventory.map_firstOfEach]
  -- only a list with an unmet use gives an error
  cases hunmet : program.unmet scope with
  | nil =>
    rw [hunmet] at hd
    cases hd
  | cons entry rest =>
    rw [hunmet] at hd
    obtain rfl := Except.error.inj hd
    exact ⟨entry.1, entry.2, _, rfl, rfl, rfl⟩

/-- Only names that do not resolve turn a script down behind the earlier checks. -/
theorem PassesEarlierChecks.fails_iff (h : PassesEarlierChecks program source typeId)
    {scope : Scope} :
    (∃ d, validate program source typeId scope = .error d ∧ d.cause.code = "B-ERR-CAPABILITY") ↔
      ∃ entry ∈ references program.mentions,
        entry.1 ∉ bindings program.mentions ∧ scope.isResolvable entry.1 = false := by
  constructor
  · rintro ⟨d, hd, -⟩
    obtain ⟨name, span, -, -, hhead, -⟩ := h.validate_error hd
    exact ⟨(name, span), Program.mem_unmet.mp (List.mem_of_head? hhead)⟩
  · rintro ⟨entry, hentry⟩
    -- the script is not accepted, and the error that is left is that of the check for names
    have hunmet : program.unmet scope ≠ [] :=
      List.ne_nil_of_mem (Program.mem_unmet.mpr hentry)
    cases hresult : validate program source typeId scope with
    | ok validated => exact absurd (h.validate_ok_iff.mp ⟨validated, hresult⟩) hunmet
    | error d =>
      obtain ⟨_, _, _, rfl, -⟩ := h.validate_error hresult
      exact ⟨_, rfl, rfl⟩

/-- A script that is accepted uses no name that is bound nowhere and does not resolve. -/
theorem PassesEarlierChecks.bound_or_resolvable (h : PassesEarlierChecks program source typeId)
    {scope : Scope}
    (haccepted : ∃ validated, validate program source typeId scope = .ok validated)
    {entry : String × Span} (hentry : entry ∈ references program.mentions) :
    entry.1 ∈ bindings program.mentions ∨ scope.isResolvable entry.1 = true := by
  have hunmet : entry ∉ program.unmet scope := by
    rw [h.validate_ok_iff.mp haccepted]
    exact List.not_mem_nil
  by_cases hbound : entry.1 ∈ bindings program.mentions
  · exact .inl hbound
  · right
    rw [Program.mem_unmet, not_and, not_and] at hunmet
    simpa using hunmet hentry hbound

/-- Behind the earlier checks a script is turned down exactly if it uses a name that it binds
nowhere and that does not resolve.  All such names are reported, each once, in the order in which
they first occur, and they are free where they are used, but for names that the script implies
without binding them.  In a script that is accepted a free name is bound elsewhere in it or
resolves. -/
theorem names_decided (h : PassesEarlierChecks program source typeId) (scope : Scope) :
    ((∃ d, validate program source typeId scope = .error d ∧ d.cause.code = "B-ERR-CAPABILITY") ↔
      ∃ entry ∈ references program.mentions,
        entry.1 ∉ bindings program.mentions ∧ scope.isResolvable entry.1 = false) ∧
    (∀ d, validate program source typeId scope = .error d → ∃ name span others,
      d = .ofSpan (.unresolved name others (Fields.keys scope)) source span ∧
      (program.unmet scope).head? = some (name, span) ∧
      name :: others = ((program.unmet scope).map Prod.fst).eraseDups) ∧
    (∀ entry ∈ program.unmet scope, entry.1 ∉ program.implied → entry ∈ program.free) ∧
    program.free.Sublist (references program.mentions) ∧
    ((∃ validated, validate program source typeId scope = .ok validated) →
      ∀ entry ∈ program.free,
        entry.1 ∈ bindings program.mentions ∨ scope.isResolvable entry.1 = true) := by
  have hsublist := program.omits.sublist
  refine ⟨h.fails_iff, fun d => h.validate_error, ?_, hsublist, ?_⟩
  · exact fun entry => Program.mem_free_of_mem_unmet
  · intro haccepted entry hentry
    exact h.bound_or_resolvable haccepted (hsublist.subset hentry)

/-- A card that uses two names that it does not bind, one of them twice. -/
def fetchingSource : String :=
  "function Card() \x7b return <b onClick=\x7b() => fetch(url)\x7d>\x7bfetch\x7d</b>; \x7d"

/-- A scope in which both names are available. -/
def fetchingScope : Scope := Scope.ofConfig { hooks := ["fetch", "url"] }

/-- The two names are reported, each once. -/
theorem names_decided_of_fetching :
    ∃ program, Program.read fetchingSource = .ok program ∧
      PassesEarlierChecks program fetchingSource "Card" ∧
      ∃ d span, validate program fetchingSource "Card" (Scope.ofConfig {}) = .error d ∧
        d = .ofSpan (.unresolved "fetch" ["url"] (Fields.keys (Scope.ofConfig {})))
          fetchingSource span := by
  have hrun : ((Program.read fetchingSource).mapError (fun _ => ()) >>= fun program =>
      pure ((validate program fetchingSource "Card" fetchingScope).toOption.isSome,
        (program.unmet (Scope.ofConfig {})).map Prod.fst)) =
      .ok (true, ["fetch", "url", "fetch"]) := by
    decide +kernel
  obtain ⟨program, hread, hrun⟩ := bind_eq_ok.mp hrun
  rw [mapError_eq_ok] at hread
  obtain ⟨haccepted, hunmet⟩ := Prod.mk.inj (pure_eq_ok.mp hrun)
  -- where both names are available the script is accepted, so the earlier checks are passed
  have hchecks : PassesEarlierChecks program fetchingSource "Card" := by
    cases hvalidate : validate program fetchingSource "Card" fetchingScope with
    | ok validated => exact passesEarlierChecks_of_validate hvalidate
    | error d =>
      rw [hvalidate] at haccepted
      cases haccepted
  obtain ⟨hfails, hreported, -⟩ := names_decided hchecks (Scope.ofConfig {})
  -- the first use of the first name is unmet
  have hmem : "fetch" ∈ (program.unmet (Scope.ofConfig {})).map Prod.fst := by simp [hunmet]
  obtain ⟨entry, hentry, -⟩ := List.mem_map.mp hmem
  obtain ⟨d, hd, -⟩ := hfails.mpr ⟨entry, Program.mem_unmet.mp hentry⟩
  obtain ⟨name, span, others, rfl, -, hnames⟩ := hreported d hd
  -- and each name is reported once
  have hnames : name :: others = ["fetch", "url"] := by
    rw [hnames, hunmet]
    rfl
  obtain ⟨rfl, rfl⟩ := List.cons.inj hnames
  exact ⟨program, hread, hchecks, _, span, hd, rfl⟩

/-- A card that uses a name which only a row next to it binds. -/
def borrowingSource : String :=
  "function Row(\x7b label \x7d) \x7b return <p>\x7blabel\x7d</p>; \x7d
   function Card() \x7b return <b>\x7blabel\x7d</b>; \x7d"

/-- The name is free in the card and does not resolve, and yet the script is accepted. -/
theorem free_name_accepted :
    ∃ program validated, Program.read borrowingSource = .ok program ∧
      validate program borrowingSource "Card" (Scope.ofConfig {}) = .ok validated ∧
      ∃ entry ∈ program.free, entry.1 = "label" ∧
        (Scope.ofConfig {}).isResolvable entry.1 = false := by
  -- the script is accepted, and one use in it is free
  have hrun : ((Program.read borrowingSource).mapError (fun _ => ()) >>= fun program =>
      pure ((validate program borrowingSource "Card" (Scope.ofConfig {})).toOption.isSome,
        program.free.map Prod.fst)) = .ok (true, ["label"]) := by
    decide +kernel
  obtain ⟨program, hread, hrun⟩ := bind_eq_ok.mp hrun
  rw [mapError_eq_ok] at hread
  obtain ⟨haccepted, hfree⟩ := Prod.mk.inj (pure_eq_ok.mp hrun)
  have hmem : "label" ∈ program.free.map Prod.fst := by simp [hfree]
  obtain ⟨entry, hentry, hname⟩ := List.mem_map.mp hmem
  -- the name is bound in one function of the script and used in another one
  cases hvalidate : validate program borrowingSource "Card" (Scope.ofConfig {}) with
  | ok validated =>
    refine ⟨program, validated, hread, hvalidate, entry, hentry, hname, ?_⟩
    rw [hname]
    decide +kernel
  | error d =>
    rw [hvalidate] at haccepted
    cases haccepted

end Validation

end ComponentCanvas
