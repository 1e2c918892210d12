import ComponentCanvas.Project.ComponentModule
import ComponentCanvas.Proofs.Blueprint.Atoms
import ComponentCanvas.Proofs.Blueprint.Counterparts
import ComponentCanvas.Proofs.Project.Dependencies
import ComponentCanvas.Proofs.Project.Primitives
import ComponentCanvas.Proofs.Scope
import ComponentCanvas.Proofs.Validation.SelfContained

/-!
# Imported Capabilities

A generated module imports what its blueprint uses.  Four computations meet here: the scope that a
configuration gives, where a later declaration takes the place of an earlier one; the names that a
script uses and binds nowhere; the lines of these names, one for each module; and the module of the
primitive elements, which exports a function for each atom.

The table of import lines is built name by name.  What one more name does to it is said once
(`Collects.add`), and that no name gets lost rests on one fact about scopes: the host namespace is
the only capability that is a default import.
-/

namespace ComponentCanvas

/-! ## Accepted scripts -/

namespace Blueprint

open Script (Program)

variable {program : Program} {scope : Scope} {typeId source factoryName sourceHash : String}
  {capabilities : List String} {b : Blueprint} {name : String}

/-- The names that a declaration binds. -/
def Declaration.names : Declaration → List String
  | .helper name _ => [name]
  | .constant pattern _ => pattern.names

theorem Declaration.names_ofBinder (binder : Script.Binder) :
    (Declaration.ofBinder binder).names = binder.names := by
  unfold Declaration.ofBinder
  split <;> rfl

/-- What is declared at the top level of a script, the script binds. -/
theorem binds_of_mem_declarations {d : Declaration} (h : d ∈ declarations program)
    (hname : name ∈ d.names) : program.Binds name := by
  obtain ⟨stmt, hstmt, hd⟩ := List.mem_flatMap.mp h
  have hbinds : name ∈ Script.bindings stmt.mentions := by
    -- the name of a function is bound in its block, that of a variable wherever it is declared
    cases stmt with
    | function f =>
      obtain ⟨other, hother, rfl⟩ := Option.map_eq_some_iff.mp (Option.mem_toList.mp hd)
      obtain rfl := List.mem_singleton.mp hname
      exact Script.Stmt.names_subset .block _ (Option.mem_toList.mpr hother)
    | vars reach binders =>
      obtain ⟨binder, hbinder, rfl⟩ := List.mem_map.mp hd
      rw [Declaration.names_ofBinder] at hname
      refine Script.Stmt.names_subset reach _ ?_
      rw [Script.Stmt.names, if_pos rfl]
      exact List.mem_flatMap.mpr ⟨binder, hbinder, hname⟩
    | _ => cases hd
  exact binds_iff_binds.mp
    (List.contains_iff_mem.mpr (List.filterMap_subset _ (mentions_subset_stmts hstmt) hbinds))

/-- The names of the functions and constants at the top level of a blueprint are bound in its
script. -/
theorem binds_of_declared
    (h : ofProgram? program source scope typeId factoryName capabilities sourceHash = some b)
    (hname : name ∈ Fields.keys b.helpers ∨ ∃ constant ∈ b.constants, name ∈ constant.1.names) :
    program.Binds name := by
  obtain ⟨-, hconstants, hhelpers, -⟩ := eq_of_ofProgram? h
  rcases hname with hname | ⟨constant, hconstant, hname⟩
  · rw [hhelpers, mem_keys_helpersOf] at hname
    obtain ⟨d, hd, hhelper⟩ := List.mem_filterMap.mp hname
    cases d with
    | helper other f =>
      obtain rfl := Option.some.inj hhelper
      exact binds_of_mem_declarations hd (List.mem_singleton_self _)
    | constant pattern init => cases hhelper
  · rw [hconstants] at hconstant
    obtain ⟨d, hd, hlowered⟩ := List.mem_filterMap.mp hconstant
    cases d with
    | helper other f => cases hlowered
    | constant pattern init =>
      obtain rfl := Option.some.inj hlowered
      -- lowering a pattern adds no name
      have hpattern : name ∈ pattern.names := by
        rw [← List.count_pos_iff, count_names (surroundings program source scope)]
        exact Nat.add_pos_left (List.count_pos_iff.mpr hname) _
      exact binds_of_mem_declarations hd hpattern

/-- A script that compiles declares no imports and no exports. -/
theorem not_declaresModule_of_compile (h : compile typeId source scope = .ok b)
    (hread : Program.read (Payload.stripFence source) = .ok program) :
    ∀ stmt ∈ program.body, ¬ stmt.DeclaresModule := by
  obtain ⟨-, -, accepted, validated, haccepted, hvalidated, -⟩ := compile_eq_ok.mp h
  obtain rfl := Except.ok.inj (hread.symm.trans haccepted)
  intro stmt hstmt
  exact (Validation.requireSelfContained_iff.mp
    (requireSelfContained_of_accepted hvalidated) stmt hstmt).1

end Blueprint

namespace Project

open Script (Program)
open scoped List

/-! ## Lines -/

section Lines

variable {c : Capability} {line : ImportLine} {table : Fields ImportLine} {name module : String}
  {style : ImportStyle}

/-- The names that a line imports. -/
def ImportLine.names (line : ImportLine) : List String := line.whole.toList ++ line.named

/-- Whether a line imports a name in a style. -/
def ImportLine.Has (line : ImportLine) (name : String) : ImportStyle → Prop
  | .default => line.whole = some name
  | .named => name ∈ line.named

/-- A line names what it imports in either style. -/
theorem ImportLine.mem_names_iff : name ∈ line.names ↔ ∃ style, line.Has name style := by
  rw [names, List.mem_append, Option.mem_toList]
  constructor
  · rintro (h | h)
    · exact ⟨.default, h⟩
    · exact ⟨.named, h⟩
  · rintro ⟨_ | _, h⟩
    · exact .inl h
    · exact .inr h

/-- A line gains a name, unless a default import takes the place of another one. -/
theorem ImportLine.names_add (h : c.style = .default → line.whole = none) :
    (line.add c).names ~ c.name :: line.names := by
  unfold ImportLine.add
  split
  · next hstyle => simp [names, h hstyle]
  · rw [names, names, ← List.append_assoc]
    exact List.perm_append_comm

/-- What a line with one more name imports is the new name or was there before. -/
theorem ImportLine.has_add (h : (line.add c).Has name style) :
    c.name = name ∧ c.style = style ∨ line.Has name style := by
  -- the new name is put in the place for its style, and the other place is left alone
  unfold ImportLine.add at h
  split at h
  · next hstyle =>
    cases style with
    | default => exact .inl ⟨Option.some.inj h, hstyle⟩
    | named => exact .inr h
  · next hstyle =>
    cases style with
    | default => exact .inr h
    | named =>
      rcases List.mem_append.mp h with h | h
      · exact .inr h
      · exact .inl ⟨(List.mem_singleton.mp h).symm, hstyle⟩

/-- The line to which the next name of a module goes. -/
def lineOf (table : Fields ImportLine) (module : String) : ImportLine :=
  (Fields.get? table module).getD {}

/-- The table with one more capability. -/
def addImport (table : Fields ImportLine) (c : Capability) : Fields ImportLine :=
  Fields.insertSorted table c.module ((lineOf table c.module).add c)

/-- A line that names something is in the table. -/
theorem mem_of_mem_lineOf (h : name ∈ (lineOf table module).names) :
    (module, lineOf table module) ∈ table := by
  rw [lineOf] at h ⊢
  cases hline : Fields.get? table module with
  | none =>
    rw [hline] at h
    cases h
  | some line => exact Fields.mem_of_get? hline

end Lines

/-! ## Tables of lines -/

/-- A table holds the import lines of some capabilities. -/
structure Collects (cs : List Capability) (table : Fields ImportLine) : Prop where
  ascending : (Fields.keys table).Pairwise (· < ·)
  /-- Each capability is named once. -/
  names : table.flatMap (fun line => line.2.names) ~ cs.map (·.name)
  /-- No line is without names. -/
  filled : ∀ line ∈ table, line.2.names ≠ []
  /-- What is imported from a module is a capability of it, in its style. -/
  assigned : ∀ line ∈ table, ∀ name style, line.2.Has name style →
    ∃ c ∈ cs, c.name = name ∧ c.module = line.1 ∧ c.style = style

section Collects

variable {cs : List Capability} {c : Capability} {table : Fields ImportLine} {name module : String}
  {style : ImportStyle}

theorem Collects.nil : Collects [] [] where
  ascending := .nil
  names := .nil
  filled := nofun
  assigned := nofun

theorem Collects.exists_of_lineOf (h : Collects cs table)
    (hname : (lineOf table module).Has name style) :
    ∃ c ∈ cs, c.name = name ∧ c.module = module ∧ c.style = style :=
  h.assigned (module, lineOf table module)
    (mem_of_mem_lineOf (ImportLine.mem_names_iff.mpr ⟨style, hname⟩)) name style hname

/-- A capability that is no second default import does not take the place of another one. -/
theorem Collects.names_add (h : Collects cs table)
    (hdefault : c.style = .default → ∀ d ∈ cs, d.style ≠ .default) :
    ((lineOf table c.module).add c).names ~ c.name :: (lineOf table c.module).names := by
  refine ImportLine.names_add fun hstyle => ?_
  rw [Option.eq_none_iff_forall_ne_some]
  intro name hname
  have hhas : (lineOf table c.module).Has name .default := hname
  obtain ⟨d, hd, -, -, hdstyle⟩ := h.exists_of_lineOf hhas
  exact hdefault hstyle d hd hdstyle

/-- One more capability goes into the line of its module. -/
theorem Collects.add (h : Collects cs table)
    (hdefault : c.style = .default → ∀ d ∈ cs, d.style ≠ .default) :
    Collects (cs ++ [c]) (addImport table c) := by
  -- the line of the module is taken out and written again, and the rest of the table stays
  obtain ⟨rest, htable, hadded⟩ :=
    Fields.insertSorted_perm h.ascending c.module ((lineOf table c.module).add c)
  -- a line of the new table is the one written, or it was there before
  have hmem : ∀ line ∈ addImport table c,
      line = (c.module, (lineOf table c.module).add c) ∨ line ∈ table := fun line hline =>
    (List.mem_cons.mp (hadded.mem_iff.mp hline)).imp_right
      fun hrest => htable.mem_iff.mpr (List.mem_append_right _ hrest)
  have hnames := h.names_add hdefault
  refine ⟨?ascending, ?names, ?filled, ?assigned⟩
  case ascending =>
    rw [addImport, Fields.keys_insertSorted]
    exact pairwise_insertName h.ascending _
  -- up to their order: the line with the new name, and all others
  case names =>
    have hline : (((Fields.get? table c.module).toList.map fun line => (c.module, line)).flatMap
        fun line => line.2.names) = (lineOf table c.module).names := by
      rw [lineOf]
      cases Fields.get? table c.module <;> simp [ImportLine.names]
    have hbefore := htable.flatMap_right fun line => line.2.names
    rw [List.flatMap_append, hline] at hbefore
    calc (addImport table c).flatMap fun line => line.2.names
      _ ~ ((lineOf table c.module).add c).names ++ rest.flatMap fun line => line.2.names :=
        hadded.flatMap_right _
      _ ~ c.name :: (lineOf table c.module).names ++ rest.flatMap fun line => line.2.names :=
        hnames.append_right _
      _ ~ c.name :: cs.map Capability.name := (hbefore.symm.trans h.names).cons _
      _ ~ (cs ++ [c]).map Capability.name := by
        rw [List.map_append]
        exact (List.perm_append_singleton ..).symm
  case filled =>
    intro line hline
    rcases hmem line hline with rfl | hline
    · exact fun hnil => List.cons_ne_nil _ _ (hnil ▸ hnames).nil_eq.symm
    · exact h.filled line hline
  -- a name of the line is the new one, or it was there before
  case assigned =>
    intro line hline name style hname
    rcases hmem line hline with rfl | hline
    · rcases ImportLine.has_add hname with ⟨rfl, rfl⟩ | hname
      · exact ⟨c, by simp, rfl, rfl, rfl⟩
      · obtain ⟨d, hd, hassigned⟩ := h.exists_of_lineOf hname
        exact ⟨d, List.mem_append_left _ hd, hassigned⟩
    · obtain ⟨d, hd, hassigned⟩ := h.assigned line hline name style hname
      exact ⟨d, List.mem_append_left _ hd, hassigned⟩

/-- Capabilities of which at most one is a default import are all collected. -/
theorem collects_foldl (h : cs.Pairwise fun c d => d.style = .default → c.style ≠ .default) :
    Collects cs (cs.foldl addImport []) := by
  induction cs using List.reverseRecOn with
  | nil => exact .nil
  | append_singleton cs c ih =>
    obtain ⟨hcs, -, hc⟩ := List.pairwise_append.mp h
    rw [List.foldl_append]
    exact (ih hcs).add fun hstyle d hd => hc d hd c (List.mem_singleton_self c) hstyle

/-- The lines of distinct names that a configuration provides. -/
theorem collects_importTable {config : CapabilityConfig} {names : List String}
    (hnodup : names.Nodup)
    (h : ∀ name ∈ names, Fields.contains (Scope.ofConfig config) name = true) :
    Collects (names.filterMap (Fields.get? (Scope.ofConfig config)))
      (importTable (Scope.ofConfig config) names) := by
  have hapart : (names.filterMap (Fields.get? (Scope.ofConfig config))).Pairwise
      fun c d => c.name ≠ d.name := by
    rw [← List.pairwise_map (R := (· ≠ ·)), Scope.map_name_filterMap h]
    exact hnodup
  -- two default imports would have one name
  refine collects_foldl (hapart.imp_of_mem fun {c d} hc hd hne hdstyle hcstyle => hne ?_)
  obtain ⟨_, -, hc⟩ := List.mem_filterMap.mp hc
  obtain ⟨_, -, hd⟩ := List.mem_filterMap.mp hd
  rw [(Scope.get?_ofConfig_eq_some.mp hc).1.name_eq hcstyle,
    (Scope.get?_ofConfig_eq_some.mp hd).1.name_eq hdstyle]

end Collects

/-! ## Texts of lines -/

/-- Names in braces. -/
def inBraces (names : List String) : String := "\x7b " ++ ", ".intercalate names ++ " \x7d"

/-- The text of an import: the default name, if there is one, comes first, and the other names, if
there are some, follow in braces. -/
inductive IsImport (path : String) : ImportLine → String → Prop
  | whole (name : String) :
    IsImport path ⟨some name, []⟩ ("import " ++ name ++ " from '" ++ path ++ "';\n")
  | named (first : String) (more : List String) :
    IsImport path ⟨none, first :: more⟩
      ("import " ++ inBraces (first :: more) ++ " from '" ++ path ++ "';\n")
  | both (name first : String) (more : List String) :
    IsImport path ⟨some name, first :: more⟩
      ("import " ++ (name ++ ", " ++ inBraces (first :: more)) ++ " from '" ++ path ++ "';\n")

section Texts

variable {line : ImportLine} {table : Fields ImportLine}

/-- The text of a line that names something is an import. -/
theorem isImport_importText {path : String} (h : line.names ≠ []) :
    IsImport path line (importText line.clause path) := by
  obtain ⟨whole, named⟩ := line
  cases whole with
  -- a line without a default has named imports, and one with a default may have some as well
  | none =>
    cases named with
    | nil => exact absurd rfl h
    | cons first more => exact .named first more
  | some name =>
    cases named with
    | nil => exact .whole name
    | cons first more => exact .both name first more

/-- The texts of the lines of a table. -/
def lineTexts (table : Fields ImportLine) : List String :=
  table.map fun line => importText line.2.clause line.1

theorem forall₂_isImport (h : ∀ line ∈ table, line.2.names ≠ []) :
    List.Forall₂ (fun line text => IsImport line.1 line.2 text) table (lineTexts table) := by
  rw [lineTexts, List.forall₂_map_right_iff, List.forall₂_same]
  exact fun line hline => isImport_importText (h line hline)

/-- There is no text without a line. -/
theorem isEmpty_join_lineTexts :
    (String.join (lineTexts table)).isEmpty = (lineTexts table).isEmpty := by
  cases table with
  | nil => rfl
  | cons line rest => simp [lineTexts, String.join_cons, importText]

end Texts

/-! ## Imports of generated modules -/

/-- The import lines of a module are those of the capabilities of its blueprint. -/
structure ImportsUsed (config : CapabilityConfig) (b : Blueprint) (lines : Fields ImportLine) :
    Prop where
  /-- There is one line for a module. -/
  apart : (Fields.keys lines).Nodup
  /-- Each capability is named once, and nothing else is named. -/
  names : lines.flatMap (fun line => line.2.names) ~ b.capabilities ∧ b.capabilities.Nodup
  /-- What is imported from a module is what the scope and the configuration have there, in its
  style. -/
  assigned : ∀ line ∈ lines, ∀ name style, line.2.Has name style →
    ∃ c, Fields.get? (Scope.ofConfig config) name = some c ∧ Scope.Provides config c ∧
      c.name = name ∧ c.module = line.1 ∧ c.style = style
  /-- Nothing is declared under an imported name. -/
  unbound : ∀ name ∈ b.capabilities,
    name ∉ Fields.keys b.helpers ∧ ∀ constant ∈ b.constants, name ∉ constant.1.names
  /-- The primitives module exports what is imported from the module of the atoms. -/
  exported : config.hostModule ≠ config.atomsModule → ∀ line ∈ lines,
    line.1 = config.atomsModule → ∀ name ∈ line.2.names,
      ExportsFunction (primitivesModule config.atoms) name

section Used

variable {config : CapabilityConfig} {b : Blueprint}

/-- The table of a unit imports what the unit uses. -/
theorem importsUsed_importTable (hnodup : b.capabilities.Nodup)
    (hscope : ∀ name ∈ b.capabilities, Fields.contains (Scope.ofConfig config) name = true)
    (hunbound : ∀ name ∈ b.capabilities,
      name ∉ Fields.keys b.helpers ∧ ∀ constant ∈ b.constants, name ∉ constant.1.names) :
    ImportsUsed config b (importTable (Scope.ofConfig config) b.capabilities) := by
  have hlines := collects_importTable hnodup hscope
  have hassigned : ∀ line ∈ importTable (Scope.ofConfig config) b.capabilities, ∀ name style,
      line.2.Has name style →
      ∃ c, Fields.get? (Scope.ofConfig config) name = some c ∧ Scope.Provides config c ∧
        c.name = name ∧ c.module = line.1 ∧ c.style = style := by
    intro line hline name style hname
    -- a line names what some capability of the unit provides
    obtain ⟨c, hc, rfl, hmodule, hstyle⟩ := hlines.assigned line hline name style hname
    obtain ⟨other, -, hc⟩ := List.mem_filterMap.mp hc
    obtain ⟨hprovides, rfl⟩ := Scope.get?_ofConfig_eq_some.mp hc
    exact ⟨c, hc, hprovides, rfl, hmodule, hstyle⟩
  refine ⟨hlines.ascending.imp ne_of_lt, ⟨?names, hnodup⟩, hassigned, hunbound, ?exported⟩
  case names => simpa only [Scope.map_name_filterMap hscope] using hlines.names
  -- where the primitives have a module of their own, the names in its line are primitive elements
  case exported =>
    intro hne line hline hmodule name hname
    obtain ⟨style, hname⟩ := ImportLine.mem_names_iff.mp hname
    obtain ⟨c, -, hprovides, rfl, hcmodule, -⟩ := hassigned line hline name style hname
    exact exportsFunction_primitivesModule (hprovides.mem_atoms hne (hcmodule.trans hmodule))

end Used

/-- A module of a generated component imports exactly what the component uses: in front of the
source there is one line for each module, which imports what the component uses and does not bind
itself, and the source declares no imports. -/
theorem imports_exactly_used {config : CapabilityConfig} (definition : Definition) {b : Blueprint}
    (h : Blueprint.compile definition.typeId definition.source (Scope.ofConfig config) = .ok b)
    (directory : String) :
    ∃ program lines texts,
      Program.read (Payload.stripFence definition.source) = .ok program ∧
      (∀ stmt ∈ program.body, ¬ stmt.DeclaresModule) ∧
      (∀ name, name ∈ b.capabilities ↔ program.Uses name ∧ ¬ program.Binds name ∧
        Fields.contains (Scope.ofConfig config) name = true) ∧
      ImportsUsed config b lines ∧
      List.Forall₂ (fun line text => IsImport line.1 line.2 text) lines texts ∧
      (ComponentModule.ofGenerated (Registry.entryOf definition b) (Scope.ofConfig config)
        directory).contents =
          (if texts.isEmpty then "" else String.join texts ++ "\n") ++
            String.ofList (Text.trimEnd (Payload.stripFence definition.source).toList) ++
            "\n\nexport default " ++ b.factoryName ++ ";\n" := by
  obtain ⟨program, factoryName, hread, hprogram, hcapabilities⟩ :=
    Blueprint.capabilities_of_compile h
  have hmem : ∀ name, name ∈ b.capabilities ↔ program.Uses name ∧ ¬ program.Binds name ∧
      Fields.contains (Scope.ofConfig config) name = true := by
    intro name
    rw [hcapabilities]
    exact Blueprint.mem_capabilities
  -- capabilities are listed once each, in the order of their names
  have hnodup : b.capabilities.Nodup := by
    rw [hcapabilities]
    exact (pairwise_sortedNames _).imp ne_of_lt
  -- a capability is bound nowhere, so neither a helper nor a constant has its name
  have hunbound : ∀ name ∈ b.capabilities,
      name ∉ Fields.keys b.helpers ∧ ∀ constant ∈ b.constants, name ∉ constant.1.names := by
    intro name hname
    have hfree := ((hmem name).mp hname).2.1
    exact ⟨fun hhelper => hfree (Blueprint.binds_of_declared hprogram (.inl hhelper)),
      fun constant hconstant hbound =>
        hfree (Blueprint.binds_of_declared hprogram (.inr ⟨constant, hconstant, hbound⟩))⟩
  have hscope : ∀ name ∈ b.capabilities, Fields.contains (Scope.ofConfig config) name = true :=
    fun name hname => ((hmem name).mp hname).2.2
  refine ⟨program, importTable (Scope.ofConfig config) b.capabilities, _, hread,
    Blueprint.not_declaresModule_of_compile h hread, hmem,
    importsUsed_importTable hnodup hscope hunbound,
    forall₂_isImport (collects_importTable hnodup hscope).filled, ?_⟩
  rw [← isEmpty_join_lineTexts]
  rfl

example : importsText (Scope.ofConfig {}) ["Icon", "React", "useState"] =
    "import \x7b Icon \x7d from '../ui/primitives';\nimport React, \x7b useState \x7d from 'react';\n" := by
  decide +kernel

/-- A card with a hook, the host namespace and an atom. -/
def countingSource : String :=
  "function Card() \x7b useState(0); return <React.Fragment><Icon/></React.Fragment>; \x7d"

/-- The card imports the three names, and the icon is exported where it comes from. -/
theorem imports_exactly_used_of_counting :
    ∃ b lines texts,
      Blueprint.compile "Card" countingSource (Scope.ofConfig {}) = .ok b ∧
      b.capabilities = ["Icon", "React", "useState"] ∧ ImportsUsed {} b lines ∧
      List.Forall₂ (fun line text => IsImport line.1 line.2 text) lines texts ∧
      ExportsFunction (primitivesModule ({} : CapabilityConfig).atoms) "Icon" := by
  have hrun : ((Blueprint.compile "Card" countingSource (Scope.ofConfig {})).mapError
      (fun _ => ()) >>= fun b => pure b.capabilities) = .ok ["Icon", "React", "useState"] := by
    decide +kernel
  obtain ⟨b, hcompile, hrun⟩ := bind_eq_ok.mp hrun
  rw [mapError_eq_ok] at hcompile
  have hcapabilities := pure_eq_ok.mp hrun
  obtain ⟨program, lines, texts, -, -, -, hused, htexts, -⟩ :=
    imports_exactly_used ⟨"Card", .other, [], countingSource⟩ hcompile "src"
  refine ⟨b, lines, texts, hcompile, hcapabilities, hused, htexts, ?_⟩
  -- one of the three names is a primitive element, whose module exports it
  have hicon : "Icon" ∈ lines.flatMap fun line => line.2.names :=
    hused.names.1.mem_iff.mpr (by simp [hcapabilities])
  obtain ⟨line, hline, hicon⟩ := List.mem_flatMap.mp hicon
  obtain ⟨style, hstyle⟩ := ImportLine.mem_names_iff.mp hicon
  obtain ⟨c, hc, -, -, hmodule, -⟩ := hused.assigned line hline "Icon" style hstyle
  rw [Scope.get?_ofConfig, if_pos (by decide)] at hc
  obtain rfl := Option.some.inj hc
  exact hused.exported (by decide) line hline hmodule.symm "Icon" hicon

end Project

end ComponentCanvas
