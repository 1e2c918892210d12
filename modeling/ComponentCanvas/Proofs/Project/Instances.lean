import ComponentCanvas.Proofs.Pointwise
import ComponentCanvas.Proofs.Project.Files
import ComponentCanvas.Proofs.Property.Lines
import ComponentCanvas.Proofs.Text.Pieces

/-!
# Instances of an Export

An export takes the instances in order.  One is left out if there is nothing to export for its type;
one that has a component but no markup ends the export, and the first such one is named; all others
get one line each.  The lines can be read off the text of the entry point, which is the file in its
place unless a module has its path.
-/

namespace ComponentCanvas.Project

variable {catalog : Catalog} {registry : Registry} {directory : String}

/-! ## What becomes of an instance -/

/-- Whether there is a module for a component: for all but those of the catalog without a
template. -/
def HasModule : Component → Prop
  | .generated _ => True
  | .ready entry => entry.isExportable = true

/-- Whether a type stands for a component that is exported. -/
def Exports (catalog : Catalog) (registry : Registry) (typeId : String) (component : Component) :
    Prop :=
  registry.resolve? catalog typeId = some component ∧ HasModule component

/-- Whether an instance is shown by a line of markup. -/
def ShownAs (catalog : Catalog) (registry : Registry) (entry : InstanceId × Instance)
    (line : String) : Prop :=
  ∃ component, Exports catalog registry entry.2.typeId component ∧
    Property.markup component.typeId entry.2.properties = .ok line

/-- Whether an instance that should be shown has no markup. -/
def BlockedBy (catalog : Catalog) (registry : Registry) (placed : Instance)
    (cause : Property.WriteError) : Prop :=
  ∃ component, Exports catalog registry placed.typeId component ∧
    Property.markup component.typeId placed.properties = .error cause

/-- Whether an instance is left out, with the report on it. -/
inductive LeftOut (catalog : Catalog) (registry : Registry) : InstanceId × Instance → Skipped → Prop
  | unresolved {id : InstanceId} {placed : Instance}
      (h : registry.resolve? catalog placed.typeId = none) :
      LeftOut catalog registry (id, placed) ⟨id, placed.typeId, .unresolved⟩
  | noTemplate {id : InstanceId} {placed : Instance} {entry : Catalog.Entry}
      (h : registry.resolve? catalog placed.typeId = some (.ready entry))
      (hentry : entry.isExportable = false) :
      LeftOut catalog registry (id, placed) ⟨id, placed.typeId, .noTemplate⟩

/-- A type can be exported exactly if it exports a component. -/
theorem exportable?_eq_ok {typeId : String} {component : Component} :
    exportable? catalog registry typeId = .ok component ↔
      Exports catalog registry typeId component := by
  constructor
  · intro h
    refine ⟨resolve?_of_exportable? h, ?_⟩
    cases component with
    | generated entry => trivial
    | ready entry =>
      rw [exportable?, resolve?_of_exportable? h] at h
      -- an entry of the catalog needs a template, and without one the export gives a reason
      by_contra hentry
      simp only [HasModule, Bool.not_eq_true] at hentry
      simp [hentry] at h
  · rintro ⟨hresolve, hmodule⟩
    rw [exportable?, hresolve]
    cases component with
    | generated entry => rfl
    | ready entry => exact if_pos hmodule

/-- An instance that cannot be exported is left out for the reason that is given. -/
theorem leftOut_of_exportable? {id : InstanceId} {placed : Instance} {reason : SkipReason}
    (h : exportable? catalog registry placed.typeId = .error reason) :
    LeftOut catalog registry (id, placed) ⟨id, placed.typeId, reason⟩ := by
  unfold exportable? at h
  split at h
  · next hresolve =>
    obtain rfl := Except.error.inj h
    exact .unresolved hresolve
  -- an entry of the catalog is left out only if it has no template
  · next entry hresolve =>
    split at h
    · cases h
    · next hentry =>
      obtain rfl := Except.error.inj h
      exact .noTemplate hresolve (by simpa using hentry)
  · cases h

/-- An instance is left out, blocks the export or is shown. -/
theorem cases_add (catalog : Catalog) (registry : Registry) (directory : String) (draft : Draft)
    (id : InstanceId) (placed : Instance) :
    (∃ skipped, LeftOut catalog registry (id, placed) skipped ∧
      draft.add catalog registry directory id placed =
        .ok { draft with skipped := draft.skipped ++ [skipped] }) ∨
    (∃ cause, BlockedBy catalog registry placed cause ∧
      draft.add catalog registry directory id placed = .error ⟨id, placed.typeId, cause⟩) ∨
    ∃ line modules, ShownAs catalog registry (id, placed) line ∧
      draft.add catalog registry directory id placed =
        .ok { draft with
          modules, markup := draft.markup ++ [line], exported := draft.exported ++ [placed] } := by
  rw [Draft.add]
  -- left out, or blocked by its line, or shown
  cases hexport : exportable? catalog registry placed.typeId with
  | error reason => exact .inl ⟨_, leftOut_of_exportable? hexport, rfl⟩
  | ok component =>
    have hcomponent := exportable?_eq_ok.mp hexport
    cases hline : Property.markup component.typeId placed.properties with
    | error cause => exact .inr (.inl ⟨cause, ⟨component, hcomponent, hline⟩, by simp [hline]⟩)
    | ok line =>
      exact .inr (.inr ⟨line, _, ⟨component, hcomponent, hline⟩, by simp only [hline]; rfl⟩)

theorem Exports.unique {typeId : String} {component other : Component}
    (h : Exports catalog registry typeId component) (h' : Exports catalog registry typeId other) :
    component = other :=
  Option.some.inj (h.1.symm.trans h'.1)

/-- There is nothing to export for an instance that is left out. -/
theorem LeftOut.not_exports {entry : InstanceId × Instance} {skipped : Skipped}
    (h : LeftOut catalog registry entry skipped) (component : Component) :
    ¬ Exports catalog registry entry.2.typeId component := by
  rintro ⟨hresolve, hmodule⟩
  -- its type resolves to nothing, or to an entry without a template
  cases h with
  | unresolved h =>
    rw [h] at hresolve
    cases hresolve
  | noTemplate h hentry =>
    rw [h] at hresolve
    obtain rfl := Option.some.inj hresolve
    rw [HasModule, hentry] at hmodule
    cases hmodule

/-- So it never blocks the export. -/
theorem LeftOut.not_blockedBy {entry : InstanceId × Instance} {skipped : Skipped}
    (h : LeftOut catalog registry entry skipped) (cause : Property.WriteError) :
    ¬ BlockedBy catalog registry entry.2 cause :=
  fun ⟨component, hcomponent, _⟩ => h.not_exports component hcomponent

theorem LeftOut.typeId_eq {entry : InstanceId × Instance} {skipped : Skipped}
    (h : LeftOut catalog registry entry skipped) : skipped.typeId = entry.2.typeId := by
  cases h <;> rfl

theorem ShownAs.not_blockedBy {entry : InstanceId × Instance} {line : String}
    (h : ShownAs catalog registry entry line) (cause : Property.WriteError) :
    ¬ BlockedBy catalog registry entry.2 cause := by
  rintro ⟨component, hcomponent, hcause⟩
  obtain ⟨other, hother, hline⟩ := h
  rw [hcomponent.unique hother, hline] at hcause
  cases hcause

/-! ## The first instance that blocks -/

/-- Whether an error names the first instance that blocks the export, with its own cause. -/
def FirstBlocked (catalog : Catalog) (registry : Registry)
    (instances : List (InstanceId × Instance)) (e : ExportError) : Prop :=
  ∃ before placed after, instances = before ++ (e.id, placed) :: after ∧
    (∀ entry ∈ before, ∀ cause, ¬ BlockedBy catalog registry entry.2 cause) ∧
    e.typeId = placed.typeId ∧ BlockedBy catalog registry placed e.cause

/-- Behind an instance that does not block, the first one that blocks is that of the rest. -/
theorem firstBlocked_cons {entry : InstanceId × Instance} {rest : List (InstanceId × Instance)}
    {e : ExportError} (h : ∀ cause, ¬ BlockedBy catalog registry entry.2 cause) :
    FirstBlocked catalog registry (entry :: rest) e ↔ FirstBlocked catalog registry rest e := by
  constructor
  · rintro ⟨before, placed, after, heq, hbefore, htype, hcause⟩
    -- the first instance cannot be the one that blocks, so it stands in front of that one
    cases before with
    | nil =>
      obtain ⟨rfl, rfl⟩ := List.cons.inj heq
      exact absurd hcause (h e.cause)
    | cons first before =>
      obtain ⟨rfl, hrest⟩ := List.cons.inj heq
      exact ⟨before, placed, after, hrest, (List.forall_mem_cons.mp hbefore).2, htype, hcause⟩
  · rintro ⟨before, placed, after, rfl, hbefore, htype, hcause⟩
    exact ⟨entry :: before, placed, after, rfl, List.forall_mem_cons.mpr ⟨h, hbefore⟩, htype,
      hcause⟩

/-- At an instance that blocks, it is the first one. -/
theorem firstBlocked_cons_of_blockedBy {id : InstanceId} {placed : Instance}
    {rest : List (InstanceId × Instance)} {e : ExportError} {cause : Property.WriteError}
    (h : BlockedBy catalog registry placed cause) :
    FirstBlocked catalog registry ((id, placed) :: rest) e ↔ e = ⟨id, placed.typeId, cause⟩ := by
  constructor
  · rintro ⟨before, placed', after, heq, hbefore, htype, hcause⟩
    -- nothing stands in front of it, since no instance in front of the first one that blocks does
    -- so
    cases before with
    | nil =>
      obtain ⟨hentry, rfl⟩ := List.cons.inj heq
      obtain ⟨hid, rfl⟩ := Prod.mk.inj hentry
      obtain ⟨component, hcomponent, hmarkup⟩ := h
      obtain ⟨other, hother, hmarkup'⟩ := hcause
      rw [hcomponent.unique hother, hmarkup'] at hmarkup
      obtain ⟨e_id, e_type, e_cause⟩ := e
      obtain rfl := Except.error.inj hmarkup
      simp_all
    | cons first before =>
      obtain ⟨rfl, -⟩ := List.cons.inj heq
      exact absurd h (hbefore _ (List.mem_cons_self ..) cause)
  · rintro rfl
    exact ⟨[], placed, rest, rfl, by simp, rfl, h⟩

/-- Gathering fails exactly at the first instance that blocks. -/
theorem ofInstances_eq_error {draft : Draft} {instances : List (InstanceId × Instance)}
    {e : ExportError} :
    Draft.ofInstances catalog registry directory draft instances = .error e ↔
      FirstBlocked catalog registry instances e := by
  induction instances generalizing draft with
  | nil => exact ⟨nofun, fun ⟨_, _, _, heq, _⟩ => by simp at heq⟩
  | cons entry rest ih =>
    obtain ⟨id, placed⟩ := entry
    rw [Draft.ofInstances, bind_eq_error]
    -- gathering goes on behind an instance that is left out or shown, and ends at one that blocks
    rcases cases_add catalog registry directory draft id placed with
      ⟨skipped, hleft, hadd⟩ | ⟨cause, hblocked, hadd⟩ | ⟨line, modules, hshown, hadd⟩
    · rw [hadd, firstBlocked_cons hleft.not_blockedBy]
      simp [ih]
    · rw [hadd, firstBlocked_cons_of_blockedBy hblocked]
      simp [eq_comm]
    · rw [hadd, firstBlocked_cons hshown.not_blockedBy]
      simp [ih]

/-- An export fails exactly at the first instance that blocks. -/
theorem synthesize_eq_error {document : Document} {config : Config} {e : ExportError} :
    synthesize document catalog registry config = .error e ↔
      FirstBlocked catalog registry document.instances e := by
  rw [synthesize, bind_pure_eq_error, ofInstances_eq_error]

/-- There is a first instance that blocks exactly if there is one that blocks. -/
theorem exists_firstBlocked_iff {instances : List (InstanceId × Instance)} :
    (∃ e, FirstBlocked catalog registry instances e) ↔
      ∃ entry ∈ instances, ∃ cause, BlockedBy catalog registry entry.2 cause := by
  induction instances with
  | nil => simp [FirstBlocked]
  | cons entry rest ih =>
    -- the first instance blocks, or the first one that does is among the others
    by_cases hblocked : ∃ cause, BlockedBy catalog registry entry.2 cause
    · obtain ⟨cause, hcause⟩ := hblocked
      refine iff_of_true ⟨⟨entry.1, entry.2.typeId, cause⟩, ?_⟩ ?_
      · exact (firstBlocked_cons_of_blockedBy hcause).mpr rfl
      · exact ⟨entry, List.mem_cons_self .., cause, hcause⟩
    · have hnone : ∀ cause, ¬ BlockedBy catalog registry entry.2 cause := not_exists.mp hblocked
      simp only [firstBlocked_cons hnone, ih, List.mem_cons, exists_eq_or_imp, hblocked, false_or]

/-! ## The instances of a draft -/

/-- What a draft says of the instances that have been gathered: those that are shown and those that
are left out, each in their order. -/
structure Draft.Accounts (catalog : Catalog) (registry : Registry)
    (instances shown left : List (InstanceId × Instance)) (draft : Draft) : Prop where
  shown_sublist : shown.Sublist instances
  left_sublist : left.Sublist instances
  perm : instances.Perm (shown ++ left)
  markup : List.Forall₂ (ShownAs catalog registry) shown draft.markup
  skipped : List.Forall₂ (LeftOut catalog registry) left draft.skipped
  exported : draft.exported = shown.map (·.2)

variable {instances rest shown left : List (InstanceId × Instance)} {draft after : Draft}

theorem accounts_nil : ({} : Draft).Accounts catalog registry [] [] [] where
  shown_sublist := .slnil
  left_sublist := .slnil
  perm := .nil
  markup := .nil
  skipped := .nil
  exported := rfl

/-- An instance that is left out is added to those that are. -/
theorem Draft.Accounts.leaveOut (h : draft.Accounts catalog registry instances shown left)
    {entry : InstanceId × Instance} {skipped : Skipped}
    (hleft : LeftOut catalog registry entry skipped) :
    ({ draft with skipped := draft.skipped ++ [skipped] } : Draft).Accounts catalog registry
      (instances ++ [entry]) shown (left ++ [entry]) where
  shown_sublist := h.shown_sublist.trans (List.sublist_append_left _ _)
  left_sublist := h.left_sublist.append (.refl _)
  perm := by
    rw [← List.append_assoc]
    exact h.perm.append_right _
  markup := h.markup
  skipped := List.rel_append h.skipped (.cons hleft .nil)
  exported := h.exported

/-- An instance that is shown is added to those that are. -/
theorem Draft.Accounts.shows (h : draft.Accounts catalog registry instances shown left)
    {entry : InstanceId × Instance} {line : String}
    (hshown : ShownAs catalog registry entry line) (modules : List ComponentModule) :
    ({ draft with
        modules, markup := draft.markup ++ [line], exported := draft.exported ++ [entry.2] } :
      Draft).Accounts catalog registry (instances ++ [entry]) (shown ++ [entry]) left where
  shown_sublist := h.shown_sublist.append (.refl _)
  left_sublist := h.left_sublist.trans (List.sublist_append_left _ _)
  perm := by
    -- the instance moves past those that are left out
    rw [List.append_assoc]
    refine (h.perm.append_right _).trans ?_
    rw [List.append_assoc]
    exact List.perm_append_comm.append_left _
  markup := List.rel_append h.markup (.cons hshown .nil)
  skipped := h.skipped
  exported := by simp [h.exported]

/-- What is gathered of instances accounts for all of them. -/
theorem Draft.Accounts.ofInstances (h : draft.Accounts catalog registry instances shown left)
    (hgather : Draft.ofInstances catalog registry directory draft rest = .ok after) :
    ∃ shown left, after.Accounts catalog registry (instances ++ rest) shown left := by
  induction rest generalizing draft instances shown left with
  | nil =>
    obtain rfl := Except.ok.inj hgather
    exact ⟨shown, left, by rwa [List.append_nil]⟩
  | cons entry rest ih =>
    obtain ⟨id, placed⟩ := entry
    obtain ⟨between, hadd, hrest⟩ := bind_eq_ok.mp hgather
    rw [List.append_cons]
    -- gathering has succeeded, so no instance has blocked it
    rcases cases_add catalog registry directory draft id placed with
      ⟨skipped, hleft, heq⟩ | ⟨cause, -, heq⟩ | ⟨line, modules, hshown, heq⟩
    · rw [heq] at hadd
      obtain rfl := Except.ok.inj hadd
      -- one more instance is left out
      exact ih (h.leaveOut hleft) hrest
    · rw [heq] at hadd
      cases hadd
    · rw [heq] at hadd
      obtain rfl := Except.ok.inj hadd
      -- one more line is shown
      exact ih (h.shows hshown modules) hrest

/-- The instances that are shown are those with a component that is exported. -/
theorem Draft.Accounts.mem_shown_iff (h : draft.Accounts catalog registry instances shown left)
    {entry : InstanceId × Instance} : entry ∈ shown ↔
      entry ∈ instances ∧ ∃ component, Exports catalog registry entry.2.typeId component := by
  constructor
  · intro hshown
    obtain ⟨_, -, component, hcomponent, -⟩ := exists_right_of_forall₂ h.markup hshown
    exact ⟨h.shown_sublist.subset hshown, component, hcomponent⟩
  · rintro ⟨hmem, component, hcomponent⟩
    rcases List.mem_append.mp (h.perm.mem_iff.mp hmem) with hshown | hleft
    · exact hshown
    · -- what is left out has nothing to export
      obtain ⟨_, -, hleft⟩ := exists_right_of_forall₂ h.skipped hleft
      exact absurd hcomponent (hleft.not_exports component)

/-! ## The lines of the entry point -/

/-- The blanks in front of every line of markup. -/
def indentation : List Char := List.replicate 6 ' '

/-- A line of markup as it stands in the entry point. -/
def indented (line : String) : List Char := indentation ++ line.toList

/-- The lines of markup that the text of an entry point shows: those with their indentation in front
of the end of the element. -/
def shownLines (text : String) : List String :=
  let lines := (Text.splitBy (· == '\n') text.toList).reverse.drop 4
  (lines.takeWhile indentation.isPrefixOf).reverse.map fun line => String.ofList (line.drop 6)

/-- Helper: the line that opens the element with the instances. -/
def mainLine : List Char := "    <main className=\"min-h-screen\">".toList

/-- Helper: the text behind the lines of markup. -/
def closingText : List Char := "    </main>\n  );\n\x7d\n".toList

/-- Helper: lines with a line feed at the end of each. -/
def endedLines (lines : List (List Char)) : List Char := lines.flatMap (· ++ ['\n'])

/-- Lines that are ended by line feeds are the pieces of their text. -/
theorem splitBy_lines {lines : List (List Char)} (h : ∀ line ∈ lines, '\n' ∉ line)
    (rest : List Char) :
    Text.splitBy (· == '\n') (endedLines lines ++ rest) =
      lines ++ Text.splitBy (· == '\n') rest := by
  induction lines with
  | nil => rfl
  | cons line lines ih =>
    rw [List.forall_mem_cons] at h
    -- a line without a line feed is one piece
    have hline : Text.splitBy (· == '\n') line = [line] := by
      apply Text.splitBy_eq_singleton
      intro c hc
      rw [beq_eq_false_iff_ne]
      rintro rfl
      exact h.1 hc
    rw [endedLines, List.flatMap_cons, ← endedLines, List.append_assoc, List.append_assoc,
      List.singleton_append, Text.splitBy_append_cons rfl, hline, ih h.2]
    rfl

/-- Helper: two lines in the middle of a text. -/
private theorem toList_parts {first second body : String} {line line' inner : List Char}
    (h : first.toList = line ++ ['\n']) (h' : second.toList = line' ++ ['\n'])
    (hbody : body.toList = inner) (opening closing : String) :
    (opening ++ first ++ second ++ body ++ closing).toList =
      (opening.toList ++ line) ++ '\n' :: (line' ++ '\n' :: (inner ++ closing.toList)) := by
  simp [h, h', hbody]

/-- In the text of an entry point the lines of markup stand between the line that opens the element
and the text that closes it. -/
theorem toList_entryText (modules : List ComponentModule) (markup : List String) :
    ∃ head : List Char, (entryText modules markup).toList =
      head ++ '\n' :: (mainLine ++ '\n' ::
        (endedLines (markup.map indented) ++ closingText)) := by
  have hline : ∀ line : String, ("      " ++ line ++ "\n").toList = indented line ++ ['\n'] := by
    intro line
    simp [indented, indentation, List.replicate]
  have hlines : (String.join (markup.map fun line => "      " ++ line ++ "\n")).toList =
      endedLines (markup.map indented) := by
    simp only [String.toList_join, List.flatMap_map, hline, endedLines]
  -- the two lines in front of the markup
  have hreturn : "  return (\n".toList = "  return (".toList ++ ['\n'] := by decide +kernel
  have hmain : "    <main className=\"min-h-screen\">\n".toList = mainLine ++ ['\n'] := by
    decide +kernel
  exact ⟨_, toList_parts hreturn hmain hlines _ _⟩

/-- The lines of an entry point are those that it was made of. -/
theorem shownLines_entryText (modules : List ComponentModule) {markup : List String}
    (h : ∀ line ∈ markup, '\n' ∉ line.toList) :
    shownLines (entryText modules markup) = markup := by
  obtain ⟨head, htext⟩ := toList_entryText modules markup
  set lines := markup.map indented with hlines
  have hfeed : ∀ line ∈ lines, '\n' ∉ line := by
    rw [hlines, List.forall_mem_map]
    intro line hline
    rw [indented, List.mem_append, not_or]
    exact ⟨by decide, h line hline⟩
  -- every line of markup opens with the indentation, and the line in front of them does not
  have hprefix : ∀ line ∈ lines.reverse, indentation.isPrefixOf line = true := by
    simp only [List.mem_reverse, hlines, List.forall_mem_map]
    intro line _
    simp [indented]
  -- the two pieces of text around the lines are closed terms, so they are split by evaluation
  have hmain : Text.splitBy (· == '\n') mainLine = [mainLine] := by decide
  have hclosing : Text.splitBy (· == '\n') closingText =
      ["    </main>".toList, "  );".toList, ['\x7d'], []] := by decide
  simp only [shownLines]
  rw [htext, Text.splitBy_append_cons rfl, Text.splitBy_append_cons rfl, splitBy_lines hfeed, hmain,
    hclosing]
  -- from the end on: the text behind the lines, the lines, and one line with less indentation
  simp only [List.reverse_append, List.reverse_cons, List.reverse_nil, List.nil_append,
    List.cons_append, List.append_assoc, List.drop_succ_cons, List.drop_zero]
  rw [List.takeWhile_append_of_pos hprefix, List.takeWhile_cons_of_neg (by decide), List.append_nil,
    List.reverse_reverse, hlines, List.map_map]
  simp [Function.comp_def, indented, indentation]

/-! ## The file of the entry point -/

/-- Whether the module of a component has the path of the entry point. -/
def InEntryPlace (directory : String) : Component → Prop
  | .ready entry => trimSlashes entry.sourceImportPath = "App"
  | .generated entry => trimSlashesEnd directory ++ "/" ++ entry.typeId = "src/App"

/-- A module has the path of the entry point exactly if its component is in that place. -/
theorem path_eq_entryPath_iff (scope : Scope) (directory : String) (component : Component) :
    (ComponentModule.ofComponent scope directory component).path = entryPath ↔
      InEntryPlace directory component := by
  have hentry : entryPath = "src/App" ++ ".jsx" := by decide +kernel
  have happ : "src/App" = "src/" ++ "App" := by decide +kernel
  cases component with
  -- both paths end in the extension, so it can be cancelled
  | ready entry =>
    show "src/" ++ trimSlashes entry.sourceImportPath ++ ".jsx" = entryPath ↔ _
    rw [hentry, happ, InEntryPlace, ← String.toList_inj, ← String.toList_inj]
    simp only [String.toList_append, List.append_cancel_right_eq, List.append_cancel_left_eq]
  | generated entry =>
    show trimSlashesEnd directory ++ "/" ++ entry.typeId ++ ".jsx" = entryPath ↔ _
    rw [hentry, InEntryPlace, ← String.toList_inj, ← String.toList_inj]
    simp only [String.toList_append, List.append_cancel_right_eq]

/-- The file in the place of the entry point is that of the last module with its path, or else the
entry point. -/
theorem get?_fileTable_entryPath (config : Config) (dependencies : Fields String) (draft : Draft) :
    Fields.get? (fileTable config dependencies draft) entryPath =
      (Fields.get? (draft.modules.map fun m => (m.path, m.contents)).reverse entryPath).or
        (some (entryText draft.modules draft.markup)) := by
  -- of the files with one path the last one counts, and the modules are written last
  have hsplit : writtenFiles config dependencies draft =
      (scaffold config ++ [(manifestPath, manifestText config dependencies)]) ++
        (entryPath, entryText draft.modules draft.markup) ::
          draft.modules.map fun m => (m.path, m.contents) := by
    simp [writtenFiles]
  rw [get?_fileTable, hsplit, List.reverse_append, List.reverse_cons, List.append_assoc,
    Fields.get?_append, List.singleton_append, Fields.get?, if_pos (beq_self_eq_true _)]

/-! ## What becomes of the instances -/

/-- The type of what is exported is a line without blanks. -/
theorem lineFeed_notMem_typeId (hregistry : registry.Keyed) (hcatalog : catalog.Valid)
    {typeId : String} {component : Component}
    (h : registry.resolve? catalog typeId = some component) :
    '\n' ∉ component.typeId.toList := by
  have hcanonical : TypeId.canonical component.typeId = component.typeId := by
    rcases hregistry.cases_resolve? h with ⟨entry, rfl, hget⟩ | ⟨entry, hmem, rfl, -⟩
    · exact (hregistry.typeId_of_get? hget).symm
    · exact hcatalog.canonical entry hmem
  -- the type is in canonical form, and canonical forms hold no separators
  rw [← hcanonical, TypeId.canonical, String.toList_ofList]
  intro hmem
  exact absurd (TypeId.isSeparator_canonicalChars _ _ hmem) (by decide +kernel)

theorem ShownAs.lineFeed_notMem (hregistry : registry.Keyed) (hcatalog : catalog.Valid)
    {entry : InstanceId × Instance} {line : String} (h : ShownAs catalog registry entry line) :
    '\n' ∉ line.toList := by
  obtain ⟨component, hcomponent, hline⟩ := h
  exact Property.lineFeed_notMem_markup
    (lineFeed_notMem_typeId hregistry hcatalog hcomponent.1) hline

/-- An export fails exactly if an instance that has a component to export has no markup, and then it
names the first such instance with its own cause.  Otherwise the instances that are shown and those
that are left out are together all instances, each in their order; the lines of markup are those of
the instances that are shown, and they can be read off the text of the entry point.  That text is
the file in its place unless a component has its module there. -/
theorem instances_accounted {scope : Scope} {version : String} {entries : List Catalog.Entry}
    (hcatalog : Catalog.ofEntries version entries = .ok catalog)
    {submissions : List Registry.Submission}
    (hregistry : (Registry.run ⟨scope, []⟩ submissions).1 = registry) (document : Document)
    (config : Config) :
    ((∃ e, synthesize document catalog registry config = .error e) ↔
      ∃ entry ∈ document.instances, ∃ cause, BlockedBy catalog registry entry.2 cause) ∧
    (∀ e, synthesize document catalog registry config = .error e ↔
      FirstBlocked catalog registry document.instances e) ∧
    ∀ project, synthesize document catalog registry config = .ok project →
      ∃ draft, Draft.ofInstances catalog registry config.project.generatedDir {}
          document.instances = .ok draft ∧
        (∃ shown left, shown.Sublist document.instances ∧ left.Sublist document.instances ∧
          document.instances.Perm (shown ++ left) ∧
          List.Forall₂ (LeftOut catalog registry) left project.skipped ∧
          List.Forall₂ (ShownAs catalog registry) shown draft.markup) ∧
        shownLines (entryText draft.modules draft.markup) = draft.markup ∧
        Fields.get? project.files entryPath =
          (Fields.get? (draft.modules.map fun m => (m.path, m.contents)).reverse entryPath).or
            (some (entryText draft.modules draft.markup)) ∧
        ((∀ component ∈ exportedComponents catalog registry document.instances,
            ¬ InEntryPlace config.project.generatedDir component) →
          ∃ text, Fields.get? project.files entryPath = some text ∧
            shownLines text = draft.markup) := by
  have hkeyed : registry.Keyed := hregistry ▸ Registry.keyed_run scope submissions
  have hvalid := Catalog.valid_of_ofEntries hcatalog
  refine ⟨?_, fun e => synthesize_eq_error, ?_⟩
  -- both statements on failure say that an instance blocks, the second one which
  · simp only [synthesize_eq_error]
    exact exists_firstBlocked_iff
  intro project hproject
  obtain ⟨draft, hdraft, hgathers, hfiles⟩ := exists_draft_of_synthesize hproject
  have hskipped : project.skipped = draft.skipped := by
    rw [synthesize, hdraft] at hproject
    rw [← pure_eq_ok.mp hproject]
    rfl
  -- after a success every instance is shown or left out, as gathering has kept account of them
  obtain ⟨shown, left, haccounts⟩ := accounts_nil.ofInstances hdraft
  rw [List.nil_append] at haccounts
  -- the lines can be told apart in the text, since none of them holds a line feed
  have hlines : shownLines (entryText draft.modules draft.markup) = draft.markup := by
    apply shownLines_entryText
    intro line hline
    obtain ⟨entry, -, hshown⟩ := exists_left_of_forall₂ haccounts.markup hline
    exact hshown.lineFeed_notMem hkeyed hvalid
  -- which text is in the place of the entry point: that of the last module there, if there is one
  have hfile : Fields.get? project.files entryPath =
      (Fields.get? (draft.modules.map fun m => (m.path, m.contents)).reverse entryPath).or
        (some (entryText draft.modules draft.markup)) :=
    hfiles ▸ get?_fileTable_entryPath _ _ _
  refine ⟨draft, hdraft, ⟨shown, left, haccounts.shown_sublist, haccounts.left_sublist,
    haccounts.perm, hskipped ▸ haccounts.skipped, haccounts.markup⟩, hlines, hfile, ?_⟩
  intro hplace
  refine ⟨entryText draft.modules draft.markup, ?_, hlines⟩
  -- by the hypothesis no component has its module there
  have hfree : Fields.get? (draft.modules.map fun m => (m.path, m.contents)).reverse entryPath =
      none := by
    rw [← Option.not_isSome_iff_eq_none, ← Fields.contains, Fields.contains_iff_mem_keys]
    intro hmem
    obtain ⟨file, hfile, hpath⟩ := List.mem_map.mp hmem
    obtain ⟨m, hm, rfl⟩ := List.mem_map.mp (List.mem_reverse.mp hfile)
    obtain ⟨component, hcomponent, rfl⟩ := hgathers.origin m hm
    exact hplace component hcomponent ((path_eq_entryPath_iff _ _ _).mp hpath)
  rw [hfile, hfree, Option.none_or]

/-- A document with a card and behind it an instance of an unknown type. -/
def cardAndGhost : Document := ((placedOnce "Card").add ⟨"Ghost", .other, [], ⟨0, 0⟩⟩).1

/-- Of a card and an instance of an unknown type, the card is shown and the other is left out. -/
theorem instances_accounted_of_card :
    Catalog.ofEntries "" [] = .ok Catalog.empty ∧
      (Registry.run ⟨Scope.ofConfig {}, []⟩ [.single (greetingCard "Card")]).1 = greeted "Card" ∧
      ∃ project text, synthesize cardAndGhost Catalog.empty (greeted "Card") {} = .ok project ∧
        project.skipped.map (·.id) = [⟨2⟩] ∧
        Fields.get? project.files entryPath = some text ∧ shownLines text = ["<Card />"] := by
  have hrun : readExport cardAndGhost Catalog.empty (greeted "Card") {} (fun draft project =>
      (draft.markup, draft.modules.map (·.path == entryPath), project.skipped.map (·.id))) =
      .ok (["<Card />"], [false], [⟨2⟩]) := by decide +kernel
  obtain ⟨draft, project, hdraft, hproject, hread⟩ := exists_of_readExport hrun
  obtain ⟨hmarkup, hpaths, hskipped⟩ : draft.markup = ["<Card />"] ∧
      draft.modules.map (·.path == entryPath) = [false] ∧ project.skipped.map (·.id) = [⟨2⟩] := by
    simpa using hread
  -- the text is taken from the theorem, so it is the one in the export
  have hcatalog : Catalog.ofEntries "" [] = .ok Catalog.empty := rfl
  obtain ⟨-, -, haccounted⟩ := instances_accounted hcatalog rfl cardAndGhost {}
  obtain ⟨draft', hdraft', -, hlines, hfile, -⟩ := haccounted project hproject
  obtain rfl : draft = draft' := Except.ok.inj (hdraft.symm.trans hdraft')
  -- the one module has another path than the entry point
  obtain ⟨m, hmodules, hpath⟩ := List.map_eq_singleton_iff.mp hpaths
  rw [hmodules] at hfile
  have hother : Fields.get? ([m].map fun m => (m.path, m.contents)).reverse entryPath = none := by
    simp [Fields.get?, hpath]
  rw [hother, Option.none_or, ← hmodules] at hfile
  exact ⟨hcatalog, rfl, project, _, hproject, hskipped, hfile, hlines.trans hmarkup⟩

/-- A component of the catalog the module of which has the path of the entry point. -/
def cardInEntryPlace : Catalog.Entry where
  id := "card"
  displayName := "Card"
  category := .content
  typeId := "Card"
  sourceImportPath := "App"
  template := "export default function Card() \x7b\n  return <p>Hello</p>;\n\x7d\n"

/-- Its template stands in the place of the entry point, so the line of the card is lost. -/
theorem lines_lost_in_entry_place :
    ∃ catalog project, Catalog.ofEntries "" [cardInEntryPlace] = .ok catalog ∧
      synthesize (placedOnce "Card") catalog ⟨Scope.ofConfig {}, []⟩ {} = .ok project ∧
      project.skipped.length = 0 ∧ Property.markup "Card" [] = .ok "<Card />" ∧
      ∀ text, Fields.get? project.files entryPath = some text →
        shownLines text ≠ ["<Card />"] := by
  set catalog : Catalog := ⟨"", [cardInEntryPlace]⟩ with hcatalog
  have hrun : readExport (placedOnce "Card") catalog ⟨Scope.ofConfig {}, []⟩ {} (fun _ project =>
      (project.skipped.length, (Fields.get? project.files entryPath).map shownLines)) =
      .ok (0, some []) := by decide +kernel
  obtain ⟨_, project, -, hproject, hread⟩ := exists_of_readExport hrun
  obtain ⟨hskipped, hlines⟩ := Prod.mk.inj hread
  have haccepted : Catalog.ofEntries "" [cardInEntryPlace] = .ok catalog :=
    Catalog.ofEntries_eq_ok.mpr ⟨by decide +kernel, rfl⟩
  refine ⟨catalog, project, haccepted, hproject, hskipped, by decide +kernel, ?_⟩
  intro text htext
  -- the text in the place of the entry point is the template, which shows no line
  rw [htext, Option.map_some, Option.some.injEq] at hlines
  rw [hlines]
  simp

end ComponentCanvas.Project
