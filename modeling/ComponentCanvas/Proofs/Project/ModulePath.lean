import ComponentCanvas.Proofs.Project.Capabilities
import ComponentCanvas.Proofs.Project.Places
import Mathlib.Logic.Relation

/-!
# Normal Forms of Paths

A path is brought into normal form by taking out names: one that stays where it is, or a plain name
together with a step up right behind it.  In whatever order this is done, a path that never leads
above the root ends in the same plain names, those of the place that it leads to.

The path of the primitives module is such a normal form, and so is the place to which a generated
module looks for it, although the first is read from the configured directory and the second from
the path of the file.
-/

namespace ComponentCanvas.Project

variable {name : String} {place path names : List String}

/-! ## Names -/

/-- A name that leads one level down. -/
def IsPlain (name : String) : Prop := name ≠ "" ∧ name ≠ "." ∧ name ≠ ".."

instance (name : String) : Decidable (IsPlain name) := inferInstanceAs (Decidable (_ ∧ _))

theorem isIdle_iff : isIdle name = true ↔ name = "" ∨ name = "." := by simp [isIdle]

theorem isPlain_iff : IsPlain name ↔ isIdle name = false ∧ name ≠ ".." := by
  rw [IsPlain, ← and_assoc, ← not_or, ← isIdle_iff, Bool.not_eq_true]

theorem climb?_of_isIdle (h : isIdle name = true) (place : List String) :
    climb? place name = some place := by
  have hne : name ≠ ".." := by
    rintro rfl
    exact absurd h (by decide)
  rw [climb?, if_neg fun hup => hne hup.1, step, if_pos h]

theorem climb?_of_isPlain (h : IsPlain name) (place : List String) :
    climb? place name = some (place ++ [name]) := by
  obtain ⟨hidle, hne⟩ := isPlain_iff.mp h
  rw [climb?, if_neg fun hup => hne hup.1, step, if_neg (by simp [hidle]),
    if_neg (by simpa using hne)]

theorem climb?_up (place : List String) : climb? place ".." =
    if place = [] then none else some place.dropLast := by
  have hidle : isIdle ".." = false := by decide
  by_cases hplace : place = [] <;> simp [climb?, step, hidle, hplace]

/-- What a step up undoes is the last plain name. -/
theorem climb?_bind_up (h : IsPlain name) (place : List String) :
    (climb? place name).bind (climb? · "..") = some place := by
  rw [climb?_of_isPlain h, Option.bind_some, climb?_up, if_neg (by simp), List.dropLast_concat]

theorem walk?_cons (place : List String) (name : String) (rest : List String) :
    walk? place (name :: rest) = (climb? place name).bind (walk? · rest) :=
  List.foldlM_cons

/-! ## Normal forms -/

/-- One round of bringing a path into normal form. -/
inductive Shortens : List String → List String → Prop
  | idle {name : String} (front back : List String) (h : isIdle name = true) :
    Shortens (front ++ name :: back) (front ++ back)
  | undone {name : String} (front back : List String) (h : IsPlain name) :
    Shortens (front ++ name :: ".." :: back) (front ++ back)

/-- Whether names are the normal form of a path. -/
structure NormalForm (path names : List String) : Prop where
  shortened : Relation.ReflTransGen Shortens path names
  plain : ∀ name ∈ names, IsPlain name

/-- Bringing a path into normal form does not change where it leads. -/
theorem Shortens.walk?_eq {other : List String} (h : Shortens path other) (place : List String) :
    walk? place path = walk? place other := by
  cases h with
  -- an idle name is stepped over
  | idle front back h =>
    rw [walk?_append, walk?_append]
    congr 1
    funext between
    rw [walk?_cons, climb?_of_isIdle h, Option.bind_some]
  -- a step down that is undone by the next step
  | undone front back h =>
    rw [walk?_append, walk?_append]
    congr 1
    funext between
    simp only [walk?_cons]
    rw [← Option.bind_assoc, climb?_bind_up h, Option.bind_some]

/-- Plain names are walked down one by one. -/
theorem walk?_of_plain (h : ∀ name ∈ names, IsPlain name) (place : List String) :
    walk? place names = some (place ++ names) := by
  induction names generalizing place with
  | nil => simp [walk?]
  | cons name rest ih =>
    rw [List.forall_mem_cons] at h
    rw [walk?_cons, climb?_of_isPlain h.1, Option.bind_some, ih h.2, List.append_assoc,
      List.singleton_append]

/-- Without a step up, the names that do not stay where they are are passed through. -/
theorem walk?_of_notMem (h : ".." ∉ path) (place : List String) :
    walk? place path = some (place ++ path.filter (!isIdle ·)) := by
  induction path generalizing place with
  | nil => simp [walk?]
  | cons name rest ih =>
    rw [List.mem_cons, not_or] at h
    rw [walk?_cons]
    -- without steps upwards a name is idle or plain
    by_cases hidle : isIdle name = true
    · rw [climb?_of_isIdle hidle, Option.bind_some, ih h.2,
        List.filter_cons_of_neg (by simp [hidle])]
    · have hplain : IsPlain name :=
        isPlain_iff.mpr ⟨Bool.eq_false_of_not_eq_true hidle, fun hup => h.1 hup.symm⟩
      rw [climb?_of_isPlain hplain, Option.bind_some, ih h.2,
        List.filter_cons_of_pos (by simp [hidle]), List.append_assoc, List.singleton_append]

/-- Names are brought into normal form one by one, behind those that are in normal form already. -/
theorem normalForm_of_walk? (hplace : ∀ name ∈ place, IsPlain name)
    (h : walk? place path = some names) : NormalForm (place ++ path) names := by
  induction path generalizing place with
  | nil =>
    obtain rfl := Option.some.inj h
    rw [List.append_nil]
    exact ⟨.refl, hplace⟩
  | cons name rest ih =>
    rw [walk?_cons] at h
    -- the induction is on the path that is left, and what has been walked is plain throughout
    by_cases hidle : isIdle name = true
    · rw [climb?_of_isIdle hidle, Option.bind_some] at h
      have hrest := ih hplace h
      exact ⟨.head (.idle _ _ hidle) hrest.shortened, hrest.plain⟩
    · by_cases hup : name = ".."
      · -- the last name in front of a step up is plain, and both are taken out
        subst hup
        rcases place.eq_nil_or_concat' with rfl | ⟨front, last, rfl⟩
        -- no name is left to go up from
        · simp [climb?_up] at h
        · rw [climb?_up, if_neg (by simp), Option.bind_some, List.dropLast_concat] at h
          rw [List.forall_mem_append, List.forall_mem_singleton] at hplace
          have hrest := ih hplace.1 h
          rw [List.append_assoc, List.singleton_append]
          exact ⟨.head (.undone _ _ hplace.2) hrest.shortened, hrest.plain⟩
      · have hplain : IsPlain name := isPlain_iff.mpr ⟨Bool.eq_false_of_not_eq_true hidle, hup⟩
        rw [climb?_of_isPlain hplain, Option.bind_some] at h
        have hrest := ih (List.forall_mem_append.mpr ⟨hplace, by simpa using hplain⟩) h
        rwa [List.append_assoc, List.singleton_append] at hrest

/-- A path has a normal form exactly if it does not lead above the root, and only one: the names of
the place that it leads to. -/
theorem normalForm_iff : NormalForm path names ↔ walk? [] path = some names := by
  constructor
  · rintro ⟨hshortened, hplain⟩
    -- no round changes where the path leads
    have hkept : walk? [] path = walk? [] names := by
      clear hplain
      induction hshortened with
      | refl => rfl
      | tail _ hstep ih => exact ih.trans (hstep.walk?_eq [])
    rw [hkept, walk?_of_plain hplain, List.nil_append]
  · exact normalForm_of_walk? (by simp)

/-! ## Joined paths -/

section Joined

variable {directory relative : String}

/-- The names of a path; the empty path has none. -/
def namesOf (path : String) : List String := if path.isEmpty then [] else pathSegments path

theorem slash_notMem_of_mem_pathSegments {path name : String} (h : name ∈ pathSegments path) :
    '/' ∉ name.toList := by
  obtain ⟨piece, hpiece, rfl⟩ := List.mem_map.mp h
  rw [String.toList_ofList]
  exact fun hslash => absurd (Text.eq_false_of_mem_splitBy hpiece _ hslash) (by decide)

/-- Names with slashes between them are read as they are written. -/
theorem pathSegments_intercalate (hne : names ≠ []) (h : ∀ name ∈ names, '/' ∉ name.toList) :
    pathSegments ("/".intercalate names) = names := by
  induction names with
  | nil => exact absurd rfl hne
  | cons first rest ih =>
    rw [List.forall_mem_cons] at h
    -- the last name, or one with a slash behind it
    cases rest with
    | nil => rw [String.intercalate_singleton, pathSegments_of_notMem h.1]
    | cons second rest =>
      rw [String.intercalate_cons_cons, pathSegments_append, pathSegments_of_notMem h.1,
        ih (List.cons_ne_nil _ _) h.2, List.singleton_append]

/-- The names that a joined path is written with. -/
def joinedNames (directory relative : String) : List String :=
  (pathSegments relative).foldl step (properNames directory)

theorem joinPath_eq_intercalate (directory relative : String) :
    joinPath directory relative = "/".intercalate (joinedNames directory relative) := rfl

/-- A step keeps names and adds the one that it is made with, unless that stays where it is. -/
theorem mem_step {added : String} (h : name ∈ step place added) :
    name ∈ place ∨ name = added ∧ isIdle added = false := by
  rw [step] at h
  split at h
  · exact .inl h
  · next hidle =>
    split at h
    · exact .inl (List.dropLast_subset _ h)
    · rw [List.mem_append, List.mem_singleton] at h
      exact h.imp_right fun hname => ⟨hname, Bool.eq_false_of_not_eq_true hidle⟩

/-- Every name of the result comes from the place or the path. -/
theorem mem_foldl_step (h : name ∈ path.foldl step place) :
    name ∈ place ∨ name ∈ path ∧ isIdle name = false := by
  induction path generalizing place with
  | nil => exact .inl h
  | cons first rest ih =>
    rcases ih h with hplace | ⟨hrest, hidle⟩
    · rcases mem_step hplace with hplace | ⟨rfl, hidle⟩
      · exact .inl hplace
      · exact .inr ⟨List.mem_cons_self, hidle⟩
    · exact .inr ⟨List.mem_cons_of_mem _ hrest, hidle⟩

/-- The names of a joined path are names of its two parts, and none stays where it is. -/
theorem of_mem_joinedNames (h : name ∈ joinedNames directory relative) :
    isIdle name = false ∧ '/' ∉ name.toList := by
  rcases mem_foldl_step h with hdirectory | ⟨hrelative, hidle⟩
  · obtain ⟨hmem, hidle⟩ := List.mem_filter.mp hdirectory
    exact ⟨by simpa using hidle, slash_notMem_of_mem_pathSegments hmem⟩
  · exact ⟨hidle, slash_notMem_of_mem_pathSegments hrelative⟩

/-- A joined path is read as it is written. -/
theorem namesOf_joinPath (directory relative : String) :
    namesOf (joinPath directory relative) = joinedNames directory relative := by
  have hnames := fun name (h : name ∈ joinedNames directory relative) => of_mem_joinedNames h
  rw [joinPath_eq_intercalate]
  generalize joinedNames directory relative = names at hnames ⊢
  cases names with
  | nil => rfl
  | cons first rest =>
    have hread := pathSegments_intercalate (List.cons_ne_nil first rest)
      fun name h => (hnames name h).2
    have hne : ("/".intercalate (first :: rest)).isEmpty = false := by
      rw [Bool.eq_false_iff]
      intro hempty
      -- the empty path is read as one name, which stays where it is
      rw [String.isEmpty_iff.mp hempty] at hread
      have hfirst : first = "" := (List.cons.inj hread).1.symm
      exact absurd (hnames first List.mem_cons_self).1 (by simp [hfirst, isIdle])
    rw [namesOf, hne, hread]
    rfl

/-- The proper names of a joined path are the joined names. -/
theorem properNames_joinPath (directory relative : String) :
    properNames (joinPath directory relative) = joinedNames directory relative := by
  have hfilter : (joinedNames directory relative).filter (!isIdle ·) =
      joinedNames directory relative :=
    List.filter_eq_self.mpr fun name h => by simp [(of_mem_joinedNames h).1]
  have hread := namesOf_joinPath directory relative
  rw [namesOf] at hread
  -- the empty path has no names
  split at hread
  · next hempty =>
    rw [String.isEmpty_iff.mp hempty, ← hread]
    decide
  · rw [properNames, hread, hfilter]

/-- Two relative paths can be joined one after the other or at once. -/
theorem joinPath_joinPath (directory first second : String) :
    joinPath (joinPath directory first) second = joinPath directory (first ++ "/" ++ second) := by
  rw [joinPath_eq_intercalate, joinedNames, properNames_joinPath, joinPath_eq_intercalate,
    joinedNames, joinedNames, pathSegments_append, List.foldl_append]

/-- A walk that stays below the root goes where the names lead one by one. -/
theorem foldl_step_of_walk? (h : walk? place path = some names) :
    path.foldl step place = names := by
  induction path generalizing place with
  | nil => exact Option.some.inj h
  | cons name rest ih =>
    rw [walk?_cons, climb?] at h
    split at h
    · cases h
    · exact ih h

theorem walk?_pathSegments_append (hdirectory : ".." ∉ pathSegments directory) :
    walk? [] (pathSegments (directory ++ "/" ++ relative)) =
      walk? (properNames directory) (pathSegments relative) := by
  rw [pathSegments_append, walk?_append, walk?_of_notMem hdirectory]
  rfl

/-- If the directory has no steps up and the relative path leads nowhere above the root, the joined
path is written with the normal form. -/
theorem normalForm_iff_eq_joinedNames (hdirectory : ".." ∉ pathSegments directory)
    (h : StaysBelow (directory ++ "/" ++ relative)) :
    NormalForm (pathSegments (directory ++ "/" ++ relative)) names ↔
      names = joinedNames directory relative := by
  obtain ⟨result, hresult⟩ := Option.isSome_iff_exists.mp h
  have hjoined : joinedNames directory relative = result :=
    foldl_step_of_walk? (walk?_pathSegments_append hdirectory ▸ hresult)
  rw [normalForm_iff, hresult, Option.some_inj, hjoined]
  exact eq_comm

end Joined

/-! ## The primitives module -/

section Primitives

variable {config : CapabilityConfig} {typeId source : String} {b : Blueprint}

/-- The slashes at the end of a path part it from empty names. -/
theorem exists_pathSegments_trimSlashesEnd (directory : String) :
    ∃ idle, (∀ name ∈ idle, name = "") ∧
      pathSegments directory = pathSegments (trimSlashesEnd directory) ++ idle := by
  rw [pathSegments, pathSegments, trimSlashesEnd, String.toList_ofList, ← List.rdropWhile]
  -- from the end of the text, where the slashes are trimmed
  induction directory.toList using List.reverseRecOn with
  | nil => exact ⟨[], by simp, by simp⟩
  | append_singleton front c ih =>
    by_cases hc : (c == '/') = true
    · obtain ⟨idle, hidle, hsplit⟩ := ih
      refine ⟨idle ++ [""], List.forall_mem_append.mpr ⟨hidle, by simp⟩, ?_⟩
      rw [List.rdropWhile_concat_pos (· == '/') _ _ hc,
        Text.splitBy_append_cons (p := (· == '/')) hc, List.map_append, hsplit, List.append_assoc]
      rfl
    · refine ⟨[], by simp, ?_⟩
      rw [List.rdropWhile_concat_neg (· == '/') _ _ hc, List.append_nil]

/-- Slashes at the end of a path lead nowhere. -/
theorem walk?_trimSlashesEnd (place : List String) (directory : String) :
    walk? place (pathSegments (trimSlashesEnd directory)) =
      walk? place (pathSegments directory) := by
  obtain ⟨idle, hidle, hnames⟩ := exists_pathSegments_trimSlashesEnd directory
  have hup : ".." ∉ idle := fun hup => absurd (hidle _ hup) (by decide)
  have hnone : idle.filter (!isIdle ·) = [] :=
    List.filter_eq_nil_iff.mpr fun name hname => by simp [hidle name hname, isIdle]
  rw [hnames, walk?_append]
  cases walk? place (pathSegments (trimSlashesEnd directory)) with
  | none => rfl
  | some between => rw [Option.bind_some, walk?_of_notMem hup, hnone, List.append_nil]

/-- The names that a specifier is read as in the module of a path, as far as it stands for a file:
from the root if it opens with a slash, and otherwise from the directory of the module. -/
def specifierNames (path specifier : String) : List String :=
  if IsUnrooted specifier then directories path ++ pathSegments specifier
  else pathSegments specifier

/-- What a generated module imports without a slash in front is found from the directory of
generated components on. -/
theorem normalForm_specifierNames_iff {entry : Registered} (htype : '/' ∉ entry.typeId.toList)
    (scope : Scope) (directory : String) {specifier : String} (h : IsUnrooted specifier) :
    NormalForm
        (specifierNames (ComponentModule.ofGenerated entry scope directory).path specifier) names ↔
      NormalForm (pathSegments (directory ++ "/" ++ specifier)) names := by
  have hpath : directories (ComponentModule.ofGenerated entry scope directory).path =
      pathSegments (trimSlashesEnd directory) := by
    show directories (trimSlashesEnd directory ++ "/" ++ entry.typeId ++ ".jsx") = _
    obtain ⟨name, -, hsegments⟩ :=
      pathSegments_module (trimSlashesEnd directory ++ "/" ++ entry.typeId)
    rw [directories, hsegments, List.dropLast_concat, directories_ofGenerated htype]
  rw [specifierNames, if_pos h, hpath, normalForm_iff, normalForm_iff, pathSegments_append,
    walk?_append, walk?_append, walk?_trimSlashesEnd]

/-- Whether a module has an import line for a specifier that names something. -/
def ImportsFrom (m : ComponentModule) (name specifier : String) : Prop :=
  ∃ line : ImportLine, name ∈ line.named ∧
    ∃ above below, m.contents = above ++ importText line.clause specifier ++ below

/-- An atom that a component uses is imported from the module of the atoms. -/
theorem exists_line_of_isAtom (h : Blueprint.compile typeId source (Scope.ofConfig config) = .ok b)
    (hname : name ∈ b.capabilities) (hatom : Scope.isAtom (Scope.ofConfig config) name = true) :
    ∃ line, (config.atomsModule, line) ∈ importTable (Scope.ofConfig config) b.capabilities ∧
      name ∈ line.named := by
  obtain ⟨program, factoryName, -, -, hcapabilities⟩ := Blueprint.capabilities_of_compile h
  have hnodup : b.capabilities.Nodup := by
    rw [hcapabilities]
    exact (pairwise_sortedNames _).imp ne_of_lt
  have hscope : ∀ name ∈ b.capabilities, Fields.contains (Scope.ofConfig config) name = true := by
    rw [hcapabilities]
    exact fun name hname => (Blueprint.mem_capabilities.mp hname).2.2
  have hlines := collects_importTable hnodup hscope
  -- every capability is on some line
  have hlisted : name ∈ (importTable (Scope.ofConfig config) b.capabilities).flatMap
      fun line => line.2.names := by
    rw [hlines.names.mem_iff, Scope.map_name_filterMap hscope]
    exact hname
  obtain ⟨line, hline, hmem⟩ := List.mem_flatMap.mp hlisted
  obtain ⟨style, hhas⟩ := ImportLine.mem_names_iff.mp hmem
  obtain ⟨c, hc, rfl, hmodule, rfl⟩ := hlines.assigned line hline name style hhas
  obtain ⟨other, -, hget⟩ := List.mem_filterMap.mp hc
  -- the line was assigned the name because the configuration provides it
  obtain ⟨hprovides, rfl⟩ := Scope.get?_ofConfig_eq_some.mp hget
  rw [Scope.isAtom, hget] at hatom
  -- of all that is provided only the atoms are atoms
  cases hprovides with
  | atom =>
    have hmodule : config.atomsModule = line.1 := hmodule
    exact ⟨line.2, hmodule ▸ hline, hhas⟩
  | hook | host => cases hatom

/-- The line of an import stands in the text of the module. -/
theorem importsFrom_ofGenerated {entry : Registered} {scope : Scope} {directory specifier : String}
    {line : ImportLine} (h : (specifier, line) ∈ importTable scope entry.blueprint.capabilities)
    (hname : name ∈ line.named) :
    ImportsFrom (ComponentModule.ofGenerated entry scope directory) name specifier := by
  -- the line stands between those of other modules, and the source follows behind all of them
  obtain ⟨front, back, htable⟩ := List.append_of_mem h
  have htext : importsText scope entry.blueprint.capabilities =
      String.join (lineTexts front) ++ importText line.clause specifier ++
        String.join (lineTexts back) := by
    show String.join (lineTexts (importTable scope entry.blueprint.capabilities)) = _
    rw [htable, lineTexts, List.map_append, List.map_cons, String.join_append, String.join_cons,
      ← String.append_assoc]
    rfl
  have hfilled : (importsText scope entry.blueprint.capabilities).isEmpty = false := by
    simp [htext, importText]
  refine ⟨line, hname, String.join (lineTexts front), String.join (lineTexts back) ++ "\n" ++
    String.ofList (Text.trimEnd entry.source.toList) ++ "\n\nexport default " ++
    entry.blueprint.factoryName ++ ";\n", ?_⟩
  show (if (importsText scope entry.blueprint.capabilities).isEmpty then ""
    else importsText scope entry.blueprint.capabilities ++ "\n") ++ _ ++ _ ++ _ ++ _ = _
  rw [hfilled, if_neg Bool.false_ne_true, htext]
  simp only [String.append_assoc]

end Primitives

/-- The primitives module lies where generated modules look for it.  If the directory of generated
components has no steps up, and the module of the atoms, whose path opens with no slash and goes on
from there, is nowhere above the root, then the joined path is the normal form of the one path
behind the other: names with slashes between them, none of which is empty or made of one or two
dots, and no names at all if the path is that of the root.  With its ending it is the path of the
primitives module; every generated component imports its atoms under a specifier with that normal
form.  Joining two relative paths one after the other is joining them at once. -/
theorem primitives_where_imported :
    (∀ config : Config, ".." ∉ pathSegments config.project.generatedDir →
      IsUnrooted config.capabilities.atomsModule →
      StaysBelow (config.project.generatedDir ++ "/" ++ config.capabilities.atomsModule) →
      let path := joinPath config.project.generatedDir config.capabilities.atomsModule
      let scope := Scope.ofConfig config.capabilities
      (∀ names, NormalForm
          (pathSegments (config.project.generatedDir ++ "/" ++ config.capabilities.atomsModule))
          names ↔ names = namesOf path) ∧
      path = "/".intercalate (namesOf path) ∧
      (∀ name ∈ namesOf path, name ≠ "" ∧ name ≠ "." ∧ name ≠ "..") ∧
      (path ++ ".jsx", primitivesModule config.capabilities.atoms) ∈ scaffold config ∧
      ∀ (definition : Definition) (b : Blueprint),
        Blueprint.compile definition.typeId definition.source scope = .ok b →
        let m := ComponentModule.ofGenerated (Registry.entryOf definition b) scope
          config.project.generatedDir
        (∀ name ∈ b.capabilities, scope.isAtom name = true →
          ImportsFrom m name config.capabilities.atomsModule) ∧
        NormalForm (specifierNames m.path config.capabilities.atomsModule) (namesOf path)) ∧
    ∀ directory first second : String,
      joinPath (joinPath directory first) second = joinPath directory (first ++ "/" ++ second) := by
  refine ⟨fun config hdirectory hunrooted hbelow =>
    ⟨?normal, ?written, ?plain, ?scaffold, ?imported⟩, joinPath_joinPath⟩
  case normal =>
    intro names
    rw [namesOf_joinPath]
    exact normalForm_iff_eq_joinedNames hdirectory hbelow
  case written => rw [namesOf_joinPath, joinPath_eq_intercalate]
  -- the normal form has plain names only
  case plain =>
    rw [namesOf_joinPath]
    exact ((normalForm_iff_eq_joinedNames hdirectory hbelow).mpr rfl).plain
  case scaffold => simp [scaffold, primitivesPath]
  case imported =>
    intro definition b hcompile
    refine ⟨fun name hname hatom => ?_, ?_⟩
    -- the line of the module, and then where its specifier leads
    · obtain ⟨line, hline, hnamed⟩ := exists_line_of_isAtom hcompile hname hatom
      exact importsFrom_ofGenerated hline hnamed
    · rw [namesOf_joinPath,
        normalForm_specifierNames_iff (Blueprint.slash_notMem_typeId hcompile) _ _ hunrooted]
      exact (normalForm_iff_eq_joinedNames hdirectory hbelow).mpr rfl

/-- A card with an icon. -/
def iconSource : String := "function Card() \x7b return <Icon/>; \x7d"

/-- By default the card imports its icon from the primitives module, one level up from it. -/
theorem primitives_where_imported_of_icon :
    ".." ∉ pathSegments "src/components/generated" ∧ IsUnrooted "../ui/primitives" ∧
    StaysBelow ("src/components/generated" ++ "/" ++ "../ui/primitives") ∧
    ("src/components/ui/primitives.jsx", primitivesModule ({} : CapabilityConfig).atoms) ∈
      scaffold {} ∧
    ∃ b, Blueprint.compile "Card" iconSource (Scope.ofConfig {}) = .ok b ∧
      let m := ComponentModule.ofGenerated (Registry.entryOf ⟨"Card", .other, [], iconSource⟩ b)
        (Scope.ofConfig {}) "src/components/generated"
      ImportsFrom m "Icon" "../ui/primitives" ∧
      NormalForm (specifierNames m.path "../ui/primitives")
        ["src", "components", "ui", "primitives"] := by
  have hdirectory : ".." ∉ pathSegments "src/components/generated" := by decide +kernel
  have hunrooted : IsUnrooted "../ui/primitives" := by decide
  have hbelow : StaysBelow ("src/components/generated" ++ "/" ++ "../ui/primitives") := by
    decide +kernel
  obtain ⟨-, -, -, hscaffold, himported⟩ :=
    primitives_where_imported.1 {} hdirectory hunrooted hbelow
  -- the step upwards leaves the directory for generated modules
  have hpath : joinPath "src/components/generated" "../ui/primitives" =
      "src/components/ui/primitives" := by decide +kernel
  have hnames : namesOf "src/components/ui/primitives" =
      ["src", "components", "ui", "primitives"] := by decide +kernel
  have hrun : ((Blueprint.compile "Card" iconSource (Scope.ofConfig {})).mapError
      (fun _ => ()) >>= fun b => pure b.capabilities) = .ok ["Icon"] := by
    decide +kernel
  obtain ⟨b, hcompile, hrun⟩ := bind_eq_ok.mp hrun
  rw [mapError_eq_ok] at hcompile
  have hicon : "Icon" ∈ b.capabilities := by simp [pure_eq_ok.mp hrun]
  have hatom : (Scope.ofConfig {}).isAtom "Icon" = true := by decide +kernel
  -- what the general theorem says of this card
  have hmodule := himported ⟨"Card", .other, [], iconSource⟩ b hcompile
  rw [hpath] at hscaffold
  rw [hpath, hnames] at hmodule
  exact ⟨hdirectory, hunrooted, hbelow, hscaffold, b, hcompile,
    hmodule.1 "Icon" hicon hatom, hmodule.2⟩

end ComponentCanvas.Project
