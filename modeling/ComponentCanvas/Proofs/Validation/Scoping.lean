import ComponentCanvas.Validation.Inventory

/-!
# Lexical Scoping

What can be seen where in a script, and the names that are used where nothing can be seen under
them.  Variables belong to the function or the block that declares them, parameters and the name of
a function to the function, and declarations can be seen before their place.  A use of a value sees
values only, a type also sees the types that are declared.  A name that a type binds is taken as
bound in the whole of that type.

Some names can be seen although nothing binds them: a function implies the name under which it sees
what it is called with, an enumeration shows its members to their values, and an index signature
shows its parameter to the types in it.

The inventory of a script knows no scopes.  What it makes of the names of a script is compared with
the free names: they are its references, without some whose names are bound or implied somewhere in
the script.
-/

namespace ComponentCanvas.Script

open Text (Span)

/-! ## Names that are bound -/

/-- The names in use, in the order of the source. -/
def references (mentions : List Mention) : List (String × Span) :=
  mentions.filterMap Inventory.reference?

/-- The names that are bound. -/
def bindings (mentions : List Mention) : List String := mentions.filterMap Inventory.binding?

/-- The member of an enumeration that a mention names. -/
def Mention.member? : Mention → Option String
  | .member name => some name
  | _ => none

/-- The parameter of an index signature that a mention names. -/
def Mention.index? : Mention → Option String
  | .index name => some name
  | _ => none

/-- The members of enumerations. -/
def members (mentions : List Mention) : List String := mentions.filterMap Mention.member?

/-- The parameters of index signatures. -/
def indices (mentions : List Mention) : List String := mentions.filterMap Mention.index?

mutual

/-- The names that a pattern binds. -/
def Pattern.names : Pattern → List String
  | .name name => [name]
  | .object items => PatternItem.listNames items
  | .array items => PatternItem.listNames items
  | .withDefault pattern _ => pattern.names

/-- The names that an item of a pattern binds. -/
def PatternItem.names : PatternItem → List String
  | .field _ value => value.names
  | .element value => value.names
  | .hole => []
  | .rest value => value.names

/-- The names that the items of a pattern bind. -/
def PatternItem.listNames : List PatternItem → List String
  | [] => []
  | item :: rest => item.names ++ PatternItem.listNames rest

end

/-- The names that a binder binds. -/
def Binder.names : Binder → List String
  | .mk _ _ _ pattern _ _ => pattern.names

mutual

/-- The names of values that a statement declares, in the function around it or in the block in
which it stands. -/
def Stmt.names (reach : Reach) : Stmt → List String
  | .vars declared binders => if declared = reach then binders.flatMap Binder.names else []
  -- a script is a module, so a function in a block belongs to the block alone
  | .function f =>
    match reach with
    | .block => f.name?.toList
    | .function => []
  | .block stmts =>
    match reach with
    | .block => []
    | .function => Stmt.listNames reach stmts
  | .cond _ consequent alternate =>
    match reach with
    | .block => []
    | .function => consequent.names reach ++ alternate.names reach
  | .moduleItem _ _ parts => Stmt.listNames reach parts
  | .other _ parts => Stmt.listNames reach parts
  | .expression _ _ | .empty | .ret _ | .notes _ => []

/-- The names of values that statements declare. -/
def Stmt.listNames (reach : Reach) : List Stmt → List String
  | [] => []
  | stmt :: rest => stmt.names reach ++ Stmt.listNames reach rest

end

mutual

/-- The names of types that a statement declares in the block in which it stands. -/
def Stmt.typeNames : Stmt → List String
  | .notes mentions => bindings mentions
  | .moduleItem _ _ parts => Stmt.listTypeNames parts
  | .other _ parts => Stmt.listTypeNames parts
  | .vars _ _ | .function _ | .expression _ _ | .block _ | .empty | .cond _ _ _ | .ret _ => []

/-- The names of types that statements declare. -/
def Stmt.listTypeNames : List Stmt → List String
  | [] => []
  | stmt :: rest => stmt.typeNames ++ Stmt.listTypeNames rest

end

/-- The members of an enumeration that a statement lists. -/
def Stmt.members : Stmt → List String
  | .notes mentions => Script.members mentions
  | _ => []

/-! ## What can be seen -/

/-- The names that can be seen at a place. -/
structure Visible where
  /-- Names that stand for values. -/
  values : List String := []
  /-- Names that stand for types alone. -/
  types : List String := []

namespace Visible

variable (v : Visible)

/-- The name under which a function that is no arrow sees what it is called with. -/
def argumentsName : String := "arguments"

/-- Where further values can be seen. -/
def withValues (names : List String) : Visible := { v with values := names ++ v.values }

/-- Where further types can be seen. -/
def withTypes (names : List String) : Visible := { v with types := names ++ v.types }

/-- What can be seen in a block: what its statements declare, and the members of the enumeration
whose block it is. -/
def block (stmts : List Stmt) : Visible :=
  (v.withValues (Stmt.listNames .block stmts ++ stmts.flatMap Stmt.members)).withTypes
    (Stmt.listTypeNames stmts)

/-- What can be seen in the statements of a function. -/
def body (stmts : List Stmt) : Visible :=
  (v.withValues (Stmt.listNames .function stmts)).block stmts

/-- What can be seen in the head of a function. -/
def head (name : Option String) (types : TypeNote) (params : List Binder) : Visible :=
  (v.withValues (name.toList ++ params.flatMap Binder.names)).withTypes (bindings types)

/-- The names of values in use that cannot be seen. -/
def freeValues (mentions : List Mention) : List (String × Span) :=
  (references mentions).filter fun (name, _) => !v.values.contains name

/-- The names in a type that cannot be seen. -/
def freeTypes (notes : TypeNote) : List (String × Span) :=
  (references notes).filter fun (name, _) =>
    !(v.values ++ v.types ++ bindings notes ++ indices notes).contains name

end Visible

/-! ## Free names -/

mutual

/-- The free names of an expression. -/
def Expr.free (v : Visible) : Expr → List (String × Span)
  | .mk span form => form.free v span

/-- The free names of a form of an expression that stands at a span. -/
def ExprForm.free (v : Visible) (form : ExprForm) (span : Span) : List (String × Span) :=
  match form with
  | .null | .bool _ | .number _ _ | .string _ => []
  | .name name => v.freeValues [.reference name span]
  | .template _ exprs => Item.listFree v exprs
  | .array items => Item.listFree v items
  | .object members => Member.listFree v members
  | .function f => f.free (v.withValues [Visible.argumentsName])
  | .arrow f => f.free v
  | .member object key => object.free v ++ key.free v
  | .call callee types args => callee.free v ++ v.freeTypes types ++ Item.listFree v args
  | .chain e => e.free v
  | .unary _ e => e.free v
  | .binary _ left right => left.free v ++ right.free v
  | .logical _ left right => left.free v ++ right.free v
  | .conditional test consequent alternate =>
    test.free v ++ consequent.free v ++ alternate.free v
  | .paren e => e.free v
  | .assertion _ e types => e.free v ++ v.freeTypes types
  | .element tag types attributes children =>
    v.freeValues tag.mentions ++ v.freeTypes types ++ Member.listFree v attributes ++
      Item.listFree v children
  | .fragment children => Item.listFree v children
  | .other _ parts => Stmt.listFree (v.block parts) parts

/-- The free names of an item. -/
def Item.free (v : Visible) : Item → List (String × Span)
  | .value e => e.free v
  | .spread _ e => e.free v
  | .hole => []
  | .text _ => []
  | .markup e => e.free v

/-- The free names of a member. -/
def Member.free (v : Visible) : Member → List (String × Span)
  | .field _ key value => key.free v ++ value.free v
  | .method _ key f => key.free v ++ f.free (v.withValues [Visible.argumentsName])
  | .spread e => e.free v
  | .hollow _ => []
  | .defaulted name value => name.free v ++ value.free v

/-- The free names of a function.  Its head does not see what its body declares. -/
def Function.free (v : Visible) : Function → List (String × Span)
  | .mk _ name types params returns _ body =>
    (v.head name types params).freeTypes types ++
      Binder.listFree (v.head name types params) params ++
      (v.head name types params).freeTypes returns ++
      Stmt.listFree ((v.head name types params).body body) body

/-- The free names of a binder. -/
def Binder.free (v : Visible) : Binder → List (String × Span)
  | .mk _ _ decorators pattern types none =>
    Stmt.listFree v decorators ++ pattern.free v ++ v.freeTypes types
  | .mk _ _ decorators pattern types (some e) =>
    Stmt.listFree v decorators ++ pattern.free v ++ v.freeTypes types ++ e.free v

/-- The free names of a pattern. -/
def Pattern.free (v : Visible) : Pattern → List (String × Span)
  | .name _ => []
  | .object items => PatternItem.listFree v items
  | .array items => PatternItem.listFree v items
  | .withDefault pattern default => pattern.free v ++ default.free v

/-- The free names of an item of a pattern. -/
def PatternItem.free (v : Visible) : PatternItem → List (String × Span)
  | .field key value => key.free v ++ value.free v
  | .element value => value.free v
  | .hole => []
  | .rest value => value.free v

/-- The free names of a statement. -/
def Stmt.free (v : Visible) : Stmt → List (String × Span)
  | .vars _ binders => Binder.listFree v binders
  | .function f => f.free (v.withValues [Visible.argumentsName])
  | .expression _ e => e.free v
  | .block stmts => Stmt.listFree (v.block stmts) stmts
  | .empty => []
  | .cond test consequent alternate =>
    test.free v ++ consequent.free v ++ alternate.free v
  | .ret none => []
  | .ret (some e) => e.free v
  | .moduleItem _ _ parts => Stmt.listFree v parts
  | .notes mentions => v.freeTypes mentions
  | .other _ parts => Stmt.listFree v parts

/-- The free names of items. -/
def Item.listFree (v : Visible) : List Item → List (String × Span)
  | [] => []
  | item :: rest => item.free v ++ Item.listFree v rest

/-- The free names of members. -/
def Member.listFree (v : Visible) : List Member → List (String × Span)
  | [] => []
  | member :: rest => member.free v ++ Member.listFree v rest

/-- The free names of binders. -/
def Binder.listFree (v : Visible) : List Binder → List (String × Span)
  | [] => []
  | binder :: rest => binder.free v ++ Binder.listFree v rest

/-- The free names of the items of a pattern. -/
def PatternItem.listFree (v : Visible) : List PatternItem → List (String × Span)
  | [] => []
  | item :: rest => item.free v ++ PatternItem.listFree v rest

/-- The free names of statements, which see what they are said to. -/
def Stmt.listFree (v : Visible) : List Stmt → List (String × Span)
  | [] => []
  | stmt :: rest => stmt.free v ++ Stmt.listFree v rest

end

/-- The uses of names in a script that see nothing under them, in the order of the source. -/
def Program.free (program : Program) : List (String × Span) :=
  Stmt.listFree (Visible.body {} program.body) program.body

/-! ## Names that are left out -/

/-- A list of uses without some of them, all of which have hidden names. -/
inductive Omits (hidden : List String) : List (String × Span) → List (String × Span) → Prop
  | nil : Omits hidden [] []
  | keep {uses rest : List (String × Span)} (entry : String × Span) :
    Omits hidden uses rest → Omits hidden (entry :: uses) (entry :: rest)
  | drop {uses rest : List (String × Span)} {entry : String × Span} :
    entry.1 ∈ hidden → Omits hidden uses rest → Omits hidden (entry :: uses) rest

section Omits

variable {hidden : List String} {uses rest uses' rest' : List (String × Span)}

theorem Omits.append (h : Omits hidden uses rest) (h' : Omits hidden uses' rest') :
    Omits hidden (uses ++ uses') (rest ++ rest') := by
  induction h with
  | nil => exact h'
  | keep entry _ ih => exact .keep entry ih
  | drop hentry _ ih => exact .drop hentry ih

theorem Omits.sublist (h : Omits hidden uses rest) : rest.Sublist uses := by
  induction h with
  | nil => exact .slnil
  | keep entry _ ih => exact ih.cons_cons entry
  | drop _ _ ih => exact ih.cons _

/-- A test that no hidden name passes cannot tell what was left out. -/
theorem Omits.filter_eq (h : Omits hidden uses rest) {p : String × Span → Bool}
    (hp : ∀ entry, p entry = true → entry.1 ∉ hidden) : uses.filter p = rest.filter p := by
  induction h with
  | nil => rfl
  | keep entry _ ih => rw [List.filter_cons, List.filter_cons, ih]
  | @drop _ _ entry hentry _ ih =>
    have hentry : ¬ p entry = true := fun hpass => hp entry hpass hentry
    rw [List.filter_cons, if_neg hentry, ih]

/-- A test that fails hidden names only leaves out nothing else. -/
theorem omits_filter {p : String × Span → Bool}
    (hp : ∀ entry ∈ uses, p entry = false → entry.1 ∈ hidden) :
    Omits hidden uses (uses.filter p) := by
  induction uses with
  | nil => exact .nil
  | cons entry uses ih =>
    rw [List.forall_mem_cons] at hp
    have ih := ih hp.2
    rw [List.filter_cons]
    -- a use stays, or its name is hidden
    split
    · exact .keep entry ih
    · next h => exact .drop (hp.1 (by simpa using h)) ih

end Omits

/-! ## Declared names are bound -/

@[simp] theorem references_append (mentions rest : List Mention) :
    references (mentions ++ rest) = references mentions ++ references rest :=
  List.filterMap_append

@[simp] theorem bindings_append (mentions rest : List Mention) :
    bindings (mentions ++ rest) = bindings mentions ++ bindings rest :=
  List.filterMap_append

mutual

theorem Pattern.names_subset : (pattern : Pattern) → pattern.names ⊆ bindings pattern.mentions
  | .name name => List.Subset.refl _
  | .object items | .array items => PatternItem.listNames_subset items
  | .withDefault pattern default => by
    rw [Pattern.names, Pattern.mentions, bindings_append]
    exact List.subset_append_of_subset_left _ pattern.names_subset

theorem PatternItem.names_subset : (item : PatternItem) → item.names ⊆ bindings item.mentions
  | .field key value => by
    rw [PatternItem.names, PatternItem.mentions, bindings_append]
    exact List.subset_append_of_subset_right _ value.names_subset
  | .element value | .rest value => value.names_subset
  | .hole => List.nil_subset _

theorem PatternItem.listNames_subset : (items : List PatternItem) →
    PatternItem.listNames items ⊆ bindings (PatternItem.listMentions items)
  | [] => List.nil_subset _
  | item :: rest => by
    have hitem := item.names_subset
    have hrest := PatternItem.listNames_subset rest
    simp [PatternItem.listNames, PatternItem.listMentions, hitem, hrest]

end

theorem Binder.names_subset (binder : Binder) : binder.names ⊆ bindings binder.mentions := by
  obtain ⟨_, _, _, pattern, _, init⟩ := binder
  have hpattern := pattern.names_subset
  cases init <;> simp [Binder.names, Binder.mentions, hpattern]

theorem Binder.listNames_subset (binders : List Binder) :
    binders.flatMap Binder.names ⊆ bindings (Binder.listMentions binders) := by
  induction binders with
  | nil => exact List.nil_subset _
  | cons binder rest ih =>
    have hbinder := binder.names_subset
    simp [Binder.listMentions, hbinder, ih]

mutual

/-- What a statement declares for the block or function around it is among the names it binds. -/
theorem Stmt.names_subset (reach : Reach) :
    (stmt : Stmt) → stmt.names reach ⊆ bindings stmt.mentions
  | .vars declared binders => by
    rw [Stmt.names, Stmt.mentions]
    split
    · exact Binder.listNames_subset binders
    · exact List.nil_subset _
  -- a function's name belongs to the block; what its body declares stays inside it.
  | .function (.mk _ name _ _ _ _ _) => by
    cases reach with
    | function => exact List.nil_subset _
    | block => cases name <;> simp [Stmt.names, Stmt.mentions, Function.mentions, Function.name?,
        bindings, Inventory.binding?]
  -- a nested block keeps its own names and passes on only what is declared for the function.
  | .block stmts => by
    cases reach with
    | function => exact Stmt.listNames_subset .function stmts
    | block => exact List.nil_subset _
  -- a branch is no block of its own, and passes on what is declared for the function
  | .cond test consequent alternate => by
    cases reach with
    | function =>
      have hconsequent := consequent.names_subset .function
      have halternate := alternate.names_subset .function
      simp [Stmt.names, Stmt.mentions, hconsequent, halternate]
    | block => exact List.nil_subset _
  | .moduleItem _ _ parts | .other _ parts => Stmt.listNames_subset reach parts
  | .expression _ _ | .empty | .ret _ | .notes _ => List.nil_subset _

theorem Stmt.listNames_subset (reach : Reach) : (stmts : List Stmt) →
    Stmt.listNames reach stmts ⊆ bindings (Stmt.listMentions stmts)
  | [] => List.nil_subset _
  | stmt :: rest => by
    have hstmt := stmt.names_subset reach
    have hrest := Stmt.listNames_subset reach rest
    simp [Stmt.listNames, Stmt.listMentions, hstmt, hrest]

end

mutual

theorem Stmt.typeNames_subset : (stmt : Stmt) → stmt.typeNames ⊆ bindings stmt.mentions
  | .notes _ => List.Subset.refl _
  | .moduleItem _ _ parts | .other _ parts => Stmt.listTypeNames_subset parts
  | .vars _ _ | .function _ | .expression _ _ | .block _ | .empty | .cond _ _ _ | .ret _ =>
    List.nil_subset _

theorem Stmt.listTypeNames_subset : (stmts : List Stmt) →
    Stmt.listTypeNames stmts ⊆ bindings (Stmt.listMentions stmts)
  | [] => List.nil_subset _
  | stmt :: rest => by
    have hstmt := stmt.typeNames_subset
    have hrest := Stmt.listTypeNames_subset rest
    simp [Stmt.listTypeNames, Stmt.listMentions, hstmt, hrest]

end

/-! ## Names that are shown -/

/-- The name that a mention shows to other mentions: one that it binds, or a member or a parameter
that means something without being bound. -/
def Mention.shown? : Mention → Option String
  | .binding name | .member name | .index name => some name
  | .reference _ _ | .dynamicImport _ => none

/-- The names that mentions show. -/
def shown (mentions : List Mention) : List String := mentions.filterMap Mention.shown?

@[simp] theorem shown_append (mentions rest : List Mention) :
    shown (mentions ++ rest) = shown mentions ++ shown rest :=
  List.filterMap_append

/-- What is shown is bound, a member of an enumeration or the parameter of an index signature. -/
theorem mem_shown {name : String} {mentions : List Mention} :
    name ∈ shown mentions ↔
      name ∈ bindings mentions ∨ name ∈ members mentions ∨ name ∈ indices mentions := by
  simp only [shown, bindings, members, indices, List.mem_filterMap, ← exists_or, ← and_or_left]
  refine exists_congr fun m => and_congr_right fun _ => ?_
  cases m <;> simp [Mention.shown?, Mention.member?, Mention.index?, Inventory.binding?]

/-- Where all that is shown is hidden, all that is bound is. -/
theorem bindings_subset_of_shown {mentions : List Mention} {hidden : List String}
    (h : shown mentions ⊆ hidden) : bindings mentions ⊆ hidden :=
  fun _ hname => h (mem_shown.mpr (.inl hname))

theorem members_subset_shown (mentions : List Mention) : members mentions ⊆ shown mentions :=
  fun _ h => mem_shown.mpr (.inr (.inl h))

theorem indices_subset_of_shown {mentions : List Mention} {hidden : List String}
    (h : shown mentions ⊆ hidden) : indices mentions ⊆ hidden :=
  fun _ hname => h (mem_shown.mpr (.inr (.inr hname)))

theorem Stmt.members_subset_shown (stmt : Stmt) : stmt.members ⊆ shown stmt.mentions := by
  cases stmt with
  | notes mentions => exact Script.members_subset_shown mentions
  | _ => exact List.nil_subset _

theorem Stmt.listMembers_subset_shown (stmts : List Stmt) :
    stmts.flatMap Stmt.members ⊆ shown (Stmt.listMentions stmts) := by
  induction stmts with
  | nil => exact List.nil_subset _
  | cons stmt rest ih =>
    have hstmt := stmt.members_subset_shown
    simp [Stmt.listMentions, hstmt, ih]

/-! ## Free names and names in use -/

/-- Whether nothing but hidden names can be seen, now or behind the head of a function. -/
structure Visible.Within (v : Visible) (hidden : List String) : Prop where
  values : v.values ⊆ hidden
  types : v.types ⊆ hidden
  implied : argumentsName ∈ hidden

section Within

variable {hidden : List String} {v : Visible}

theorem Visible.Within.withValues (hv : v.Within hidden) {names : List String}
    (h : names ⊆ hidden) : (v.withValues names).Within hidden where
  values := List.append_subset.mpr ⟨h, hv.values⟩
  types := hv.types
  implied := hv.implied

theorem Visible.Within.withTypes (hv : v.Within hidden) {names : List String}
    (h : names ⊆ hidden) : (v.withTypes names).Within hidden where
  values := hv.values
  types := List.append_subset.mpr ⟨h, hv.types⟩
  implied := hv.implied

theorem Visible.Within.withArguments (hv : v.Within hidden) :
    (v.withValues [argumentsName]).Within hidden :=
  hv.withValues (by simpa using hv.implied)

/-- A block adds nothing but names that its statements show. -/
theorem Visible.Within.block (hv : v.Within hidden) {stmts : List Stmt}
    (h : shown (Stmt.listMentions stmts) ⊆ hidden) : (v.block stmts).Within hidden := by
  have hbound := bindings_subset_of_shown h
  apply Visible.Within.withTypes
  · apply hv.withValues
    rw [List.append_subset]
    exact ⟨List.Subset.trans (Stmt.listNames_subset .block stmts) hbound,
      List.Subset.trans (Stmt.listMembers_subset_shown stmts) h⟩
  · exact List.Subset.trans (Stmt.listTypeNames_subset stmts) hbound

theorem Visible.Within.body (hv : v.Within hidden) {stmts : List Stmt}
    (h : shown (Stmt.listMentions stmts) ⊆ hidden) : (v.body stmts).Within hidden := by
  apply Visible.Within.block _ h
  apply hv.withValues
  have hbound := bindings_subset_of_shown h
  exact List.Subset.trans (Stmt.listNames_subset .function stmts) hbound

/-- The head of a function adds its name, its type parameters and its parameters. -/
theorem Visible.Within.head (hv : v.Within hidden) {name : Option String} {types : TypeNote}
    {params : List Binder} (hname : name.toList ⊆ hidden) (htypes : shown types ⊆ hidden)
    (hparams : shown (Binder.listMentions params) ⊆ hidden) :
    (v.head name types params).Within hidden := by
  apply Visible.Within.withTypes
  · apply hv.withValues
    rw [List.append_subset]
    have hbound := bindings_subset_of_shown hparams
    exact ⟨hname, List.Subset.trans (Binder.listNames_subset params) hbound⟩
  · exact bindings_subset_of_shown htypes

theorem Visible.Within.omits_values (hv : v.Within hidden) (mentions : List Mention) :
    Omits hidden (references mentions) (v.freeValues mentions) := by
  apply omits_filter
  intro entry _ hseen
  apply hv.values
  simpa using hseen

/-- A name in a type is left out only where it can be seen, or where the type itself binds it or
shows it as the parameter of an index signature. -/
theorem Visible.Within.omits_types (hv : v.Within hidden) {notes : TypeNote}
    (h : shown notes ⊆ hidden) : Omits hidden (references notes) (v.freeTypes notes) := by
  apply omits_filter
  intro entry _ hseen
  have hseen : entry.1 ∈ v.values ++ v.types ++ bindings notes ++ indices notes := by
    rwa [Bool.not_eq_false', List.contains_iff_mem] at hseen
  -- a name that the type shows itself is shown in the whole script
  have hbound := bindings_subset_of_shown h
  have hindices := indices_subset_of_shown h
  have hall : v.values ++ v.types ++ bindings notes ++ indices notes ⊆ hidden := by
    simp [hv.values, hv.types, hbound, hindices]
  exact hall hseen

end Within

section Omission

variable {hidden : List String}

-- A scope that is entered shows no more than what is shown inside, so with all that a piece of
-- syntax shows hidden the scopes of its parts show hidden names alone.
mutual

/-- The free names of an expression are the names in it without hidden ones, if all that it shows is
hidden. -/
theorem Expr.omits : (e : Expr) → (v : Visible) → v.Within hidden →
    shown e.mentions ⊆ hidden → Omits hidden (references e.mentions) (e.free v)
  | .mk span form, v, hv, h => form.omits span v hv h

/-- The free names of an expression are its references, without some that can be seen around it or
are shown in it.  The recursion is over the syntax tree, for every kind of node at once. -/
theorem ExprForm.omits : (form : ExprForm) → (span : Span) → (v : Visible) → v.Within hidden →
    shown (form.mentions span) ⊆ hidden →
    Omits hidden (references (form.mentions span)) (form.free v span)
  | .null, _, _, _, _ | .bool _, _, _, _, _ | .number _ _, _, _, _, _ | .string _, _, _, _, _ =>
    .nil
  -- the one form in which the use of a value is decided; the others hand the question to their
  -- parts.
  | .name name, span, v, hv, _ => hv.omits_values [.reference name span]
  | .template _ exprs, _, v, hv, h => Item.listOmits exprs v hv h
  | .array items, _, v, hv, h => Item.listOmits items v hv h
  | .object members, _, v, hv, h => Member.listOmits members v hv h
  -- a function sees `arguments` of its own, an arrow those of the function around it.
  | .function f, _, v, hv, h => f.omits _ hv.withArguments h
  | .arrow f, _, v, hv, h => f.omits v hv h
  | .member object key, _, v, hv, h => by
    rw [ExprForm.mentions, shown_append, List.append_subset] at h
    rw [ExprForm.mentions, references_append]
    exact .append (object.omits v hv h.1) (key.omits v hv h.2)
  -- with several parts the references and the free names both stand in the order of the parts, so
  -- the omissions of the parts are put together.
  | .call callee types args, _, v, hv, h => by
    rw [ExprForm.mentions, shown_append, shown_append, List.append_subset,
      List.append_subset] at h
    obtain ⟨⟨hcallee, htypes⟩, hargs⟩ := h
    rw [ExprForm.mentions, references_append, references_append]
    exact .append (.append (callee.omits v hv hcallee) (hv.omits_types htypes))
      (Item.listOmits args v hv hargs)
  | .chain e, _, v, hv, h => e.omits v hv h
  | .unary _ e, _, v, hv, h => e.omits v hv h
  | .binary _ left right, _, v, hv, h | .logical _ left right, _, v, hv, h => by
    rw [ExprForm.mentions, shown_append, List.append_subset] at h
    rw [ExprForm.mentions, references_append]
    exact .append (left.omits v hv h.1) (right.omits v hv h.2)
  | .conditional test consequent alternate, _, v, hv, h => by
    rw [ExprForm.mentions, shown_append, shown_append, List.append_subset,
      List.append_subset] at h
    obtain ⟨⟨htest, hconsequent⟩, halternate⟩ := h
    rw [ExprForm.mentions, references_append, references_append]
    exact .append (.append (test.omits v hv htest) (consequent.omits v hv hconsequent))
      (alternate.omits v hv halternate)
  | .paren e, _, v, hv, h => e.omits v hv h
  | .assertion _ e types, _, v, hv, h => by
    rw [ExprForm.mentions, shown_append, List.append_subset] at h
    rw [ExprForm.mentions, references_append]
    exact .append (e.omits v hv h.1) (hv.omits_types h.2)
  -- a tag is in use like a value and shows nothing, so its part of `h` is not needed.
  | .element tag types attributes children, _, v, hv, h => by
    rw [ExprForm.mentions, shown_append, shown_append, shown_append, List.append_subset,
      List.append_subset, List.append_subset] at h
    obtain ⟨⟨⟨-, htypes⟩, hattributes⟩, hchildren⟩ := h
    rw [ExprForm.mentions, references_append, references_append, references_append]
    exact .append (.append (.append (hv.omits_values tag.mentions) (hv.omits_types htypes))
      (Member.listOmits attributes v hv hattributes)) (Item.listOmits children v hv hchildren)
  | .fragment children, _, v, hv, h => Item.listOmits children v hv h
  -- whatever the form is, its mentions are those of its parts, which see each other's names as the
  -- statements of a block do.
  | .other form parts, span, v, hv, h => by
    have hmentions : shown ((ExprForm.other form parts).mentions span) =
          shown (Stmt.listMentions parts) ∧
        references ((ExprForm.other form parts).mentions span) =
          references (Stmt.listMentions parts) := by
      cases form <;> exact ⟨rfl, rfl⟩
    rw [hmentions.1] at h
    rw [hmentions.2]
    exact Stmt.listOmits parts _ (hv.block h) h

theorem Item.omits : (item : Item) → (v : Visible) → v.Within hidden →
    shown item.mentions ⊆ hidden → Omits hidden (references item.mentions) (item.free v)
  | .value e, v, hv, h | .spread _ e, v, hv, h | .markup e, v, hv, h => e.omits v hv h
  | .hole, _, _, _ | .text _, _, _, _ => .nil

/-- The free names of a member of an object are its references, without some that are visible or
shown. -/
theorem Member.omits : (member : Member) → (v : Visible) → v.Within hidden →
    shown member.mentions ⊆ hidden → Omits hidden (references member.mentions) (member.free v)
  | .field _ key value, v, hv, h | .defaulted key value, v, hv, h => by
    rw [Member.mentions, shown_append, List.append_subset] at h
    rw [Member.mentions, references_append]
    exact .append (key.omits v hv h.1) (value.omits v hv h.2)
  -- the name of a method is computed outside of it, where `arguments` is not its own.
  | .method _ key f, v, hv, h => by
    rw [Member.mentions, shown_append, List.append_subset] at h
    rw [Member.mentions, references_append]
    exact .append (key.omits v hv h.1) (f.omits _ hv.withArguments h.2)
  | .spread e, v, hv, h => e.omits v hv h
  | .hollow _, _, _, _ => .nil

/-- Of a function the name and the parameters can be seen in all of it, and what the body declares
in the body. -/
theorem Function.omits : (f : Function) → (v : Visible) → v.Within hidden →
    shown f.mentions ⊆ hidden → Omits hidden (references f.mentions) (f.free v)
  | .mk _ name types params returns _ body, v, hv, h => by
    have hnames : shown (name.toList.map Mention.binding) = name.toList ∧
        references (name.toList.map Mention.binding) = [] := by
      cases name <;> exact ⟨rfl, rfl⟩
    rw [Function.mentions, shown_append, shown_append, shown_append, shown_append,
      List.append_subset, List.append_subset, List.append_subset, List.append_subset,
      hnames.1] at h
    obtain ⟨⟨⟨⟨hname, htypes⟩, hparams⟩, hreturns⟩, hbody⟩ := h
    -- what the head binds can be seen in the head itself and in the body
    have hhead := hv.head hname htypes hparams
    rw [Function.mentions, references_append, references_append, references_append,
      references_append, hnames.2, List.nil_append]
    apply Omits.append
    · apply Omits.append
      · exact .append (hhead.omits_types htypes) (Binder.listOmits params _ hhead hparams)
      · exact hhead.omits_types hreturns
    · exact Stmt.listOmits body _ (hhead.body hbody) hbody

/-- The free names of a declarator are its references, without some that are visible or shown. -/
theorem Binder.omits : (binder : Binder) → (v : Visible) → v.Within hidden →
    shown binder.mentions ⊆ hidden → Omits hidden (references binder.mentions) (binder.free v)
  | .mk _ _ decorators pattern types none, v, hv, h => by
    rw [Binder.mentions, shown_append, shown_append, List.append_subset,
      List.append_subset] at h
    obtain ⟨⟨hdecorators, hpattern⟩, htypes⟩ := h
    rw [Binder.mentions, references_append, references_append]
    exact .append (.append (Stmt.listOmits decorators v hv hdecorators)
      (pattern.omits v hv hpattern)) (hv.omits_types htypes)
  -- the initial value is read last, and sees what the pattern sees
  | .mk _ _ decorators pattern types (some e), v, hv, h => by
    rw [Binder.mentions, shown_append, shown_append, shown_append, List.append_subset,
      List.append_subset, List.append_subset] at h
    obtain ⟨⟨⟨hdecorators, hpattern⟩, htypes⟩, he⟩ := h
    rw [Binder.mentions, references_append, references_append, references_append]
    exact .append (.append (.append (Stmt.listOmits decorators v hv hdecorators)
      (pattern.omits v hv hpattern)) (hv.omits_types htypes)) (e.omits v hv he)

theorem Pattern.omits : (pattern : Pattern) → (v : Visible) → v.Within hidden →
    shown pattern.mentions ⊆ hidden →
    Omits hidden (references pattern.mentions) (pattern.free v)
  | .name _, _, _, _ => .nil
  | .object items, v, hv, h | .array items, v, hv, h => PatternItem.listOmits items v hv h
  -- a default sees the names around the pattern
  | .withDefault pattern default, v, hv, h => by
    rw [Pattern.mentions, shown_append, List.append_subset] at h
    rw [Pattern.mentions, references_append]
    exact .append (pattern.omits v hv h.1) (default.omits v hv h.2)

theorem PatternItem.omits : (item : PatternItem) → (v : Visible) → v.Within hidden →
    shown item.mentions ⊆ hidden → Omits hidden (references item.mentions) (item.free v)
  | .field key value, v, hv, h => by
    rw [PatternItem.mentions, shown_append, List.append_subset] at h
    rw [PatternItem.mentions, references_append]
    exact .append (key.omits v hv h.1) (value.omits v hv h.2)
  | .element value, v, hv, h | .rest value, v, hv, h => value.omits v hv h
  | .hole, _, _, _ => .nil

/-- The free names of a statement are its references, without some that are visible or shown. -/
theorem Stmt.omits : (stmt : Stmt) → (v : Visible) → v.Within hidden →
    shown stmt.mentions ⊆ hidden → Omits hidden (references stmt.mentions) (stmt.free v)
  | .vars _ binders, v, hv, h => Binder.listOmits binders v hv h
  | .function f, v, hv, h => f.omits _ hv.withArguments h
  | .expression _ e, v, hv, h | .ret (some e), v, hv, h => e.omits v hv h
  -- the one statement that opens a scope.
  | .block stmts, v, hv, h => Stmt.listOmits stmts _ (hv.block h) h
  | .empty, _, _, _ | .ret none, _, _, _ => .nil
  | .cond test consequent alternate, v, hv, h => by
    rw [Stmt.mentions, shown_append, shown_append, List.append_subset,
      List.append_subset] at h
    obtain ⟨⟨htest, hconsequent⟩, halternate⟩ := h
    rw [Stmt.mentions, references_append, references_append]
    exact .append (.append (test.omits v hv htest) (consequent.omits v hv hconsequent))
      (alternate.omits v hv halternate)
  | .moduleItem _ _ parts, v, hv, h | .other _ parts, v, hv, h => Stmt.listOmits parts v hv h
  | .notes _, _, hv, h => hv.omits_types h

theorem Item.listOmits : (items : List Item) → (v : Visible) → v.Within hidden →
    shown (Item.listMentions items) ⊆ hidden →
    Omits hidden (references (Item.listMentions items)) (Item.listFree v items)
  | [], _, _, _ => .nil
  | item :: rest, v, hv, h => by
    rw [Item.listMentions, shown_append, List.append_subset] at h
    rw [Item.listMentions, references_append]
    exact .append (item.omits v hv h.1) (Item.listOmits rest v hv h.2)

theorem Member.listOmits : (members : List Member) → (v : Visible) → v.Within hidden →
    shown (Member.listMentions members) ⊆ hidden →
    Omits hidden (references (Member.listMentions members)) (Member.listFree v members)
  | [], _, _, _ => .nil
  | member :: rest, v, hv, h => by
    rw [Member.listMentions, shown_append, List.append_subset] at h
    rw [Member.listMentions, references_append]
    exact .append (member.omits v hv h.1) (Member.listOmits rest v hv h.2)

theorem Binder.listOmits : (binders : List Binder) → (v : Visible) → v.Within hidden →
    shown (Binder.listMentions binders) ⊆ hidden →
    Omits hidden (references (Binder.listMentions binders)) (Binder.listFree v binders)
  | [], _, _, _ => .nil
  | binder :: rest, v, hv, h => by
    rw [Binder.listMentions, shown_append, List.append_subset] at h
    rw [Binder.listMentions, references_append]
    exact .append (binder.omits v hv h.1) (Binder.listOmits rest v hv h.2)

theorem PatternItem.listOmits : (items : List PatternItem) → (v : Visible) → v.Within hidden →
    shown (PatternItem.listMentions items) ⊆ hidden →
    Omits hidden (references (PatternItem.listMentions items)) (PatternItem.listFree v items)
  | [], _, _, _ => .nil
  | item :: rest, v, hv, h => by
    rw [PatternItem.listMentions, shown_append, List.append_subset] at h
    rw [PatternItem.listMentions, references_append]
    exact .append (item.omits v hv h.1) (PatternItem.listOmits rest v hv h.2)

theorem Stmt.listOmits : (stmts : List Stmt) → (v : Visible) → v.Within hidden →
    shown (Stmt.listMentions stmts) ⊆ hidden →
    Omits hidden (references (Stmt.listMentions stmts)) (Stmt.listFree v stmts)
  | [], _, _, _ => .nil
  | stmt :: rest, v, hv, h => by
    rw [Stmt.listMentions, shown_append, List.append_subset] at h
    rw [Stmt.listMentions, references_append]
    exact .append (stmt.omits v hv h.1) (Stmt.listOmits rest v hv h.2)

end

end Omission

/-- The names that mean something in some part of a script without being bound: the name that a
function implies, the members of enumerations and the parameters of index signatures. -/
def Program.implied (program : Program) : List String :=
  Visible.argumentsName :: (members program.mentions ++ indices program.mentions)

/-- The free names of a script are the names in use without some that are bound or implied somewhere
in it. -/
theorem Program.omits (program : Program) :
    Omits (program.implied ++ bindings program.mentions) (references program.mentions)
      program.free := by
  have h : shown program.mentions ⊆ program.implied ++ bindings program.mentions := by
    intro name hname
    rw [mem_shown] at hname
    simp only [implied, List.mem_append, List.mem_cons]
    rcases hname with hbound | hmember | hindex
    · exact .inr hbound
    · exact .inl (.inr (.inl hmember))
    · exact .inl (.inr (.inr hindex))
  -- at first nothing can be seen, and the body of the script shows what is bound or implied in it
  apply Stmt.listOmits program.body _ _ h
  apply Visible.Within.body _ h
  exact ⟨List.nil_subset _, List.nil_subset _, List.mem_cons_self ..⟩

end ComponentCanvas.Script
