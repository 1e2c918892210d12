import ComponentCanvas.Proofs.Except
import ComponentCanvas.Proofs.Script.Cursor

/-!
# Declared Names

The names that the statements of a script declare as functions and variables are words of its text,
so they are made of the characters of identifiers.

Whether a declaration is a plain name is decided at one level of the grammar, so nothing has to be
known of the rules that the one for statements refers to, apart from that for patterns.
-/

namespace ComponentCanvas.Script

/-- Whether a name is made of the characters of identifiers. -/
def IsWord (name : String) : Prop := ∀ c ∈ name.toList, Text.isIdentifierPart c = true

/-- The name of a pattern that is nothing else. -/
def Pattern.plain? : Pattern → Option String
  | .name n => some n
  | _ => none

/-- The name that a binder binds, if its pattern is one. -/
def Binder.plain? : Binder → Option String
  | .mk _ _ _ p _ _ => p.plain?

/-- The names that a statement itself declares as functions and variables. -/
def Stmt.declared : Stmt → List String
  | .function f => f.name?.toList
  | .vars _ binders => binders.filterMap Binder.plain?
  | _ => []

/-- Whether all names that a statement declares are words. -/
def Stmt.Proper (s : Stmt) : Prop := ∀ n ∈ s.declared, IsWord n

namespace Parser

/-! ## What a parser gives -/

/-- Whether everything that a parser gives has a property. -/
def Gives {α : Type} (p : Parser α) (Q : α → Prop) : Prop :=
  ∀ c a c', p c = .ok (a, c') → Q a

section Gives

variable {α β σ : Type} {p : Parser α} {P Q : α → Prop} {R : β → Prop}

theorem gives_pure {a : α} (h : Q a) : Gives (pure a) Q := by
  rintro c _ _ ⟨⟩
  exact h

theorem gives_error {e : Cursor → SyntaxError} : Gives (fun c => .error (e c)) Q := by
  rintro c _ _ ⟨⟩

theorem gives_fail {fault : Fault} : Gives (fail fault) Q := gives_error

theorem gives_unexpected : Gives unexpected Q := by
  intro c a c' h
  unfold unexpected at h
  split at h <;> cases h

theorem Gives.bind {f : α → Parser β} (hp : Gives p P) (hf : ∀ a, P a → Gives (f a) R) :
    Gives (p >>= f) R := by
  intro c b c'' h
  rw [bind_apply] at h
  split at h
  · next a c' hrun => exact hf a (hp c a c' hrun) c' b c'' h
  · cases h

/-- Where nothing has to be known of the first step, only the second one counts. -/
theorem gives_bind {f : α → Parser β} (hf : ∀ a, Gives (f a) R) : Gives (p >>= f) R :=
  Gives.bind (P := fun _ => True) (fun _ _ _ _ => trivial) fun a _ => hf a

/-- A step that is taken only at times. -/
theorem gives_when {b : Prop} [Decidable b] {p : Parser Unit} {f : Unit → Parser β}
    (hf : ∀ u, Gives (f u) R) : Gives (if b then p >>= f else f ()) R := by
  split
  · exact gives_bind hf
  · exact hf ()

theorem gives_either {b : Prop} [Decidable b] {p q : Parser α} {f : α → Parser β}
    (hf : ∀ a, Gives (f a) R) : Gives (if b then p >>= f else q >>= f) R := by
  split
  · exact gives_bind hf
  · exact gives_bind hf

theorem Gives.map {f : α → β} (hp : Gives p P) (hf : ∀ a, P a → R (f a)) : Gives (f <$> p) R := by
  rw [map_eq_pure_bind]
  exact hp.bind fun a ha => gives_pure (hf a ha)

theorem Gives.imp (hp : Gives p P) (h : ∀ a, P a → Q a) : Gives p Q :=
  fun c a c' hrun => h a (hp c a c' hrun)

/-- A change of the context does not change what is known of the result. -/
theorem Gives.within {change : Context → Context} (hp : Gives p Q) :
    Gives (within change p) Q := by
  intro c a c' h
  unfold Parser.within at h
  split at h
  · next a' c'' hrun =>
    obtain ⟨rfl, -⟩ := Prod.mk.inj (Except.ok.inj h)
    exact hp _ _ _ hrun
  · cases h

/-- A repetition gives what its last step gives, with what holds of all states before it. -/
theorem gives_repeating {step : σ → Parser (σ ⊕ α)} {state : σ} (I : σ → Prop) (hstate : I state)
    (hstep : ∀ state, I state → Gives (step state) (Sum.elim I Q)) :
    Gives (repeating state step) Q := by
  refine gives_bind fun n => ?_
  -- induction on the steps that are left, where what holds of the state goes along
  induction n generalizing state with
  | zero => exact gives_unexpected
  | succ n ih =>
    refine (hstep state hstate).bind fun next hnext => ?_
    cases next with
    | inl state' => exact ih hnext
    | inr result => exact gives_pure hnext

/-- Items between separators have what each of them has. -/
theorem Gives.separatedBy1 {separator : String} (hp : Gives p Q) :
    Gives (separatedBy1 separator p) fun as => ∀ a ∈ as, Q a := by
  refine hp.bind fun first hfirst => ?_
  refine gives_repeating (fun acc => ∀ a ∈ acc, Q a) (by simpa using hfirst) fun acc hacc => ?_
  refine gives_bind fun more => ?_
  split
  · exact hp.bind fun a ha => gives_pure (List.forall_mem_cons.mpr ⟨ha, hacc⟩)
  · exact gives_pure fun a ha => hacc a (List.mem_reverse.mp ha)

end Gives

/-! ## Names -/

/-- A name is read from a word. -/
theorem gives_name : Gives name IsWord := by
  intro c n c' h
  -- the token of a cursor is proper, so if it is a word it consists of characters of identifiers
  have hproper := c.proper
  rw [name, bind_of_ok (token_apply c)] at h
  cases htoken : c.token with
  | word w escaped =>
    rw [htoken] at h hproper
    dsimp only at h
    rw [bind_of_ok (context_apply c), ite_apply] at h
    split at h
    · exact (gives_unexpected (Q := fun _ => False) c n c' h).elim
    · obtain ⟨rfl, -⟩ := Prod.mk.inj (Except.ok.inj h)
      exact hproper
  | _ =>
    rw [htoken] at h
    exact (gives_unexpected (Q := fun _ => False) c n c' h).elim

theorem gives_name? : Gives name? fun n => ∀ w ∈ n, IsWord w := by
  refine gives_bind fun found => ?_
  split
  · refine gives_name.bind fun w hw => gives_pure ?_
    rintro _ ⟨⟩
    exact hw
  · exact gives_pure nofun

/-- A pattern that is a plain name is a word. -/
theorem gives_patternStep (g : Grammar) :
    Gives (patternStep g) fun p => ∀ n ∈ p.plain?, IsWord n := by
  refine gives_bind fun opens => ?_
  -- only a single name is plain; patterns of fields and of elements are not
  split
  · exact gives_bind fun items => gives_bind fun _ => gives_pure nofun
  · refine gives_bind fun opens => ?_
    split
    · exact gives_bind fun items => gives_bind fun _ => gives_pure nofun
    · refine gives_name.bind fun w hw => gives_pure ?_
      rintro _ ⟨⟩
      exact hw

section Rules

variable {g : Grammar} {start : Nat} {place : Place}

/-! ## Statements that declare nothing -/

section Silent

/-- A statement that is kept by its parts declares nothing itself. -/
theorem gives_finishParts {parts : List Stmt} : Gives (finishParts start parts) Stmt.Proper :=
  gives_bind fun _ => gives_pure nofun

theorem gives_finishModuleItem {item : ModuleItem} {parts : List Stmt} :
    Gives (finishModuleItem place start item parts) Stmt.Proper := by
  refine gives_bind fun span => gives_pure ?_
  split <;> exact nofun

theorem gives_classDeclaration : Gives (classDeclaration g place) Stmt.Proper :=
  gives_bind fun _ => gives_bind fun _ => gives_bind fun _ => gives_bind fun _ =>
    gives_bind fun _ => gives_finishParts

theorem gives_conditionStatement : Gives (conditionStatement g) Stmt.Proper := by
  refine gives_bind fun _ => gives_bind fun _ => gives_bind fun _ => gives_bind fun _ => ?_
  exact gives_either fun _ => gives_pure nofun

theorem gives_loopStatement : Gives (loopStatement g start) Stmt.Proper :=
  gives_bind fun _ => gives_bind fun _ => gives_bind fun _ => gives_bind fun _ =>
    gives_bind fun _ => gives_bind fun _ => gives_finishParts

theorem gives_tryStatement : Gives (tryStatement g start) Stmt.Proper := by
  refine gives_bind fun _ => gives_bind fun _ => gives_bind fun _ => ?_
  refine gives_either fun _ => gives_bind fun _ => gives_either fun _ => ?_
  dsimp only
  split
  · exact gives_fail
  · exact gives_finishParts

theorem gives_returnStatement : Gives (returnStatement g) Stmt.Proper := by
  refine gives_bind fun _ => gives_bind fun _ => gives_bind fun _ => gives_bind fun _ =>
    gives_bind fun _ => ?_
  exact gives_either fun _ => gives_bind fun _ => gives_pure nofun

theorem gives_jumpStatement : Gives (jumpStatement start) Stmt.Proper := by
  refine gives_bind fun _ => gives_bind fun _ => ?_
  dsimp only
  split
  · exact gives_bind fun _ => gives_finishParts
  · exact gives_bind fun _ => gives_bind fun _ => gives_finishParts

theorem gives_throwStatement : Gives (throwStatement g start) Stmt.Proper :=
  gives_bind fun _ => gives_bind fun _ => gives_bind fun _ => gives_bind fun _ =>
    gives_bind fun _ => gives_finishParts

theorem gives_nameStatement : Gives nameStatement Stmt.Proper :=
  gives_bind fun _ => gives_bind fun _ => gives_bind fun _ => gives_bind fun _ =>
    gives_bind fun _ => gives_pure nofun

theorem gives_expressionStatement : Gives (expressionStatement g) Stmt.Proper := by
  refine gives_bind fun _ => gives_bind fun e => ?_
  split
  · refine gives_bind fun _ => ?_
    split
    · exact gives_bind fun _ => gives_finishParts
    · exact gives_bind fun _ => gives_bind fun _ => gives_pure nofun
  · exact gives_bind fun _ => gives_bind fun _ => gives_pure nofun

/-- What is exported is a part of the statement. -/
theorem gives_exportRest : Gives (exportRest g place start) Stmt.Proper := by
  refine gives_bind fun t => gives_bind fun after => ?_
  dsimp only
  repeat' first
    | exact gives_finishModuleItem
    | refine gives_bind fun _ => ?_
    | split

theorem gives_exportStatement : Gives (exportStatement g place) Stmt.Proper :=
  gives_bind fun _ => gives_bind fun _ => gives_exportRest

theorem gives_importStatement : Gives (importStatement g place) Stmt.Proper := by
  refine gives_bind fun _ => gives_bind fun _ => gives_bind fun t => ?_
  split
  -- the import of a module for its effects
  · exact gives_bind fun _ => gives_bind fun _ => gives_finishModuleItem
  -- another name for a module, a module that is loaded under a name, or names from a module
  refine gives_bind fun _ => gives_when fun _ => gives_bind fun _ => gives_bind fun _ => ?_
  split
  · refine gives_bind fun ⟨loads, parts⟩ => ?_
    dsimp only
    split
    · exact gives_finishModuleItem
    · exact gives_finishParts
  · exact gives_bind fun _ => gives_bind fun _ => gives_bind fun _ => gives_bind fun _ =>
      gives_finishModuleItem

end Silent

/-! ## Declarations -/

theorem gives_functionRest {n : Option String} {flavor : Flavor} {mayLackBody : Bool} :
    Gives (functionRest g start n flavor mayLackBody) fun f => f.name? = n := by
  refine gives_bind fun types => gives_bind fun params => gives_bind fun returns =>
    gives_bind fun _ => gives_bind fun _ => ?_
  split
  · exact gives_bind fun _ => gives_bind fun _ => gives_pure rfl
  · exact gives_bind fun _ => gives_bind fun _ => gives_pure rfl

theorem gives_functionFromKeyword {isAsync isDeclaration : Bool} :
    Gives (functionFromKeyword g start isAsync isDeclaration) fun f =>
      ∀ w ∈ f.name?, IsWord w := by
  refine gives_bind fun _ => gives_bind fun _ => ?_
  dsimp only
  have hrest : ∀ {n flavor mayLackBody}, (∀ w ∈ n, IsWord w) →
      Gives (functionRest g start n flavor mayLackBody) fun f => ∀ w ∈ f.name?, IsWord w :=
    fun hn => gives_functionRest.imp fun f hf => hf ▸ hn
  -- a declaration has a name, an expression may lack one
  split
  · refine (gives_name.map fun w hw => ?_).bind (P := fun n => ∀ w ∈ n, IsWord w) fun _ => hrest
    rintro _ ⟨⟩
    exact hw
  · exact gives_name?.within.bind fun _ => hrest

theorem gives_functionDeclaration : Gives (functionDeclaration g place) Stmt.Proper := by
  refine gives_bind fun _ => gives_bind fun _ => gives_bind fun _ => gives_bind fun _ =>
    gives_bind fun _ => gives_functionFromKeyword.bind fun f hf => gives_pure ?_
  intro n hn
  exact hf n (Option.mem_toList.mp hn)

theorem proper_declaredNames {names : List String} (h : ∀ n ∈ names, IsWord n) :
    (declaredNames names).Proper := by
  intro n hn
  have : n ∈ names := by
    simpa [declaredNames, Stmt.declared, Binder.plain?, Pattern.plain?] using hn
  exact h n this

section Variables

variable (hpattern : Gives (g .pattern) fun p => ∀ n ∈ p.plain?, IsWord n)
include hpattern

theorem gives_declarator : Gives (declarator g) fun b => ∀ n ∈ b.plain?, IsWord n := by
  refine gives_bind fun _ => hpattern.bind fun p hp => gives_bind fun _ => gives_bind fun _ => ?_
  dsimp only
  exact gives_when fun _ => gives_bind fun _ => gives_bind fun _ => gives_bind fun _ =>
    gives_pure hp

theorem gives_declarators :
    Gives (declarators g) fun d => ∀ b ∈ d.2.2, ∀ n ∈ b.plain?, IsWord n :=
  gives_bind fun _ => (gives_declarator hpattern).separatedBy1.bind fun _ hbinders =>
    gives_pure hbinders

theorem gives_variableStatement : Gives (variableStatement g place) Stmt.Proper := by
  refine gives_bind fun _ => (gives_declarators hpattern).bind fun d hd => ?_
  refine gives_bind fun _ => gives_bind fun _ => gives_bind fun _ => gives_pure ?_
  intro n hn
  obtain ⟨b, hb, hplain⟩ := List.mem_filterMap.mp hn
  exact hd b hb n hplain

end Variables

/-! ## Declarations of types -/

/-- Helper: a declaration with a statement behind it that declares nothing. -/
private theorem proper_pair {s other : Stmt} (h : s.Proper) (hother : other.declared = []) :
    ∀ t ∈ [s, other], t.Proper := by
  refine List.forall_mem_cons.mpr ⟨h, List.forall_mem_singleton.mpr ?_⟩
  rw [Stmt.Proper, hother]
  exact nofun

theorem gives_interfaceDeclaration :
    Gives (interfaceDeclaration g) fun parts => ∀ s ∈ parts, s.Proper := by
  refine gives_bind fun _ => gives_bind fun n => gives_bind fun _ => gives_bind fun _ => ?_
  dsimp only
  refine gives_either fun _ => gives_bind fun _ => gives_pure ?_
  exact proper_pair nofun rfl

theorem gives_typeAlias : Gives (typeAlias g) fun parts => ∀ s ∈ parts, s.Proper := by
  refine gives_bind fun _ => gives_bind fun n => gives_bind fun _ => gives_bind fun _ =>
    gives_bind fun _ => gives_bind fun _ => gives_pure ?_
  exact proper_pair nofun rfl

theorem gives_enumDeclaration :
    Gives (enumDeclaration g) fun parts => ∀ s ∈ parts, s.Proper := by
  refine gives_bind fun _ => gives_bind fun _ => gives_name.bind fun n hn => gives_bind fun _ =>
    gives_bind fun _ => gives_bind fun _ => gives_pure ?_
  exact proper_pair (proper_declaredNames (List.forall_mem_singleton.mpr hn)) rfl

/-- Another name for a module is a word. -/
theorem gives_importAlias : Gives (importAlias g) fun target => ∀ s ∈ target.2, s.Proper := by
  refine gives_name.bind fun n hn => gives_bind fun _ => gives_bind fun _ => gives_bind fun _ => ?_
  dsimp only
  have hparts : ∀ target, ∀ s ∈ [declaredNames [n], scopedNotes target], s.Proper :=
    fun _ => proper_pair (proper_declaredNames (List.forall_mem_singleton.mpr hn)) rfl
  -- what it stands for is a module that is loaded, or a path of names
  split
  · refine gives_bind fun _ => gives_bind fun _ => gives_bind fun t => ?_
    split
    · exact gives_bind fun _ => gives_bind fun _ => gives_bind fun _ => gives_bind fun _ =>
        gives_pure (hparts _)
    · exact gives_unexpected.bind (P := fun _ => False) nofun
  · exact gives_bind fun _ => gives_bind fun _ => gives_pure (hparts _)

/-- A namespace under a path of names is declared under words. -/
theorem gives_namespaceDeclaration :
    Gives (namespaceDeclaration g) fun parts => ∀ s ∈ parts, s.Proper := by
  refine gives_bind fun _ => ?_
  -- a namespace under a text, such as an ambient module, declares no name
  split
  · exact gives_bind fun _ => gives_pure (List.forall_mem_singleton.mpr nofun)
  · refine gives_bind fun _ => gives_bind fun t => ?_
    split
    · refine gives_bind fun _ => gives_bind fun _ => ?_
      split
      · exact gives_bind fun _ => gives_pure (List.forall_mem_singleton.mpr nofun)
      · exact gives_bind fun _ => gives_pure nofun
    · refine gives_name.separatedBy1.bind fun names hnames => gives_bind fun _ => gives_pure ?_
      exact proper_pair (proper_declaredNames hnames) rfl

section Statements

variable (hpattern : Gives (g .pattern) fun p => ∀ n ∈ p.plain?, IsWord n)
include hpattern

/-- The parts of a declaration of types are proper. -/
theorem gives_typeDeclarationParts :
    Gives (typeDeclarationParts g) fun parts => ∀ s ∈ parts, s.Proper := by
  -- a single statement is a list of one part
  have hone : ∀ {p : Parser Stmt}, Gives p Stmt.Proper →
      Gives (p >>= fun s => pure [s]) fun parts => ∀ s ∈ parts, s.Proper :=
    fun hp => hp.bind fun s hs => gives_pure (List.forall_mem_singleton.mpr hs)
  -- by the word with which the declaration opens
  refine gives_bind fun t => ?_
  split
  · exact gives_interfaceDeclaration
  · exact gives_typeAlias
  · exact gives_enumDeclaration
  · refine gives_bind fun _ => ?_
    split
    · exact gives_enumDeclaration
    · exact hone (gives_variableStatement hpattern)
  · exact hone (gives_variableStatement hpattern)
  · exact hone (gives_variableStatement hpattern)
  · exact hone gives_functionDeclaration
  · exact hone gives_functionDeclaration
  · exact hone gives_classDeclaration
  · exact hone gives_classDeclaration
  · exact gives_bind fun _ => gives_importAlias.bind fun _ h => gives_pure h
  · exact gives_namespaceDeclaration

/-- A declaration of types is proper. -/
theorem gives_typeDeclaration : Gives (typeDeclaration g start) Stmt.Proper := by
  refine gives_bind fun _ => ?_
  refine (gives_typeDeclarationParts hpattern).within.bind fun parts hparts => ?_
  -- a single declaration is the statement itself, several are parts of one that declares nothing
  split
  · exact gives_pure (hparts _ (List.mem_singleton_self _))
  · exact gives_pure (hparts _ (List.mem_singleton_self _))
  · exact gives_finishParts

theorem gives_letStatement : Gives (letStatement g place) Stmt.Proper := by
  refine gives_bind fun _ => gives_bind fun _ => ?_
  split
  · exact gives_variableStatement hpattern
  split
  · exact gives_expressionStatement
  · exact gives_nameStatement

/-- A statement that opens with a word is proper. -/
theorem gives_wordStatement (w : String) : Gives (wordStatement g place w) Stmt.Proper := by
  refine gives_bind fun _ => gives_bind fun _ => gives_bind fun _ => gives_bind fun _ => ?_
  split
  · exact gives_typeDeclaration hpattern
  -- one case a keyword; only variables and functions declare names
  split
  · exact gives_conditionStatement
  · exact gives_loopStatement
  · exact gives_bind fun _ => gives_bind fun _ => gives_bind fun _ => gives_finishParts
  · exact gives_bind fun _ => gives_bind fun _ => gives_bind fun _ => gives_bind fun _ =>
      gives_bind fun _ => gives_finishParts
  · exact gives_jumpStatement
  · exact gives_jumpStatement
  · exact gives_returnStatement
  · exact gives_throwStatement
  · exact gives_tryStatement
  · exact gives_bind fun _ => gives_bind fun _ => gives_bind fun _ => gives_bind fun _ =>
      gives_bind fun _ => gives_finishParts
  · exact gives_bind fun _ => gives_bind fun _ => gives_bind fun _ => gives_finishParts
  · exact gives_bind fun _ => gives_bind fun _ => gives_finishParts
  · exact gives_variableStatement hpattern
  · exact gives_variableStatement hpattern
  · exact gives_letStatement hpattern
  · exact gives_functionDeclaration
  · exact gives_classDeclaration
  · exact gives_exportStatement
  · refine gives_bind fun _ => ?_
    split
    · exact gives_expressionStatement
    · exact gives_importStatement
  · refine gives_bind fun _ => ?_
    split
    · exact gives_functionDeclaration
    refine gives_bind fun _ => ?_
    split
    · exact gives_variableStatement hpattern
    · exact gives_expressionStatement

/-- A statement is proper, given that the patterns in it are. -/
theorem gives_statementStep : Gives (statementStep g place) Stmt.Proper := by
  refine gives_bind fun t => ?_
  split
  · exact gives_bind fun _ => gives_pure nofun
  · exact gives_bind fun _ => gives_pure nofun
  -- decorators stand in front of a class, or of an export of one
  · refine gives_bind fun _ => gives_bind fun exported => ?_
    split
    · exact gives_bind fun _ => gives_bind fun _ => gives_exportRest
    · exact gives_classDeclaration
  · exact gives_wordStatement hpattern _
  · exact gives_expressionStatement

end Statements

end Rules

/-! ## Scripts -/

theorem gives_pattern_grammar (depth : Nat) :
    Gives (grammar depth .pattern) fun p => ∀ n ∈ p.plain?, IsWord n := by
  cases depth with
  | zero => exact gives_unexpected
  | succ depth => exact gives_patternStep (grammar depth)

theorem gives_statement_grammar (depth : Nat) (place : Place) :
    Gives (grammar depth (.statement place)) Stmt.Proper := by
  cases depth with
  | zero => exact gives_unexpected
  | succ depth => exact gives_statementStep (gives_pattern_grammar depth)

/-- The statements of a script are proper. -/
theorem gives_statements (depth : Nat) :
    Gives (statements (grammar depth)) fun stmts => ∀ s ∈ stmts, s.Proper := by
  refine gives_repeating (fun acc => ∀ s ∈ acc, s.Proper) nofun fun acc hacc => ?_
  refine gives_bind fun t => ?_
  split
  · exact gives_pure fun s hs => hacc s (List.mem_reverse.mp hs)
  · exact (gives_statement_grammar depth .top).bind fun s hs =>
      gives_pure (List.forall_mem_cons.mpr ⟨hs, hacc⟩)

theorem mem_of_mem_withoutDirectives {s : Stmt} {stmts : List Stmt}
    (h : s ∈ withoutDirectives stmts) : s ∈ stmts := by
  fun_induction withoutDirectives stmts with
  | case1 _ _ _ rest ih => exact List.mem_cons_of_mem _ (ih h)
  | case2 stmts _ => exact h

/-- A script that is read to its end has what its parser gives. -/
theorem Gives.run {α : Type} {p : Parser α} {Q : α → Prop} {typed : Bool} {text : List Char} {a : α}
    (hp : Gives p Q) (h : run p typed text = .ok a) : Q a := by
  unfold Parser.run at h
  split at h
  · cases h
  · next a' c hrun =>
    split at h
    · cases h
    · cases h
    · obtain rfl := Except.ok.inj h
      exact hp _ _ _ hrun

end Parser

/-- The statements of a script that is read declare words. -/
theorem Program.proper_of_read {text : String} {program : Program}
    (h : Program.read text = .ok program) : ∀ s ∈ program.body, s.Proper := by
  obtain ⟨stmts, hrun, hprogram⟩ := bind_eq_ok.mp h
  obtain rfl := pure_eq_ok.mp hprogram
  exact fun s hs => (Parser.gives_statements _).run hrun s (Parser.mem_of_mem_withoutDirectives hs)

end ComponentCanvas.Script
