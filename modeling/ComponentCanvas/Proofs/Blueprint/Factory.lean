import ComponentCanvas.Proofs.Blueprint.Compilation
import ComponentCanvas.Proofs.Validation
import Mathlib.Data.List.Induction

/-!
# Factories of Blueprints

Validation looks for the factory among the functions that have a body.  A blueprint takes the last
function that is declared under the name of the factory, with a body or without one.  Both are the
same function unless a declaration without a body comes last.
-/

namespace ComponentCanvas.Blueprint

open Script (Program)

/-! ## Markup in code -/

/-- Whether an expression can be markup. -/
def Expr.yieldsMarkup : Expr → Bool
  | .markup _ => true
  | .conditional _ consequent alternate => consequent.yieldsMarkup || alternate.yieldsMarkup
  | .logical _ left right => left.yieldsMarkup || right.yieldsMarkup
  | _ => false

mutual

/-- Whether a statement returns what can be markup, perhaps under conditions. -/
def Stmt.returnsMarkup : Stmt → Bool
  | .ret (some e) => e.yieldsMarkup
  | .cond _ consequent alternate =>
    Stmt.anyReturnsMarkup consequent || Stmt.anyReturnsMarkup alternate
  | _ => false

/-- Whether one of the statements returns what can be markup. -/
def Stmt.anyReturnsMarkup : List Stmt → Bool
  | [] => false
  | stmt :: rest => stmt.returnsMarkup || Stmt.anyReturnsMarkup rest

end

theorem Stmt.anyReturnsMarkup_append (stmts others : List Stmt) :
    Stmt.anyReturnsMarkup (stmts ++ others) =
      (Stmt.anyReturnsMarkup stmts || Stmt.anyReturnsMarkup others) := by
  induction stmts with
  | nil => rfl
  | cons stmt rest ih =>
    rw [List.cons_append, anyReturnsMarkup, anyReturnsMarkup, ih, Bool.or_assoc]

section Lowering

variable {env : Surroundings}

/-- What can be markup in a script can be markup in its blueprint. -/
theorem yieldsMarkup_lowerExpr (e : Script.Expr) (h : e.yieldsMarkup = true) :
    (lowerExpr env e).yieldsMarkup = true := by
  fun_induction Script.Expr.yieldsMarkup e with
  -- an element becomes a fragment or an element, markup in either case
  | case1 span tag types attributes children =>
    rw [lowerExpr]
    split <;> rfl
  | case2 span children => rfl
  | case3 span e ih =>
    rw [lowerExpr]
    exact ih h
  -- markup in either branch is enough, before lowering and afterwards
  | case4 span test consequent alternate ihConsequent ihAlternate =>
    rw [lowerExpr, Expr.yieldsMarkup, Bool.or_eq_true]
    exact (Bool.or_eq_true _ _ ▸ h).imp ihConsequent ihAlternate
  | case5 span op left right ihLeft ihRight =>
    rw [lowerExpr, Expr.yieldsMarkup, Bool.or_eq_true]
    exact (Bool.or_eq_true _ _ ▸ h).imp ihLeft ihRight
  | case6 => cases h

mutual

/-- A statement that returns markup is lowered to statements of which one does. -/
theorem anyReturnsMarkup_lowerStmt : (stmt : Script.Stmt) → stmt.returnsMarkup = true →
    Stmt.anyReturnsMarkup (lowerStmt env stmt) = true
  | .ret (some e), h => by
    rw [Script.Stmt.returnsMarkup] at h
    simp [lowerStmt, Stmt.anyReturnsMarkup, Stmt.returnsMarkup, yieldsMarkup_lowerExpr e h]
  -- the statements of a block take its place
  | .block stmts, h => by
    rw [Script.Stmt.returnsMarkup] at h
    rw [lowerStmt]
    exact anyReturnsMarkup_lowerStmts stmts h
  | .cond test consequent alternate, h => by
    rw [Script.Stmt.returnsMarkup, Bool.or_eq_true] at h
    have hbranch := h.imp (anyReturnsMarkup_lowerStmt consequent)
      (anyReturnsMarkup_lowerStmt alternate)
    simpa [lowerStmt, Stmt.anyReturnsMarkup, Stmt.returnsMarkup] using hbranch
  -- none of these returns anything
  | .ret none, h | .vars _ _, h | .function _, h | .expression _ _, h | .empty, h
  | .moduleItem _ _ _, h | .notes _, h | .other _ _, h => by
    simp [Script.Stmt.returnsMarkup] at h

/-- If one of the statements returns markup, so does one of those they are lowered to. -/
theorem anyReturnsMarkup_lowerStmts : (stmts : List Script.Stmt) → anyReturnsMarkup stmts = true →
    Stmt.anyReturnsMarkup (lowerStmts env stmts) = true
  | [], h => by cases h
  | stmt :: rest, h => by
    rw [ComponentCanvas.anyReturnsMarkup, Bool.or_eq_true] at h
    rw [lowerStmts, Stmt.anyReturnsMarkup_append, Bool.or_eq_true]
    exact h.imp (anyReturnsMarkup_lowerStmt stmt) (anyReturnsMarkup_lowerStmts rest)

end

theorem body_lowerFunction (f : Script.Function) :
    (lowerFunction env f).body = lowerStmts env f.body := by
  cases f
  rw [lowerFunction, Function.body, Script.Function.body]

end Lowering

/-! ## Functions of one name -/

/-- The function that a declaration puts under a name. -/
def Declaration.functionOf? (name : String) : Declaration → Option Script.Function
  | .helper other f => if other == name then some f else none
  | .constant _ _ => none

/-- The functions that a script declares at the top level under a name, in order. -/
def functionsOf (program : Program) (name : String) : List Script.Function :=
  (declarations program).filterMap (Declaration.functionOf? name)

variable {env : Surroundings} {program : Program} {name : String}

/-- Under each name stands the last function that is declared under it. -/
theorem get?_helpersOf (ds : List Declaration) :
    Fields.get? (helpersOf env ds) name =
      (ds.filterMap (Declaration.functionOf? name)).getLast?.map (lowerFunction env) := by
  -- the table is written in order, so the induction takes the declarations from the end
  induction ds using List.reverseRecOn with
  | nil => rfl
  | append_singleton ds d ih =>
    rw [helpersOf, List.foldl_append, ← helpersOf, List.filterMap_append]
    cases d with
    | constant pattern init => simpa [Declaration.functionOf?] using ih
    | helper other f =>
      by_cases hname : other = name
      · subst hname
        simp [Declaration.functionOf?]
      · rw [List.foldl_cons, List.foldl_nil, Fields.get?_insert_of_ne (Ne.symm hname), ih]
        simp [Declaration.functionOf?, hname]

section Bodies

/-- Helper: the bodies of the factories of a name. -/
private def factoryBodies (name : String) (factories : List Factory) : List (List Script.Stmt) :=
  (factories.filter (·.name == name)).map (·.body)

/-- Helper: the bodies of the functions of a name that have one. -/
private def functionBodies (name : String) (ds : List Declaration) : List (List Script.Stmt) :=
  ((ds.filterMap (Declaration.functionOf? name)).filter (·.hasBody)).map (·.body)

private theorem factoryBodies_append (factories others : List Factory) :
    factoryBodies name (factories ++ others) =
      factoryBodies name factories ++ factoryBodies name others := by
  simp [factoryBodies]

private theorem functionBodies_append (ds others : List Declaration) :
    functionBodies name (ds ++ others) = functionBodies name ds ++ functionBodies name others := by
  simp [functionBodies]

variable (hname : Factory.isComponentName name = true)
include hname

private theorem factoryBodies_ofFunction? (other : String) (span : Text.Span)
    (f : Script.Function) :
    factoryBodies name (Factory.ofFunction? other span f).toList =
      functionBodies name [.helper other f] := by
  unfold Factory.ofFunction?
  by_cases hother : other = name
  · subst hother
    by_cases hbody : f.hasBody = true <;>
      simp [factoryBodies, functionBodies, Declaration.functionOf?, hname, hbody]
  · split <;> simp [factoryBodies, functionBodies, Declaration.functionOf?, hother]

private theorem factoryBodies_ofBinder? (binder : Script.Binder) :
    factoryBodies name (Factory.ofBinder? binder).toList =
      functionBodies name [Declaration.ofBinder binder] := by
  obtain ⟨span, rest, before, pattern, types, init⟩ := binder
  -- a candidate is a plain name that is bound to a function in either notation
  cases pattern with
  | name other =>
    cases init with
    | none => rfl
    | some e =>
      obtain ⟨place, form⟩ := e
      cases form with
      | arrow f => exact factoryBodies_ofFunction? hname other span f
      | function f => exact factoryBodies_ofFunction? hname other span f
      | _ => rfl
  | _ => rfl

private theorem factoryBodies_ofBinders (binders : List Script.Binder) :
    factoryBodies name (binders.filterMap Factory.ofBinder?) =
      functionBodies name (binders.map Declaration.ofBinder) := by
  induction binders with
  | nil => rfl
  | cons binder rest ih =>
    -- a variable gives one candidate or none
    have hfirst : (binder :: rest).filterMap Factory.ofBinder? =
        (Factory.ofBinder? binder).toList ++ rest.filterMap Factory.ofBinder? := by
      cases h : Factory.ofBinder? binder <;> simp [h]
    rw [hfirst, factoryBodies_append, factoryBodies_ofBinder? hname binder, ih,
      ← functionBodies_append]
    rfl

private theorem factoryBodies_ofStmt (stmt : Script.Stmt) :
    factoryBodies name (Factory.ofStmt stmt) =
      functionBodies name (Declaration.ofStmt stmt) := by
  cases stmt with
  | vars reach binders => exact factoryBodies_ofBinders hname binders
  | function f =>
    obtain ⟨span, declared, types, params, returns, hasBody, body⟩ := f
    cases declared with
    | none => rfl
    | some other => exact factoryBodies_ofFunction? hname other span _
  | _ => rfl

/-- The factories of a name are the functions of that name that have a body. -/
theorem bodies_ofProgram (program : Program) :
    ((Factory.ofProgram program).filter (·.name == name)).map (·.body) =
      ((functionsOf program name).filter (·.hasBody)).map (·.body) := by
  obtain ⟨stmts⟩ := program
  show factoryBodies name (stmts.flatMap Factory.ofStmt) =
    functionBodies name (stmts.flatMap Declaration.ofStmt)
  induction stmts with
  | nil => rfl
  | cons stmt rest ih =>
    rw [List.flatMap_cons, List.flatMap_cons, factoryBodies_append, functionBodies_append,
      factoryBodies_ofStmt hname stmt, ih]

end Bodies

/-- A factory has the name of a component. -/
theorem isComponentName_of_mem {factory : Factory} (h : factory ∈ Factory.ofProgram program) :
    Factory.isComponentName factory.name = true := by
  -- a function is a candidate only under the name of a component
  have hfunction : ∀ {other : String} {span : Text.Span} {f : Script.Function},
      factory ∈ Factory.ofFunction? other span f →
        Factory.isComponentName factory.name = true := by
    intro other span f hmem
    unfold Factory.ofFunction? at hmem
    split at hmem
    · next hname =>
      obtain rfl := Option.some.inj hmem
      exact (Bool.and_eq_true_iff.mp hname).2
    · cases hmem
  -- candidates come from declarations of functions and from variables, both of which go by the name
  obtain ⟨stmt, -, hstmt⟩ := List.mem_flatMap.mp h
  unfold Factory.ofStmt at hstmt
  split at hstmt
  · split at hstmt
    · exact hfunction (Option.mem_toList.mp hstmt)
    · cases hstmt
  · obtain ⟨binder, -, hbinder⟩ := List.mem_filterMap.mp hstmt
    unfold Factory.ofBinder? at hbinder
    split at hbinder
    · obtain ⟨f, -, hf⟩ := Option.bind_eq_some_iff.mp hbinder
      exact hfunction hf
    · cases hbinder
  · cases hstmt

/-! ## The factory of an accepted script -/

/-- The function that was checked: the only one with a body under the name of the factory. -/
theorem exists_checked_of_locateFactory {typeId source : String} {factory : Factory}
    (h : Validation.locateFactory (Factory.ofProgram program) typeId source = .ok factory) :
    ∃ checked, (functionsOf program factory.name).filter (·.hasBody) = [checked] ∧
      checked.body = factory.body := by
  have honly := Validation.filter_name_of_locateFactory h
  have hmem : factory ∈ Factory.ofProgram program :=
    (List.mem_filter.mp (honly ▸ List.mem_singleton_self _)).1
  have hbodies := bodies_ofProgram (isComponentName_of_mem hmem) program
  rw [honly, List.map_singleton] at hbodies
  obtain ⟨checked, hchecked, hbody⟩ := List.map_eq_singleton_iff.mp hbodies.symm
  exact ⟨checked, hchecked, hbody⟩

/-- If a function has a name, so has a last one, and only the last one with a body can be it. -/
theorem exists_last_of_checked {checked : Script.Function}
    (h : (functionsOf program name).filter (·.hasBody) = [checked]) :
    ∃ last, (functionsOf program name).getLast? = some last ∧
      (last = checked ↔ last.hasBody = true) := by
  have hchecked : checked ∈ (functionsOf program name).filter (·.hasBody) :=
    h ▸ List.mem_singleton_self _
  have hne : functionsOf program name ≠ [] :=
    List.ne_nil_of_mem (List.mem_filter.mp hchecked).1
  -- a last function with a body can only be the one that was checked
  refine ⟨_, List.getLast?_eq_some_getLast hne, ?_, fun hbody => ?_⟩
  · intro hlast
    rw [hlast]
    exact (List.mem_filter.mp hchecked).2
  · have hmem := List.mem_filter.mpr ⟨List.getLast_mem hne, hbody⟩
    exact List.mem_singleton.mp (h ▸ hmem)

/-- A script with a function of the name of its factory is lowered, and the last such function is
the factory. -/
theorem exists_ofProgram?_of_last {source typeId sourceHash : String} {scope : Scope}
    {capabilities : List String} {last : Script.Function}
    (h : (functionsOf program name).getLast? = some last) :
    ∃ b, ofProgram? program source scope typeId name capabilities sourceHash = some b ∧
      b.factory = lowerFunction (surroundings program source scope) last := by
  have hhelper : Fields.get? (helpersOf (surroundings program source scope) (declarations program))
      name = some (lowerFunction (surroundings program source scope) last) := by
    rw [get?_helpersOf, ← functionsOf, h, Option.map_some]
  exact ⟨_, ofProgram?_eq_some.mpr ⟨_, hhelper, rfl⟩, rfl⟩

/-- Lowering succeeds on every script that validation accepts.  The factory of the blueprint is the
last function that is declared under the name that validation found.  Of the functions of that name
only the one that was checked has a body: it is the last one unless a declaration without a body
follows, and then the factory returns markup. -/
theorem factory_of_validate {typeId source : String} {scope : Scope} {validated : Validated}
    (h : validate program source typeId scope = .ok validated) (sourceHash : String) :
    ∃ b checked last span,
      ofProgram? program source scope (TypeId.canonical typeId) validated.factoryName
        validated.capabilities sourceHash = some b ∧
      Validation.locateFactory (Factory.ofProgram program) typeId source =
        .ok ⟨validated.factoryName, span, checked.body⟩ ∧
      (functionsOf program validated.factoryName).filter (·.hasBody) = [checked] ∧
      (functionsOf program validated.factoryName).getLast? = some last ∧
      b.factory = lowerFunction (surroundings program source scope) last ∧
      (last = checked ↔ last.hasBody = true) ∧
      (last = checked → Stmt.anyReturnsMarkup b.factory.body = true) := by
  obtain ⟨factory, hlocate, hmarkup, rfl⟩ := exists_factory_of_validate h
  obtain ⟨checked, honly, hbody⟩ := exists_checked_of_locateFactory hlocate
  obtain ⟨last, hlast, hiff⟩ := exists_last_of_checked honly
  obtain ⟨b, hprogram, hfactory⟩ := exists_ofProgram?_of_last hlast
  refine ⟨b, checked, last, factory.span, hprogram, hbody ▸ hlocate, honly, hlast, hfactory, hiff,
    fun hsame => ?_⟩
  rw [hfactory, body_lowerFunction, hsame, hbody]
  exact anyReturnsMarkup_lowerStmts _ hmarkup

/-- A component whose type is declared in front of it. -/
def declaredSource : String :=
  "function Card(): any;
   function Card() \x7b if (1) return <i/>; \x7d"

/-- The component is the last function of its name, so its blueprint returns markup. -/
theorem factory_of_declared :
    ∃ program validated b, Program.read declaredSource = .ok program ∧
      validate program declaredSource "card" [] = .ok validated ∧
      ofProgram? program declaredSource [] "Card" validated.factoryName validated.capabilities "" =
        some b ∧
      Stmt.anyReturnsMarkup b.factory.body = true := by
  -- reading and checking are evaluated at once, and what they gave is taken from the one result
  have hrun : ((Program.read declaredSource).mapError (fun _ => ()) >>= fun program =>
      (validate program declaredSource "card" []).mapError (fun _ => ()) >>= fun validated =>
        pure ((functionsOf program validated.factoryName).getLast?.map (·.hasBody))) =
      .ok (some true) := by decide +kernel
  obtain ⟨program, hread, hrun⟩ := bind_eq_ok.mp hrun
  obtain ⟨validated, hvalidate, hrun⟩ := bind_eq_ok.mp hrun
  rw [mapError_eq_ok] at hread hvalidate
  obtain ⟨found, hfound, hbody⟩ := Option.map_eq_some_iff.mp (pure_eq_ok.mp hrun)
  obtain ⟨b, checked, last, -, hprogram, -, -, hlast, -, hiff, hmarkup⟩ :=
    factory_of_validate hvalidate ""
  obtain rfl := Option.some.inj (hlast.symm.trans hfound)
  exact ⟨program, validated, b, hread, hvalidate, hprogram, hmarkup (hiff.mpr hbody)⟩

/-- A component whose type is declared behind it. -/
def overloadedSource : String :=
  "function Card() \x7b return <i/>; \x7d
   function Card(): any;"

/-- The component passes validation, but the factory of its blueprint is not the lowered function:
it is the declaration, which returns nothing. -/
theorem factory_of_overloaded :
    ∃ program validated b checked, Program.read overloadedSource = .ok program ∧
      validate program overloadedSource "Card" [] = .ok validated ∧
      ofProgram? program overloadedSource [] "Card" validated.factoryName validated.capabilities
        "" = some b ∧
      (functionsOf program validated.factoryName).filter (·.hasBody) = [checked] ∧
      b.factory ≠ lowerFunction (surroundings program overloadedSource []) checked ∧
      Stmt.anyReturnsMarkup b.factory.body = false := by
  -- one evaluation tells whether either function returns markup
  have hrun : ((Program.read overloadedSource).mapError (fun _ => ()) >>= fun program =>
      (validate program overloadedSource "Card" []).mapError (fun _ => ()) >>= fun validated =>
        pure ((ofProgram? program overloadedSource [] "Card" validated.factoryName
            validated.capabilities "").map fun b => Stmt.anyReturnsMarkup b.factory.body,
          ((functionsOf program validated.factoryName).filter (·.hasBody)).map fun f =>
            Stmt.anyReturnsMarkup
              (lowerFunction (surroundings program overloadedSource []) f).body)) =
      .ok (some false, [true]) := by decide +kernel
  obtain ⟨program, hread, hrun⟩ := bind_eq_ok.mp hrun
  obtain ⟨validated, hvalidate, hrun⟩ := bind_eq_ok.mp hrun
  rw [mapError_eq_ok] at hread hvalidate
  obtain ⟨hlowered, hchecked⟩ := Prod.mk.inj (pure_eq_ok.mp hrun)
  obtain ⟨b, hprogram, hmarkup⟩ := Option.map_eq_some_iff.mp hlowered
  obtain ⟨checked, honly, hreturns⟩ := List.map_eq_singleton_iff.mp hchecked
  refine ⟨program, validated, b, checked, hread, hvalidate, hprogram, honly, fun heq => ?_, hmarkup⟩
  -- the two functions differ, since only the one that was checked returns markup
  rw [heq, hreturns] at hmarkup
  cases hmarkup

/-! ## Compilation -/

/-- A source that is turned down has itself to blame, as what validation accepts is lowered. -/
theorem blamesSource_compile {typeId source : String} {scope : Scope} :
    BlamesSource (compile typeId source scope) := by
  unfold compile
  dsimp only
  split
  · exact .error not_false
  split
  · exact .error not_false
  -- an empty type and an empty source are faults of what is given
  refine .bind ?_ fun program _ => .bind blamesSource_validate fun validated hvalidated => ?_
  · cases Program.read (Payload.stripFence source) with
    | error e => exact .error not_false
    | ok program => exact .ok
  -- after the checks lowering cannot fail: the name of the factory is that of a declared function
  · split
    · exact .ok
    · next hnone =>
      obtain ⟨factory, hlocate, -, rfl⟩ := exists_factory_of_validate hvalidated
      obtain ⟨checked, honly, -⟩ := exists_checked_of_locateFactory hlocate
      obtain ⟨last, hlast, -⟩ := exists_last_of_checked honly
      obtain ⟨b, hprogram, -⟩ := exists_ofProgram?_of_last hlast
      rw [hnone] at hprogram
      cases hprogram

end ComponentCanvas.Blueprint
