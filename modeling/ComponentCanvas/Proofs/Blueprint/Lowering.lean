import ComponentCanvas.Blueprint.Lowering
import ComponentCanvas.Proofs.Blueprint.Policy

/-!
# Tags of Lowered Scripts

Lowering gives every element the kind that its tag has in the script as a whole.  What it leaves
out, it leaves out with everything in it, so a policy that permits each tag with that kind permits
all code that lowering makes.  It is enough that the policy permits the tags whose mentions are
among those of the script.
-/

namespace ComponentCanvas.Blueprint

/-! ## Lists of code -/

theorem Expr.written_toNode (e : Expr) : e.toNode.written = e.written := by
  cases e <;> rfl

theorem Stmt.listWritten_append (stmts others : List Stmt) :
    Stmt.listWritten (stmts ++ others) = Stmt.listWritten stmts ++ Stmt.listWritten others := by
  induction stmts with
  | nil => rfl
  | cons stmt rest ih => rw [List.cons_append, listWritten, listWritten, ih, List.append_assoc]

theorem Node.listWritten_append (nodes others : List Node) :
    Node.listWritten (nodes ++ others) = Node.listWritten nodes ++ Node.listWritten others := by
  induction nodes with
  | nil => rfl
  | cons node rest ih => rw [List.cons_append, listWritten, listWritten, ih, List.append_assoc]

theorem Node.listWritten_text (text? : Option String) :
    Node.listWritten (text?.toList.map Node.text) = [] := by
  cases text? <;> rfl

/-! ## Expressions, patterns and statements -/

section Lowering

variable {p : Policy} {env : Surroundings} {mentions : List Script.Mention}
  (hp : ∀ tag : Script.TagName, tag.mentions ⊆ mentions →
    p.tag ⟨tagText tag, env.tagKind (tagText tag)⟩)
include hp

-- the tags are used where an element is lowered, and handed on by all the others
set_option linter.unusedSectionVars false

mutual

/-- An expression is lowered to code that writes no tags but those among its mentions.  The
recursion is over the syntax tree, for every kind of node at once. -/
theorem permits_lowerExpr : (e : Script.Expr) → e.mentions ⊆ mentions →
    p.Permits (lowerExpr env e).written
  | .mk _ .null, _ | .mk _ (.bool _), _ | .mk _ (.number _ _), _ | .mk _ (.string _), _ =>
    Policy.permits_nil
  | .mk _ (.name name), _ => by
    rw [lowerExpr]
    split <;> exact Policy.permits_nil
  | .mk _ (.template quasis exprs), h => by
    rw [Script.Expr.mentions, Script.ExprForm.mentions] at h
    rw [lowerExpr, Expr.written]
    exact permits_lowerArguments exprs h
  | .mk _ (.array items), h => by
    rw [Script.Expr.mentions, Script.ExprForm.mentions] at h
    rw [lowerExpr, Expr.written]
    exact permits_lowerItems items h
  | .mk _ (.object members), h => by
    rw [Script.Expr.mentions, Script.ExprForm.mentions] at h
    rw [lowerExpr, Expr.written]
    exact permits_lowerMembers members h
  | .mk _ (.function f), h | .mk _ (.arrow f), h => by
    rw [Script.Expr.mentions, Script.ExprForm.mentions] at h
    rw [lowerExpr, Expr.written]
    exact permits_lowerFunction f h
  | .mk _ (.member object key), h => by
    rw [Script.Expr.mentions, Script.ExprForm.mentions, List.append_subset] at h
    rw [lowerExpr, Expr.written, Policy.permits_append]
    exact ⟨permits_lowerExpr object h.1, permits_lowerExpr key h.2⟩
  -- arguments of types are mentioned but leave nothing behind
  | .mk _ (.call callee _ args), h => by
    rw [Script.Expr.mentions, Script.ExprForm.mentions, List.append_subset,
      List.append_subset] at h
    rw [lowerExpr, Expr.written, Policy.permits_append]
    exact ⟨permits_lowerExpr callee h.1.1, permits_lowerArguments args h.2⟩
  -- a form that rendering has no reading for leaves no code, and no tag either
  | .mk _ (.chain e), h => by
    rw [Script.Expr.mentions, Script.ExprForm.mentions] at h
    rw [lowerExpr]
    split
    · exact permits_lowerExpr e h
    · exact Policy.permits_nil
  | .mk _ (.unary op e), h => by
    rw [Script.Expr.mentions, Script.ExprForm.mentions] at h
    rw [lowerExpr]
    split
    · exact permits_lowerExpr e h
    · exact Policy.permits_nil
  | .mk _ (.binary op left right), h => by
    rw [Script.Expr.mentions, Script.ExprForm.mentions, List.append_subset] at h
    rw [lowerExpr]
    split
    · rw [Expr.written, Policy.permits_append]
      exact ⟨permits_lowerExpr left h.1, permits_lowerExpr right h.2⟩
    · exact Policy.permits_nil
  | .mk _ (.logical op left right), h => by
    rw [Script.Expr.mentions, Script.ExprForm.mentions, List.append_subset] at h
    rw [lowerExpr, Expr.written, Policy.permits_append]
    exact ⟨permits_lowerExpr left h.1, permits_lowerExpr right h.2⟩
  | .mk _ (.conditional test consequent alternate), h => by
    rw [Script.Expr.mentions, Script.ExprForm.mentions, List.append_subset,
      List.append_subset] at h
    rw [lowerExpr, Expr.written, Policy.permits_append, Policy.permits_append]
    exact ⟨permits_lowerExpr test h.1.1, permits_lowerExpr consequent h.1.2,
      permits_lowerExpr alternate h.2⟩
  | .mk _ (.paren e), h => by
    rw [Script.Expr.mentions, Script.ExprForm.mentions] at h
    rw [lowerExpr]
    exact permits_lowerExpr e h
  | .mk _ (.assertion _ e _), h => by
    rw [Script.Expr.mentions, Script.ExprForm.mentions, List.append_subset] at h
    rw [lowerExpr]
    exact permits_lowerExpr e h.1
  | .mk _ (.element tag _ attributes children), h => by
    rw [Script.Expr.mentions, Script.ExprForm.mentions, List.append_subset, List.append_subset,
      List.append_subset] at h
    obtain ⟨⟨⟨htag, -⟩, hattributes⟩, hchildren⟩ := h
    have hnodes := permits_lowerChildren children hchildren
    rw [lowerExpr]
    split
    · exact hnodes
    · -- the only case that writes a tag
      rw [Expr.written, Node.written, Policy.permits_cons, Policy.permits_append]
      exact ⟨hp tag htag, permits_lowerAttributes attributes hattributes, hnodes⟩
  | .mk _ (.fragment children), h => by
    rw [Script.Expr.mentions, Script.ExprForm.mentions] at h
    rw [lowerExpr, Expr.written, Node.written]
    exact permits_lowerChildren children h
  | .mk _ (.other _ _), _ => Policy.permits_nil

/-- The items of a list. -/
theorem permits_lowerItems : (items : List Script.Item) →
    Script.Item.listMentions items ⊆ mentions →
    p.Permits (Item.listWritten (lowerItems env items))
  | [], _ => Policy.permits_nil
  | .value e :: rest, h | .spread _ e :: rest, h | .markup e :: rest, h => by
    rw [Script.Item.listMentions, Script.Item.mentions, List.append_subset] at h
    rw [lowerItems, Item.listWritten, Policy.permits_append]
    exact ⟨permits_lowerExpr e h.1, permits_lowerItems rest h.2⟩
  -- what stands for a missing item writes no tag
  | .hole :: rest, h | .text _ :: rest, h => by
    rw [Script.Item.listMentions, List.append_subset] at h
    rw [lowerItems, Item.listWritten, Expr.written]
    exact permits_lowerItems rest h.2

/-- The arguments of a call, of which those that are spread leave no code. -/
theorem permits_lowerArguments : (items : List Script.Item) →
    Script.Item.listMentions items ⊆ mentions →
    p.Permits (Expr.listWritten (lowerArguments env items))
  | [], _ => Policy.permits_nil
  | .value e :: rest, h | .markup e :: rest, h => by
    rw [Script.Item.listMentions, Script.Item.mentions, List.append_subset] at h
    rw [lowerArguments, Expr.listWritten, Policy.permits_append]
    exact ⟨permits_lowerExpr e h.1, permits_lowerArguments rest h.2⟩
  | .spread _ _ :: rest, h | .hole :: rest, h | .text _ :: rest, h => by
    rw [Script.Item.listMentions, List.append_subset] at h
    rw [lowerArguments, Expr.listWritten, Expr.written]
    exact permits_lowerArguments rest h.2

/-- The members of an object, of which those under a computed name leave no code. -/
theorem permits_lowerMembers : (members : List Script.Member) →
    Script.Member.listMentions members ⊆ mentions →
    p.Permits (Entry.listWritten (lowerMembers env members))
  | [], _ => Policy.permits_nil
  -- a member is left out, with all that it writes, unless its name is known
  | .field computed key value :: rest, h => by
    rw [Script.Member.listMentions, Script.Member.mentions, List.append_subset,
      List.append_subset] at h
    have hrest := permits_lowerMembers rest h.2
    unfold lowerMembers
    split
    · rw [Entry.listWritten, Policy.permits_append]
      exact ⟨permits_lowerExpr value h.1.2, hrest⟩
    · exact hrest
  | .method computed key f :: rest, h => by
    rw [Script.Member.listMentions, Script.Member.mentions, List.append_subset,
      List.append_subset] at h
    have hrest := permits_lowerMembers rest h.2
    unfold lowerMembers
    split
    · rw [Entry.listWritten, Policy.permits_append, Expr.written]
      exact ⟨permits_lowerFunction f h.1.2, hrest⟩
    · exact hrest
  | .spread e :: rest, h => by
    rw [Script.Member.listMentions, Script.Member.mentions, List.append_subset] at h
    rw [lowerMembers, Entry.listWritten, Policy.permits_append]
    exact ⟨permits_lowerExpr e h.1, permits_lowerMembers rest h.2⟩
  -- members without a value of their own are left out
  | .hollow _ :: rest, h | .defaulted _ _ :: rest, h => by
    rw [Script.Member.listMentions, List.append_subset] at h
    rw [lowerMembers]
    exact permits_lowerMembers rest h.2

/-- The attributes of an element. -/
theorem permits_lowerAttributes : (members : List Script.Member) →
    Script.Member.listMentions members ⊆ mentions →
    p.Permits (Entry.listWritten (lowerAttributes env members))
  | [], _ => Policy.permits_nil
  -- an attribute is left out unless its name is known
  | .field _ key value :: rest, h => by
    rw [Script.Member.listMentions, Script.Member.mentions, List.append_subset,
      List.append_subset] at h
    have hrest := permits_lowerAttributes rest h.2
    rw [lowerAttributes]
    split
    · rw [Entry.listWritten, Policy.permits_append]
      exact ⟨permits_lowerExpr value h.1.2, hrest⟩
    · exact hrest
  | .spread e :: rest, h => by
    rw [Script.Member.listMentions, Script.Member.mentions, List.append_subset] at h
    rw [lowerAttributes, Entry.listWritten, Policy.permits_append]
    exact ⟨permits_lowerExpr e h.1, permits_lowerAttributes rest h.2⟩
  -- an attribute without a value stands for a truth value
  | .hollow _ :: rest, h => by
    rw [Script.Member.listMentions, List.append_subset] at h
    rw [lowerAttributes, Entry.listWritten, Expr.written]
    exact permits_lowerAttributes rest h.2
  | .method _ _ _ :: rest, h | .defaulted _ _ :: rest, h => by
    rw [Script.Member.listMentions, List.append_subset] at h
    rw [lowerAttributes]
    exact permits_lowerAttributes rest h.2

/-- The children of an element or a fragment. -/
theorem permits_lowerChildren : (items : List Script.Item) →
    Script.Item.listMentions items ⊆ mentions →
    p.Permits (Node.listWritten (lowerChildren env items))
  | [], _ => Policy.permits_nil
  | .value e :: rest, h | .spread _ e :: rest, h => by
    rw [Script.Item.listMentions, Script.Item.mentions, List.append_subset] at h
    rw [lowerChildren, Node.listWritten, Node.written, Policy.permits_append]
    exact ⟨permits_lowerExpr e h.1, permits_lowerChildren rest h.2⟩
  -- an element among the children is taken as it is, any other expression is shown by its value
  | .markup e :: rest, h => by
    rw [Script.Item.listMentions, Script.Item.mentions, List.append_subset] at h
    rw [lowerChildren, Node.listWritten, Expr.written_toNode, Policy.permits_append]
    exact ⟨permits_lowerExpr e h.1, permits_lowerChildren rest h.2⟩
  | .hole :: rest, h => by
    rw [Script.Item.listMentions, List.append_subset] at h
    rw [lowerChildren]
    exact permits_lowerChildren rest h.2
  | .text raw :: rest, h => by
    rw [Script.Item.listMentions, List.append_subset] at h
    rw [lowerChildren, Node.listWritten_append, Node.listWritten_text]
    exact permits_lowerChildren rest h.2

theorem permits_lowerFunction : (f : Script.Function) → f.mentions ⊆ mentions →
    p.Permits (lowerFunction env f).written
  | .mk span _ _ params _ _ body, h => by
    rw [Script.Function.mentions, List.append_subset, List.append_subset, List.append_subset] at h
    obtain ⟨⟨⟨-, hparams⟩, -⟩, hbody⟩ := h
    rw [lowerFunction, Function.written, Policy.permits_append]
    exact ⟨permits_lowerParams params hparams, permits_lowerStmts body hbody⟩

/-- The parameters of a function, whose defaults become part of their patterns. -/
theorem permits_lowerParams : (params : List Script.Binder) →
    Script.Binder.listMentions params ⊆ mentions →
    p.Permits (Pattern.listWritten (lowerParams env params))
  | [], _ => Policy.permits_nil
  | .mk _ rest _ pattern _ init :: more, h => by
    have hpattern : pattern.mentions ⊆ mentions := by
      cases init <;> simp_all [Script.Binder.listMentions, Script.Binder.mentions]
    rw [Script.Binder.listMentions, List.append_subset] at h
    have hmore := permits_lowerParams more h.2
    rw [lowerParams]
    split
    · exact hmore
    · rw [Pattern.listWritten, Policy.permits_append]
      exact ⟨permits_lowerPattern pattern hpattern, hmore⟩

/-- A pattern, with the defaults in it. -/
theorem permits_lowerPattern : (pattern : Script.Pattern) → pattern.mentions ⊆ mentions →
    p.Permits (lowerPattern env pattern).written
  | .name name, _ => Policy.permits_nil
  | .object items, h | .array items, h => by
    rw [Script.Pattern.mentions] at h
    rw [lowerPattern, Pattern.written]
    exact permits_lowerSlots items h
  -- the default may hold markup of its own
  | .withDefault pattern default, h => by
    rw [Script.Pattern.mentions, List.append_subset] at h
    rw [lowerPattern, Pattern.written, Policy.permits_append]
    exact ⟨permits_lowerPattern pattern h.1, permits_lowerExpr default h.2⟩

/-- The items of a pattern. -/
theorem permits_lowerSlots : (items : List Script.PatternItem) →
    Script.PatternItem.listMentions items ⊆ mentions →
    p.Permits (Slot.listWritten (lowerSlots env items))
  | [], _ => Policy.permits_nil
  -- a field under a computed name is left out with all that it would bind
  | .field key value :: rest, h => by
    rw [Script.PatternItem.listMentions, Script.PatternItem.mentions, List.append_subset,
      List.append_subset] at h
    have hrest := permits_lowerSlots rest h.2
    rw [lowerSlots]
    split
    · rw [Slot.listWritten, Policy.permits_append]
      exact ⟨permits_lowerPattern value h.1.2, hrest⟩
    · exact hrest
  | .element value :: rest, h => by
    rw [Script.PatternItem.listMentions, Script.PatternItem.mentions, List.append_subset] at h
    rw [lowerSlots, Slot.listWritten, Policy.permits_append]
    exact ⟨permits_lowerPattern value h.1, permits_lowerSlots rest h.2⟩
  | .hole :: rest, h => by
    rw [Script.PatternItem.listMentions, List.append_subset] at h
    rw [lowerSlots, Slot.listWritten]
    exact permits_lowerSlots rest h.2
  -- what is left over is bound by the pattern around it, under a plain name
  | .rest _ :: rest, h => by
    rw [Script.PatternItem.listMentions, List.append_subset] at h
    rw [lowerSlots]
    exact permits_lowerSlots rest h.2

/-- The variables of a declaration. -/
theorem permits_lowerVariables : (binders : List Script.Binder) →
    Script.Binder.listMentions binders ⊆ mentions →
    p.Permits (Stmt.listWritten (lowerVariables env binders))
  | [], _ => Policy.permits_nil
  | .mk _ _ _ pattern _ none :: more, h => by
    rw [Script.Binder.listMentions, Script.Binder.mentions, List.append_subset, List.append_subset,
      List.append_subset] at h
    obtain ⟨⟨⟨-, hpattern⟩, -⟩, hmore⟩ := h
    rw [lowerVariables, Stmt.listWritten, Stmt.written, Policy.permits_append]
    exact ⟨permits_lowerPattern pattern hpattern, permits_lowerVariables more hmore⟩
  -- decorators and types are mentioned and leave nothing behind
  | .mk _ _ _ pattern _ (some e) :: more, h => by
    rw [Script.Binder.listMentions, Script.Binder.mentions, List.append_subset, List.append_subset,
      List.append_subset, List.append_subset] at h
    obtain ⟨⟨⟨⟨-, hpattern⟩, -⟩, he⟩, hmore⟩ := h
    rw [lowerVariables, Stmt.listWritten, Stmt.written, Policy.permits_append,
      Policy.permits_append]
    exact ⟨⟨permits_lowerPattern pattern hpattern, permits_lowerExpr e he⟩,
      permits_lowerVariables more hmore⟩

/-- A statement. -/
theorem permits_lowerStmt : (stmt : Script.Stmt) → stmt.mentions ⊆ mentions →
    p.Permits (Stmt.listWritten (lowerStmt env stmt))
  | .vars _ binders, h => by
    rw [Script.Stmt.mentions] at h
    rw [lowerStmt]
    exact permits_lowerVariables binders h
  -- a declaration becomes the binding of a function to its name
  | .function f, h => by
    rw [Script.Stmt.mentions] at h
    have hf := permits_lowerFunction f h
    rw [lowerStmt]
    split
    · simpa [Stmt.listWritten, Stmt.written, Pattern.written, Expr.written] using hf
    · exact Policy.permits_nil
  -- a block leaves its statements in a row
  | .block stmts, h => by
    rw [Script.Stmt.mentions] at h
    rw [lowerStmt]
    exact permits_lowerStmts stmts h
  | .cond test consequent alternate, h => by
    rw [Script.Stmt.mentions, List.append_subset, List.append_subset] at h
    have htest := permits_lowerExpr test h.1.1
    have hconsequent := permits_lowerStmt consequent h.1.2
    have halternate := permits_lowerStmt alternate h.2
    simp [lowerStmt, Stmt.listWritten, Stmt.written, htest, hconsequent, halternate]
  | .ret (some e), h => by
    rw [Script.Stmt.mentions] at h
    simpa [lowerStmt, Stmt.listWritten, Stmt.written] using permits_lowerExpr e h
  | .ret none, _ | .expression _ _, _ | .empty, _ | .moduleItem _ _ _, _ | .notes _, _
  | .other _ _, _ => Policy.permits_nil

/-- Statements in a row. -/
theorem permits_lowerStmts : (stmts : List Script.Stmt) →
    Script.Stmt.listMentions stmts ⊆ mentions →
    p.Permits (Stmt.listWritten (lowerStmts env stmts))
  | [], _ => Policy.permits_nil
  | stmt :: rest, h => by
    rw [Script.Stmt.listMentions, List.append_subset] at h
    rw [lowerStmts, Stmt.listWritten_append, Policy.permits_append]
    exact ⟨permits_lowerStmt stmt h.1, permits_lowerStmts rest h.2⟩

end

end Lowering

end ComponentCanvas.Blueprint
