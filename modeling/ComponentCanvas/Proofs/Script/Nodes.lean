import ComponentCanvas.Script.Mentions
import Mathlib.Data.List.Basic

/-!
# Nodes of a Script

Every piece of syntax is a node with nodes directly below it, and some nodes mention something
themselves.  The mentions of a node are those of the nodes within it, at any depth: the walk over
the syntax leaves nothing out and adds nothing.
-/

namespace ComponentCanvas.Script

/-- A piece of the syntax of a script. -/
inductive Node where
  | expr (e : Expr)
  | item (i : Item)
  | member (m : Member)
  | function (f : Function)
  | binder (b : Binder)
  | pattern (p : Pattern)
  | patternItem (i : PatternItem)
  | stmt (s : Stmt)

/-! ## One level -/

/-- The nodes directly below a form of an expression. -/
def ExprForm.children : ExprForm → List Node
  | .null | .bool _ | .number _ _ | .string _ | .name _ => []
  | .template _ exprs => exprs.map .item
  | .array items | .fragment items => items.map .item
  | .object members => members.map .member
  | .function f | .arrow f => [.function f]
  | .member obj key => [.expr obj, .expr key]
  | .call callee _ args => .expr callee :: args.map .item
  | .chain e | .unary _ e | .paren e | .assertion _ e _ => [.expr e]
  | .binary _ left right | .logical _ left right => [.expr left, .expr right]
  | .conditional test consequent alternate => [.expr test, .expr consequent, .expr alternate]
  | .element _ _ attributes items => attributes.map .member ++ items.map .item
  | .other _ parts => parts.map .stmt

/-- What a form of an expression that stands at a span mentions itself. -/
def ExprForm.own (span : Text.Span) : ExprForm → List Mention
  | .name n => [.reference n span]
  | .call _ types _ | .assertion _ _ types => types
  | .element tag types _ _ => tag.mentions ++ types
  | .other .dynamicImport _ => [.dynamicImport span]
  | _ => []

/-- The nodes directly below a node. -/
def Node.children : Node → List Node
  | .expr (.mk _ form) => form.children
  | .item (.value e) | .item (.spread _ e) | .item (.markup e) => [.expr e]
  | .item .hole | .item (.text _) => []
  | .member (.field _ key value) | .member (.defaulted key value) => [.expr key, .expr value]
  | .member (.method _ key f) => [.expr key, .function f]
  | .member (.spread e) => [.expr e]
  | .member (.hollow _) => []
  | .function (.mk _ _ _ params _ _ body) => params.map .binder ++ body.map .stmt
  | .binder (.mk _ _ decorators p _ init) =>
    decorators.map .stmt ++ .pattern p :: init.toList.map .expr
  | .pattern (.name _) => []
  | .pattern (.object items) | .pattern (.array items) => items.map .patternItem
  | .pattern (.withDefault p value) => [.pattern p, .expr value]
  | .patternItem (.field key p) => [.expr key, .pattern p]
  | .patternItem (.element p) | .patternItem (.rest p) => [.pattern p]
  | .patternItem .hole => []
  | .stmt (.vars _ binders) => binders.map .binder
  | .stmt (.function f) => [.function f]
  | .stmt (.expression _ e) => [.expr e]
  | .stmt (.block stmts) => stmts.map .stmt
  | .stmt .empty | .stmt (.notes _) => []
  | .stmt (.cond test consequent alternate) => [.expr test, .stmt consequent, .stmt alternate]
  | .stmt (.ret e) => e.toList.map .expr
  | .stmt (.moduleItem _ _ parts) | .stmt (.other _ parts) => parts.map .stmt

/-- What a node mentions itself, apart from what the nodes below it do. -/
def Node.own : Node → List Mention
  | .expr (.mk span form) => form.own span
  | .function (.mk _ n types _ returns _ _) => n.toList.map .binding ++ types ++ returns
  | .binder (.mk _ _ _ _ types _) => types
  | .pattern (.name n) => [.binding n]
  | .stmt (.notes mentions) => mentions
  | .item _ | .member _ | .pattern _ | .patternItem _ | .stmt _ => []

/-- The mentions of a node. -/
def Node.mentions : Node → List Mention
  | .expr e => e.mentions
  | .item i => i.mentions
  | .member m => m.mentions
  | .function f => f.mentions
  | .binder b => b.mentions
  | .pattern p => p.mentions
  | .patternItem i => i.mentions
  | .stmt s => s.mentions

section Lists

variable {m : Mention}

/-- Helper: what is collected of a list is collected of one of its items. -/
private theorem mem_collected {α : Type} {each : α → List Mention} {all : List α → List Mention}
    (hnil : all [] = []) (hcons : ∀ a rest, all (a :: rest) = each a ++ all rest) (list : List α) :
    m ∈ all list ↔ ∃ a ∈ list, m ∈ each a := by
  induction list with
  | nil => simp [hnil]
  | cons a rest ih => simp [hcons, ih]

theorem Item.mem_listMentions {items : List Item} :
    m ∈ Item.listMentions items ↔ ∃ item ∈ items, m ∈ item.mentions :=
  mem_collected rfl (fun _ _ => rfl) items

theorem Member.mem_listMentions {members : List Member} :
    m ∈ Member.listMentions members ↔ ∃ member ∈ members, m ∈ member.mentions :=
  mem_collected rfl (fun _ _ => rfl) members

theorem Binder.mem_listMentions {binders : List Binder} :
    m ∈ Binder.listMentions binders ↔ ∃ binder ∈ binders, m ∈ binder.mentions :=
  mem_collected rfl (fun _ _ => rfl) binders

theorem PatternItem.mem_listMentions {items : List PatternItem} :
    m ∈ PatternItem.listMentions items ↔ ∃ item ∈ items, m ∈ item.mentions :=
  mem_collected rfl (fun _ _ => rfl) items

theorem Stmt.mem_listMentions {stmts : List Stmt} :
    m ∈ Stmt.listMentions stmts ↔ ∃ stmt ∈ stmts, m ∈ stmt.mentions :=
  mem_collected rfl (fun _ _ => rfl) stmts

end Lists

namespace Node

variable {m : Mention}

section Mentions

@[simp]
theorem mentions_expr (e : Expr) : (expr e).mentions = e.mentions := rfl

@[simp]
theorem mentions_item (i : Item) : (item i).mentions = i.mentions := rfl

@[simp]
theorem mentions_member (m : Member) : (member m).mentions = m.mentions := rfl

@[simp]
theorem mentions_function (f : Function) : (function f).mentions = f.mentions := rfl

@[simp]
theorem mentions_binder (b : Binder) : (binder b).mentions = b.mentions := rfl

@[simp]
theorem mentions_pattern (p : Pattern) : (pattern p).mentions = p.mentions := rfl

@[simp]
theorem mentions_patternItem (i : PatternItem) : (patternItem i).mentions = i.mentions := rfl

@[simp]
theorem mentions_stmt (s : Stmt) : (stmt s).mentions = s.mentions := rfl

end Mentions

private theorem mem_mentions_expr (span : Text.Span) (form : ExprForm) :
    m ∈ form.mentions span ↔
      m ∈ form.own span ∨ ∃ child ∈ form.children, m ∈ child.mentions := by
  cases form
  -- of the other forms one is a mention itself, so these are told apart as well
  case other form parts =>
    cases form <;>
      simp [ExprForm.mentions, ExprForm.own, ExprForm.children, Stmt.mem_listMentions]
  all_goals
    simp [ExprForm.mentions, ExprForm.own, ExprForm.children, Item.mem_listMentions,
      Member.mem_listMentions, or_and_right, exists_or, or_assoc, or_left_comm, or_comm]

/-- A node mentions what it mentions itself and what the nodes directly below it mention. -/
theorem mem_mentions (node : Node) :
    m ∈ node.mentions ↔ m ∈ node.own ∨ ∃ child ∈ node.children, m ∈ child.mentions := by
  cases node with
  | expr e =>
    obtain ⟨span, form⟩ := e
    exact mem_mentions_expr span form
  | item i => cases i <;> simp [own, children, Item.mentions]
  | member i => cases i <;> simp [own, children, Member.mentions]
  -- the parts are listed in another order than their mentions
  | function f =>
    obtain ⟨_, n, types, params, returns, _, body⟩ := f
    simp [own, children, Function.mentions, Binder.mem_listMentions,
      Stmt.mem_listMentions, or_and_right, exists_or, or_assoc, or_left_comm, or_comm]
  | binder b =>
    obtain ⟨_, _, decorators, p, types, init⟩ := b
    cases init <;>
      simp [own, children, Binder.mentions, Stmt.mem_listMentions, or_and_right, exists_or,
        or_assoc, or_comm]
  | pattern p => cases p <;> simp [own, children, Pattern.mentions, PatternItem.mem_listMentions]
  | patternItem i => cases i <;> simp [own, children, PatternItem.mentions]
  | stmt s =>
    cases s
    -- what is returned may be missing
    case ret e =>
      cases e <;> simp [own, children, Stmt.mentions]
    all_goals
      simp [own, children, Stmt.mentions, Binder.mem_listMentions, Stmt.mem_listMentions]

/-- A node directly below another one is smaller. -/
theorem sizeOf_lt_of_mem_children {node : Node} :
    ∀ child ∈ node.children, sizeOf child < sizeOf node := by
  intro child hchild
  -- a child that comes from a list of pieces is smaller than the list
  cases node with
  | expr e =>
    obtain ⟨span, form⟩ := e
    cases form <;> grind [children, ExprForm.children, → List.sizeOf_lt_of_mem]
  | item i => cases i <;> grind [children]
  | member i => cases i <;> grind [children]
  | function f =>
    obtain ⟨_, n, types, params, returns, _, body⟩ := f
    grind [children, → List.sizeOf_lt_of_mem]
  | binder b =>
    obtain ⟨_, _, decorators, p, types, init⟩ := b
    cases init <;> grind [children, → List.sizeOf_lt_of_mem]
  | pattern p => cases p <;> grind [children, → List.sizeOf_lt_of_mem]
  | patternItem i => cases i <;> grind [children]
  | stmt s =>
    cases s
    case ret e => cases e <;> grind [children]
    all_goals grind [children, → List.sizeOf_lt_of_mem]

/-- Induction on the syntax: what holds of a node if it holds of the nodes directly below it holds
of every node. -/
@[elab_as_elim]
theorem below_induction {motive : Node → Prop}
    (step : ∀ node, (∀ child ∈ node.children, motive child) → motive node) (node : Node) :
    motive node :=
  step node fun child _ => below_induction step child
termination_by node
decreasing_by exact sizeOf_lt_of_mem_children child ‹_›

end Node

/-! ## Any depth -/

/-- Whether a node occurs in another one, at any depth. -/
inductive Node.Within (inner : Node) : Node → Prop
  | here : Within inner inner
  | deeper {child outer : Node} (hchild : child ∈ outer.children) (h : Within inner child) :
    Within inner outer

/-- The mentions of a node are those of the nodes within it. -/
theorem Node.mem_mentions_iff {m : Mention} (node : Node) :
    m ∈ node.mentions ↔ ∃ inner, Within inner node ∧ m ∈ inner.own := by
  constructor
  -- downwards by the size of the node, upwards along the path to the inner one
  · induction node using below_induction with
    | step node ih =>
      intro h
      rcases (mem_mentions node).mp h with hown | ⟨child, hchild, h⟩
      · exact ⟨node, .here, hown⟩
      · obtain ⟨inner, hinner, hown⟩ := ih child hchild h
        exact ⟨inner, .deeper hchild hinner, hown⟩
  · rintro ⟨inner, hinner, hown⟩
    induction hinner with
    | here => exact (mem_mentions inner).mpr (.inl hown)
    | deeper hchild _ ih => exact (mem_mentions _).mpr (.inr ⟨_, hchild, ih⟩)

/-- The mentions of a script are those of the nodes within its statements. -/
theorem Program.mem_mentions_iff {m : Mention} (program : Program) :
    m ∈ program.mentions ↔
      ∃ s ∈ program.body, ∃ inner, Node.Within inner (.stmt s) ∧ m ∈ inner.own := by
  rw [Program.mentions, Stmt.mem_listMentions]
  exact exists_congr fun s => and_congr_right fun _ => Node.mem_mentions_iff (.stmt s)

end ComponentCanvas.Script
