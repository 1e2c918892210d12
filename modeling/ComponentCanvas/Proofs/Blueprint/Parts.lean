import ComponentCanvas.Blueprint.Rendering
import ComponentCanvas.Blueprint.Tags

/-!
# Parts of Values and Tags of Code

The parts of a value are the value itself and everything that lies in it, through lists, maps,
elements, their properties and their children.  The written tags of code are those of all elements
in it, the defaults of patterns included.
-/

namespace ComponentCanvas.Blueprint

/-! ## Parts of values -/

mutual

/-- A value and all values in it. -/
def Value.parts : Value → List Value
  | .list items => .list items :: Value.listParts items
  | .map fields => .map fields :: Value.fieldsParts fields
  | .node node => node.parts
  | v => [v]

/-- A node, as a value, and all values in it. -/
def RenderNode.parts : RenderNode → List Value
  | .element tag kind props children =>
    .node (.element tag kind props children) ::
      (Value.fieldsParts props ++ RenderNode.listParts children)
  | .text s => [.node (.text s)]

/-- The parts of values. -/
def Value.listParts : List Value → List Value
  | [] => []
  | v :: rest => v.parts ++ Value.listParts rest

/-- The parts of the values of fields. -/
def Value.fieldsParts : List (String × Value) → List Value
  | [] => []
  | (_, v) :: rest => v.parts ++ Value.fieldsParts rest

/-- The parts of nodes. -/
def RenderNode.listParts : List RenderNode → List Value
  | [] => []
  | node :: rest => node.parts ++ RenderNode.listParts rest

end

theorem Value.mem_listParts {part : Value} {items : List Value} :
    part ∈ Value.listParts items ↔ ∃ v ∈ items, part ∈ v.parts := by
  induction items with
  | nil => simp [Value.listParts]
  | cons v rest ih => simp [Value.listParts, ih]

theorem Value.mem_fieldsParts {part : Value} {fields : Fields Value} :
    part ∈ Value.fieldsParts fields ↔ ∃ field ∈ fields, part ∈ field.2.parts := by
  induction fields with
  | nil => simp [Value.fieldsParts]
  | cons field rest ih => simp [Value.fieldsParts, ih]

theorem RenderNode.mem_listParts {part : Value} {nodes : List RenderNode} :
    part ∈ RenderNode.listParts nodes ↔ ∃ node ∈ nodes, part ∈ node.parts := by
  induction nodes with
  | nil => simp [RenderNode.listParts]
  | cons node rest ih => simp [RenderNode.listParts, ih]

section All

variable {P : Value → Prop}

theorem Value.forall_mem_listParts {items : List Value} :
    (∀ part ∈ Value.listParts items, P part) ↔ ∀ v ∈ items, ∀ part ∈ v.parts, P part := by
  simp only [Value.mem_listParts]
  exact ⟨fun h v hv part hpart => h part ⟨v, hv, hpart⟩,
    fun h part ⟨v, hv, hpart⟩ => h v hv part hpart⟩

theorem Value.forall_mem_fieldsParts {fields : Fields Value} :
    (∀ part ∈ Value.fieldsParts fields, P part) ↔
      ∀ field ∈ fields, ∀ part ∈ field.2.parts, P part := by
  simp only [Value.mem_fieldsParts]
  exact ⟨fun h field hfield part hpart => h part ⟨field, hfield, hpart⟩,
    fun h part ⟨field, hfield, hpart⟩ => h field hfield part hpart⟩

theorem RenderNode.forall_mem_listParts {nodes : List RenderNode} :
    (∀ part ∈ RenderNode.listParts nodes, P part) ↔
      ∀ node ∈ nodes, ∀ part ∈ node.parts, P part := by
  simp only [RenderNode.mem_listParts]
  exact ⟨fun h node hnode part hpart => h part ⟨node, hnode, hpart⟩,
    fun h part ⟨node, hnode, hpart⟩ => h node hnode part hpart⟩

end All

/-! ## Tags of code -/

mutual

/-- The tags written in an expression. -/
def Expr.written : Expr → List Tag
  | .template _ exprs => Expr.listWritten exprs
  | .array items => Item.listWritten items
  | .object entries => Entry.listWritten entries
  | .member object key => object.written ++ key.written
  | .unary _ e => e.written
  | .binary _ left right => left.written ++ right.written
  | .logical _ left right => left.written ++ right.written
  | .conditional test consequent alternate =>
    test.written ++ (consequent.written ++ alternate.written)
  | .call callee args => callee.written ++ Expr.listWritten args
  | .function f => f.written
  | .markup node => node.written
  | .undefined | .null | .bool _ | .number _ | .string _ | .name _ | .unmodelled _ => []

/-- The tags written in a function. -/
def Function.written : Function → List Tag
  | .mk _ params body => Pattern.listWritten params ++ Stmt.listWritten body

/-- The tags written in the defaults of a pattern. -/
def Pattern.written : Pattern → List Tag
  | .name _ => []
  | .object slots _ => Slot.listWritten slots
  | .array slots _ => Slot.listWritten slots
  | .withDefault pattern default => pattern.written ++ default.written

/-- The tags written in a statement. -/
def Stmt.written : Stmt → List Tag
  | .bind pattern (some e) => pattern.written ++ e.written
  | .bind pattern none => pattern.written
  | .cond test consequent alternate =>
    test.written ++ (Stmt.listWritten consequent ++ Stmt.listWritten alternate)
  | .ret (some e) => e.written
  | .ret none => []
  | .effect _ => []

/-- The tags written in a node. -/
def Node.written : Node → List Tag
  | .element tag kind attributes children =>
    ⟨tag, kind⟩ :: (Entry.listWritten attributes ++ Node.listWritten children)
  | .fragment children => Node.listWritten children
  | .expr e => e.written
  | .text _ => []

/-- The tags written in expressions. -/
def Expr.listWritten : List Expr → List Tag
  | [] => []
  | e :: rest => e.written ++ Expr.listWritten rest

/-- The tags written in items. -/
def Item.listWritten : List Item → List Tag
  | [] => []
  | .value e :: rest => e.written ++ Item.listWritten rest
  | .spread e :: rest => e.written ++ Item.listWritten rest

/-- The tags written in entries. -/
def Entry.listWritten : List Entry → List Tag
  | [] => []
  | .field _ e :: rest => e.written ++ Entry.listWritten rest
  | .spread e :: rest => e.written ++ Entry.listWritten rest

/-- The tags written in patterns. -/
def Pattern.listWritten : List Pattern → List Tag
  | [] => []
  | pattern :: rest => pattern.written ++ Pattern.listWritten rest

/-- The tags written in the items of patterns. -/
def Slot.listWritten : List Slot → List Tag
  | [] => []
  | .field _ pattern :: rest => pattern.written ++ Slot.listWritten rest
  | .element pattern :: rest => pattern.written ++ Slot.listWritten rest
  | .hole :: rest => Slot.listWritten rest

/-- The tags written in statements. -/
def Stmt.listWritten : List Stmt → List Tag
  | [] => []
  | stmt :: rest => stmt.written ++ Stmt.listWritten rest

/-- The tags written in nodes. -/
def Node.listWritten : List Node → List Tag
  | [] => []
  | node :: rest => node.written ++ Node.listWritten rest

end

end ComponentCanvas.Blueprint

namespace ComponentCanvas

/-- The tags written in a blueprint. -/
def Blueprint.written (b : Blueprint) : List Blueprint.Tag :=
  b.constants.flatMap (fun (pattern, init) => pattern.written ++ init.written) ++
    (b.helpers.flatMap (·.2.written) ++ b.factory.written)

end ComponentCanvas

/-! ## The tags that are collected -/

namespace ComponentCanvas.Blueprint

mutual

/-- The tags written in the defaults of the patterns in an expression. -/
def Expr.defaulted : Expr → List Tag
  | .template _ exprs => Expr.listDefaulted exprs
  | .array items => Item.listDefaulted items
  | .object entries => Entry.listDefaulted entries
  | .member object key => object.defaulted ++ key.defaulted
  | .unary _ e => e.defaulted
  | .binary _ left right => left.defaulted ++ right.defaulted
  | .logical _ left right => left.defaulted ++ right.defaulted
  | .conditional test consequent alternate =>
    test.defaulted ++ (consequent.defaulted ++ alternate.defaulted)
  | .call callee args => callee.defaulted ++ Expr.listDefaulted args
  | .function f => f.defaulted
  | .markup node => node.defaulted
  | .undefined | .null | .bool _ | .number _ | .string _ | .name _ | .unmodelled _ => []

/-- The tags written in the defaults of a function: those of its parameters, and in its body. -/
def Function.defaulted : Function → List Tag
  | .mk _ params body => Pattern.listWritten params ++ Stmt.listDefaulted body

/-- The tags written in the defaults in a statement. -/
def Stmt.defaulted : Stmt → List Tag
  | .bind pattern (some e) => pattern.written ++ e.defaulted
  | .bind pattern none => pattern.written
  | .cond test consequent alternate =>
    test.defaulted ++ (Stmt.listDefaulted consequent ++ Stmt.listDefaulted alternate)
  | .ret (some e) => e.defaulted
  | .ret none | .effect _ => []

/-- The tags written in the defaults in a node. -/
def Node.defaulted : Node → List Tag
  | .element _ _ attributes children =>
    Entry.listDefaulted attributes ++ Node.listDefaulted children
  | .fragment children => Node.listDefaulted children
  | .expr e => e.defaulted
  | .text _ => []

/-- The tags written in the defaults in expressions. -/
def Expr.listDefaulted : List Expr → List Tag
  | [] => []
  | e :: rest => e.defaulted ++ Expr.listDefaulted rest

/-- The tags written in the defaults in items. -/
def Item.listDefaulted : List Item → List Tag
  | [] => []
  | .value e :: rest => e.defaulted ++ Item.listDefaulted rest
  | .spread e :: rest => e.defaulted ++ Item.listDefaulted rest

/-- The tags written in the defaults in entries. -/
def Entry.listDefaulted : List Entry → List Tag
  | [] => []
  | .field _ e :: rest => e.defaulted ++ Entry.listDefaulted rest
  | .spread e :: rest => e.defaulted ++ Entry.listDefaulted rest

/-- The tags written in the defaults in statements. -/
def Stmt.listDefaulted : List Stmt → List Tag
  | [] => []
  | stmt :: rest => stmt.defaulted ++ Stmt.listDefaulted rest

/-- The tags written in the defaults in nodes. -/
def Node.listDefaulted : List Node → List Tag
  | [] => []
  | node :: rest => node.defaulted ++ Node.listDefaulted rest

end

/-- Whether what is written is what is collected and what stands in defaults. -/
def Splits (written collected defaulted : List Tag) : Prop :=
  ∀ t, t ∈ written ↔ t ∈ collected ∨ t ∈ defaulted

section Splits

variable {written collected defaulted written' collected' defaulted' : List Tag}

theorem Splits.nil : Splits [] [] [] := by simp [Splits]

theorem Splits.append (h : Splits written collected defaulted)
    (h' : Splits written' collected' defaulted') :
    Splits (written ++ written') (collected ++ collected') (defaulted ++ defaulted') := by
  intro t
  rw [List.mem_append, List.mem_append, List.mem_append, h t, h' t, or_or_or_comm]

theorem Splits.cons (t : Tag) (h : Splits written collected defaulted) :
    Splits (t :: written) (t :: collected) defaulted := by
  intro other
  rw [List.mem_cons, List.mem_cons, h other, or_assoc]

/-- Defaults that stand in front. -/
theorem Splits.behind (more : List Tag) (h : Splits written collected defaulted) :
    Splits (more ++ written) collected (more ++ defaulted) := by
  intro t
  rw [List.mem_append, List.mem_append, h t, or_left_comm]

end Splits

mutual

/-- What is written in an expression is collected, unless it stands in the default of a pattern. -/
theorem Expr.splits : (e : Expr) → Splits e.written e.tags e.defaulted
  | .template _ exprs => by
    rw [Expr.written, Expr.tags, Expr.defaulted]
    exact Expr.listSplits exprs
  | .array items => by
    rw [Expr.written, Expr.tags, Expr.defaulted]
    exact Item.listSplits items
  | .object entries => by
    rw [Expr.written, Expr.tags, Expr.defaulted]
    exact Entry.listSplits entries
  | .member object key => by
    rw [Expr.written, Expr.tags, Expr.defaulted]
    exact object.splits.append key.splits
  | .unary _ e => by
    rw [Expr.written, Expr.tags, Expr.defaulted]
    exact e.splits
  | .binary _ left right | .logical _ left right => by
    rw [Expr.written, Expr.tags, Expr.defaulted]
    exact left.splits.append right.splits
  -- three parts: the collected tags are brought into the form of two parts twice
  | .conditional test consequent alternate => by
    rw [Expr.written, Expr.tags, Expr.defaulted, List.append_assoc]
    exact test.splits.append (consequent.splits.append alternate.splits)
  | .call callee args => by
    rw [Expr.written, Expr.tags, Expr.defaulted]
    exact callee.splits.append (Expr.listSplits args)
  | .function f => by
    rw [Expr.written, Expr.tags, Expr.defaulted]
    exact f.splits
  | .markup node => by
    rw [Expr.written, Expr.tags, Expr.defaulted]
    exact node.splits
  -- without parts, and without a tag
  | .undefined | .null | .bool _ | .number _ | .string _ | .name _ | .unmodelled _ => .nil

/-- Parameters are not walked, so all that is written in them is in defaults. -/
theorem Function.splits : (f : Function) → Splits f.written f.tags f.defaulted
  | .mk _ params body => by
    rw [Function.written, Function.tags, Function.defaulted]
    exact (Stmt.listSplits body).behind (Pattern.listWritten params)

/-- The tags that a statement writes. -/
theorem Stmt.splits : (stmt : Stmt) → Splits stmt.written stmt.tags stmt.defaulted
  -- collecting passes the pattern by, so all that it writes lies in defaults
  | .bind pattern (some e) => by
    rw [Stmt.written, Stmt.tags, Stmt.defaulted]
    exact e.splits.behind pattern.written
  | .bind pattern none => by
    rw [Stmt.written, Stmt.tags, Stmt.defaulted]
    simpa using Splits.nil.behind pattern.written
  | .cond test consequent alternate => by
    rw [Stmt.written, Stmt.tags, Stmt.defaulted, List.append_assoc]
    exact test.splits.append ((Stmt.listSplits consequent).append (Stmt.listSplits alternate))
  | .ret (some e) => by
    rw [Stmt.written, Stmt.tags, Stmt.defaulted]
    exact e.splits
  | .ret none | .effect _ => .nil

/-- The tags that markup writes, its own among those that are collected. -/
theorem Node.splits : (node : Node) → Splits node.written node.tags node.defaulted
  -- the element's own tag is always collected
  | .element tag kind attributes children => by
    rw [Node.written, Node.tags, Node.defaulted]
    exact ((Entry.listSplits attributes).append (Node.listSplits children)).cons ⟨tag, kind⟩
  | .fragment children => by
    rw [Node.written, Node.tags, Node.defaulted]
    exact Node.listSplits children
  | .expr e => by
    rw [Node.written, Node.tags, Node.defaulted]
    exact e.splits
  | .text _ => .nil

theorem Expr.listSplits : (exprs : List Expr) →
    Splits (Expr.listWritten exprs) (Expr.listTags exprs) (Expr.listDefaulted exprs)
  | [] => .nil
  | e :: rest => by
    rw [Expr.listWritten, Expr.listTags, Expr.listDefaulted]
    exact e.splits.append (Expr.listSplits rest)

theorem Item.listSplits : (items : List Item) →
    Splits (Item.listWritten items) (Item.listTags items) (Item.listDefaulted items)
  | [] => .nil
  | .value e :: rest | .spread e :: rest => by
    rw [Item.listWritten, Item.listTags, Item.listDefaulted]
    exact e.splits.append (Item.listSplits rest)

theorem Entry.listSplits : (entries : List Entry) →
    Splits (Entry.listWritten entries) (Entry.listTags entries) (Entry.listDefaulted entries)
  | [] => .nil
  | .field _ e :: rest | .spread e :: rest => by
    rw [Entry.listWritten, Entry.listTags, Entry.listDefaulted]
    exact e.splits.append (Entry.listSplits rest)

theorem Stmt.listSplits : (stmts : List Stmt) →
    Splits (Stmt.listWritten stmts) (Stmt.listTags stmts) (Stmt.listDefaulted stmts)
  | [] => .nil
  | stmt :: rest => by
    rw [Stmt.listWritten, Stmt.listTags, Stmt.listDefaulted]
    exact stmt.splits.append (Stmt.listSplits rest)

theorem Node.listSplits : (nodes : List Node) →
    Splits (Node.listWritten nodes) (Node.listTags nodes) (Node.listDefaulted nodes)
  | [] => .nil
  | node :: rest => by
    rw [Node.listWritten, Node.listTags, Node.listDefaulted]
    exact node.splits.append (Node.listSplits rest)

end

end ComponentCanvas.Blueprint

namespace ComponentCanvas

open Blueprint (Splits)

/-- The tags written in the defaults of the patterns of a blueprint. -/
def Blueprint.defaulted (b : Blueprint) : List Blueprint.Tag :=
  b.constants.flatMap (fun (pattern, init) => pattern.written ++ init.defaulted) ++
    b.helpers.flatMap (·.2.defaulted)

/-- What is written in the constants and the helpers of a blueprint is collected, unless it stands
in the default of a pattern. -/
theorem Blueprint.splits_declared (b : Blueprint) :
    Splits (b.constants.flatMap (fun (pattern, init) => pattern.written ++ init.written) ++
      b.helpers.flatMap (·.2.written)) b.tags b.defaulted := by
  apply Splits.append
  · induction b.constants with
    | nil => exact .nil
    | cons constant rest ih => exact (constant.2.splits.behind constant.1.written).append ih
  · induction b.helpers with
    | nil => exact .nil
    | cons helper rest ih => exact helper.2.splits.append ih

/-- Every tag that is collected is written. -/
theorem Blueprint.tags_subset_written (b : Blueprint) : b.tags ⊆ b.written := by
  intro t ht
  have ht := (b.splits_declared t).mpr (.inl ht)
  rw [Blueprint.written, ← List.append_assoc]
  exact List.mem_append_left _ ht

/-- Where the factory is a helper, what is written is collected, unless it stands in the default of
a pattern. -/
theorem Blueprint.splits {b : Blueprint} {name : String} (h : (name, b.factory) ∈ b.helpers) :
    Splits b.written b.tags b.defaulted := by
  intro t
  rw [← b.splits_declared t, Blueprint.written, ← List.append_assoc, List.mem_append]
  apply or_iff_left_of_imp
  -- the factory adds nothing to the helpers
  intro ht
  exact List.mem_append_right _ (List.mem_flatMap.mpr ⟨_, h, ht⟩)

end ComponentCanvas
