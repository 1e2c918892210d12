import ComponentCanvas.Blueprint.Basic

/-!
# The Tags of a Blueprint

The elements that occur in a blueprint, in the order of the source.  Defaults inside patterns are
not looked at.
-/

namespace ComponentCanvas.Blueprint

/-- An element that occurs in a blueprint. -/
structure Tag where
  name : String
  kind : TagKind

mutual

/-- The tags in an expression. -/
def Expr.tags : Expr → List Tag
  | .template _ exprs => Expr.listTags exprs
  | .array items => Item.listTags items
  | .object entries => Entry.listTags entries
  | .member object key => object.tags ++ key.tags
  | .unary _ e => e.tags
  | .binary _ left right => left.tags ++ right.tags
  | .logical _ left right => left.tags ++ right.tags
  | .conditional test consequent alternate => test.tags ++ consequent.tags ++ alternate.tags
  | .call callee args => callee.tags ++ Expr.listTags args
  | .function f => f.tags
  | .markup node => node.tags
  | .undefined | .null | .bool _ | .number _ | .string _ | .name _ | .unmodelled _ => []

/-- The tags in a function. -/
def Function.tags : Function → List Tag
  | .mk _ _ body => Stmt.listTags body

/-- The tags in a statement. -/
def Stmt.tags : Stmt → List Tag
  | .bind _ (some e) => e.tags
  | .cond test consequent alternate =>
    test.tags ++ Stmt.listTags consequent ++ Stmt.listTags alternate
  | .ret (some e) => e.tags
  | .bind _ none | .ret none | .effect _ => []

/-- The tags in a node. -/
def Node.tags : Node → List Tag
  | .element tag kind attributes children =>
    ⟨tag, kind⟩ :: (Entry.listTags attributes ++ Node.listTags children)
  | .fragment children => Node.listTags children
  | .expr e => e.tags
  | .text _ => []

/-- The tags in expressions. -/
def Expr.listTags : List Expr → List Tag
  | [] => []
  | e :: rest => e.tags ++ Expr.listTags rest

/-- The tags in items. -/
def Item.listTags : List Item → List Tag
  | [] => []
  | .value e :: rest => e.tags ++ Item.listTags rest
  | .spread e :: rest => e.tags ++ Item.listTags rest

/-- The tags in entries. -/
def Entry.listTags : List Entry → List Tag
  | [] => []
  | .field _ e :: rest => e.tags ++ Entry.listTags rest
  | .spread e :: rest => e.tags ++ Entry.listTags rest

/-- The tags in statements. -/
def Stmt.listTags : List Stmt → List Tag
  | [] => []
  | stmt :: rest => stmt.tags ++ Stmt.listTags rest

/-- The tags in nodes. -/
def Node.listTags : List Node → List Tag
  | [] => []
  | node :: rest => node.tags ++ Node.listTags rest

end

end ComponentCanvas.Blueprint

namespace ComponentCanvas

/-- The tags of a blueprint: those of its constants, then those of its helpers. -/
def Blueprint.tags (blueprint : Blueprint) : List Blueprint.Tag :=
  blueprint.constants.flatMap (·.2.tags) ++ blueprint.helpers.flatMap (·.2.tags)

/-- The names of the tags of which the kind satisfies a test, sorted. -/
def Blueprint.tagsOfKind (blueprint : Blueprint) (p : Blueprint.TagKind → Bool) : List String :=
  sortedNames ((blueprint.tags.filter fun tag => p tag.kind).map (·.name))

end ComponentCanvas
