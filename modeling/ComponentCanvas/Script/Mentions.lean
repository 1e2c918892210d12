import ComponentCanvas.Script.Syntax

/-!
# Mentions

The names that a piece of syntax uses or binds and the modules it loads, in the order of the
source.  Scopes play no part: a name bound anywhere counts as bound everywhere.  Keys, labels and
names of members are no mentions.
-/

namespace ComponentCanvas.Script

/-- The mentions of a name of an element: a component, and the root of a member, is used. -/
def TagName.mentions : TagName → List Mention
  | .component name span => [.reference name span]
  | .member (some (name, span)) _ => [.reference name span]
  | .host _ _ | .namespaced _ _ | .receiver | .member none _ => []

mutual

/-- The mentions of an expression. -/
def Expr.mentions : Expr → List Mention
  | .mk span form => form.mentions span

/-- The mentions of a form of an expression that stands at a span. -/
def ExprForm.mentions (form : ExprForm) (span : Text.Span) : List Mention :=
  match form with
  | .null | .bool _ | .number _ _ | .string _ => []
  | .name name => [.reference name span]
  | .template _ exprs => Item.listMentions exprs
  | .array items => Item.listMentions items
  | .object members => Member.listMentions members
  | .function f => f.mentions
  | .arrow f => f.mentions
  | .member object key => object.mentions ++ key.mentions
  | .call callee types args => callee.mentions ++ types ++ Item.listMentions args
  | .chain e => e.mentions
  | .unary _ e => e.mentions
  | .binary _ left right => left.mentions ++ right.mentions
  | .logical _ left right => left.mentions ++ right.mentions
  | .conditional test consequent alternate =>
    test.mentions ++ consequent.mentions ++ alternate.mentions
  | .paren e => e.mentions
  | .assertion _ e types => e.mentions ++ types
  | .element tag types attributes children =>
    tag.mentions ++ types ++ Member.listMentions attributes ++ Item.listMentions children
  | .fragment children => Item.listMentions children
  | .other .dynamicImport parts => .dynamicImport span :: Stmt.listMentions parts
  | .other _ parts => Stmt.listMentions parts

/-- The mentions of an item. -/
def Item.mentions : Item → List Mention
  | .value e => e.mentions
  | .spread _ e => e.mentions
  | .hole => []
  | .text _ => []
  | .markup e => e.mentions

/-- The mentions of a member. -/
def Member.mentions : Member → List Mention
  | .field _ key value => key.mentions ++ value.mentions
  | .method _ key f => key.mentions ++ f.mentions
  | .spread e => e.mentions
  | .hollow _ => []
  | .defaulted name value => name.mentions ++ value.mentions

/-- The mentions of a function: its name, types, parameters and body. -/
def Function.mentions : Function → List Mention
  | .mk _ name types params returns _ body =>
    (name.toList.map Mention.binding) ++ types ++ Binder.listMentions params ++ returns ++
      Stmt.listMentions body

/-- The mentions of a binder. -/
def Binder.mentions : Binder → List Mention
  | .mk _ _ decorators pattern types none =>
    Stmt.listMentions decorators ++ pattern.mentions ++ types
  | .mk _ _ decorators pattern types (some e) =>
    Stmt.listMentions decorators ++ pattern.mentions ++ types ++ e.mentions

/-- The mentions of a pattern. -/
def Pattern.mentions : Pattern → List Mention
  | .name name => [.binding name]
  | .object items => PatternItem.listMentions items
  | .array items => PatternItem.listMentions items
  | .withDefault pattern default => pattern.mentions ++ default.mentions

/-- The mentions of an item of a pattern. -/
def PatternItem.mentions : PatternItem → List Mention
  | .field key value => key.mentions ++ value.mentions
  | .element value => value.mentions
  | .hole => []
  | .rest value => value.mentions

/-- The mentions of a statement. -/
def Stmt.mentions : Stmt → List Mention
  | .vars _ binders => Binder.listMentions binders
  | .function f => f.mentions
  | .expression _ e => e.mentions
  | .block stmts => Stmt.listMentions stmts
  | .empty => []
  | .cond test consequent alternate =>
    test.mentions ++ consequent.mentions ++ alternate.mentions
  | .ret none => []
  | .ret (some e) => e.mentions
  | .moduleItem _ _ parts => Stmt.listMentions parts
  | .notes mentions => mentions
  | .other _ parts => Stmt.listMentions parts

/-- The mentions of items in their order. -/
def Item.listMentions : List Item → List Mention
  | [] => []
  | item :: rest => item.mentions ++ Item.listMentions rest

/-- The mentions of members in their order. -/
def Member.listMentions : List Member → List Mention
  | [] => []
  | member :: rest => member.mentions ++ Member.listMentions rest

/-- The mentions of binders in their order. -/
def Binder.listMentions : List Binder → List Mention
  | [] => []
  | binder :: rest => binder.mentions ++ Binder.listMentions rest

/-- The mentions of the items of a pattern in their order. -/
def PatternItem.listMentions : List PatternItem → List Mention
  | [] => []
  | item :: rest => item.mentions ++ PatternItem.listMentions rest

/-- The mentions of statements in their order. -/
def Stmt.listMentions : List Stmt → List Mention
  | [] => []
  | stmt :: rest => stmt.mentions ++ Stmt.listMentions rest

end

/-- The mentions of a script. -/
def Program.mentions (program : Program) : List Mention := Stmt.listMentions program.body

end ComponentCanvas.Script
