import ComponentCanvas.Blueprint.Basic
import ComponentCanvas.Blueprint.NumberText
import ComponentCanvas.Json.Basic

/-!
# Values and Rendered Nodes

What expressions evaluate to, and the tree of elements and texts that a component is rendered to.
Elements are values, and properties of elements hold values.
-/

namespace ComponentCanvas.Blueprint

mutual

/-- The value of an expression. -/
inductive Value where
  | undefined
  | null
  | bool (b : Bool)
  | number (x : Float)
  | string (s : String)
  | list (items : List Value)
  | map (fields : List (String × Value))
  | node (node : RenderNode)
  | function (f : Function)
  /-- A function or namespace that is injected or global, by its name. -/
  | builtin (name : String)

/-- A rendered node. -/
inductive RenderNode where
  | element (tag : String) (kind : TagKind) (props : List (String × Value))
    (children : List RenderNode)
  | text (text : String)

end

instance : Inhabited Value := ⟨.undefined⟩

/-- The name of a kind of element. -/
def TagKind.name : TagKind → String
  | .intrinsic => "intrinsic"
  | .atom => "atom"
  | .helper => "local"
  | .catalog => "catalog"

mutual

/-- The value of a JSON value; all numbers are floats. -/
def Value.ofJson : Json → Value
  | .null => .null
  | .bool b => .bool b
  | .int n => .number (Float.ofInt n)
  | .float x => .number x
  | .str s => .string s
  | .arr items => .list (Value.listOfJson items)
  | .obj members => .map (Value.fieldsOfJson members)

/-- The values of JSON values. -/
def Value.listOfJson : List Json → List Value
  | [] => []
  | item :: rest => Value.ofJson item :: Value.listOfJson rest

/-- The values of the members of an object. -/
def Value.fieldsOfJson : List (String × Json) → List (String × Value)
  | [] => []
  | (name, value) :: rest => (name, Value.ofJson value) :: Value.fieldsOfJson rest

end

mutual

/-- The JSON value of a value: what is undefined or can be called becomes null. -/
def Value.toJson : Value → Json
  | .undefined | .null | .function _ | .builtin _ => .null
  | .bool b => .bool b
  | .number x => .float x
  | .string s => .str s
  | .list items => .arr (Value.listToJson items)
  | .map fields => .obj (Value.fieldsToJson fields)
  | .node node => node.toJson

/-- The JSON value of a rendered node. -/
def RenderNode.toJson : RenderNode → Json
  | .element tag kind props children =>
    .obj
      [("type", .str "element"), ("tag", .str tag), ("kind", .str kind.name),
       ("props", .obj (Value.fieldsToJson props)),
       ("children", .arr (RenderNode.listToJson children))]
  | .text text => .obj [("type", .str "text"), ("value", .str text)]

/-- The JSON values of values. -/
def Value.listToJson : List Value → List Json
  | [] => []
  | value :: rest => value.toJson :: Value.listToJson rest

/-- The JSON values of fields. -/
def Value.fieldsToJson : List (String × Value) → List (String × Json)
  | [] => []
  | (name, value) :: rest => (name, value.toJson) :: Value.fieldsToJson rest

/-- The JSON values of rendered nodes. -/
def RenderNode.listToJson : List RenderNode → List Json
  | [] => []
  | node :: rest => node.toJson :: RenderNode.listToJson rest

end

namespace RenderNode

/-- The tag of an element. -/
def tag? : RenderNode → Option String
  | .element name _ _ _ => some name
  | .text _ => none

/-- The children of an element. -/
def children : RenderNode → List RenderNode
  | .element _ _ _ nodes => nodes
  | .text _ => []

mutual

/-- The text of a node and of all nodes below it. -/
def textContent : RenderNode → String
  | .text s => s
  | .element _ _ _ nodes => listTextContent nodes

/-- The text of nodes. -/
def listTextContent : List RenderNode → String
  | [] => ""
  | node :: rest => node.textContent ++ listTextContent rest

end

end RenderNode

/-- Whether a value can be a property of a rendered element. -/
def Value.isRenderable : Value → Bool
  | .undefined | .function _ | .builtin _ => false
  | _ => true

mutual

/-- The nodes that a value shows: texts, numbers and nodes, and those in lists. -/
def Value.nodes : Value → List RenderNode
  | .node shown => [shown]
  | .list items => Value.listNodes items
  | .string s => [.text s]
  | .number x => [.text (numberText x)]
  | _ => []

/-- The nodes that values show. -/
def Value.listNodes : List Value → List RenderNode
  | [] => []
  | value :: rest => value.nodes ++ Value.listNodes rest

end

end ComponentCanvas.Blueprint
