import ComponentCanvas.Proofs.Blueprint.Parts
import ComponentCanvas.Proofs.Fields

/-!
# Policies

A policy says which builtins, written tags and rendered elements may occur.  A value meets it if
all of its parts do.  What evaluation makes out of values that meet a policy meets it too: a member
of a builtin is a builtin under a longer name, an element keeps the properties that are shown, and
everything else is put together from parts that were there.
-/

namespace ComponentCanvas.Blueprint

/-- What may occur while a component is rendered. -/
structure Policy where
  builtin : String → Prop
  /-- Tags that may be written in code. -/
  tag : Tag → Prop
  /-- Elements that may be rendered, by their tag and properties. -/
  element : Tag → Fields Value → Prop
  builtin_member : ∀ {name : String} (member : String),
    builtin name → builtin (name ++ "." ++ member)
  builtin_setState : builtin "setState"
  element_shown : ∀ {t : Tag} (props : Fields Value), tag t → element t (shownProps props)

namespace Policy

/-- The policy that permits everything. -/
def any : Policy where
  builtin _ := True
  tag _ := True
  element _ _ := True
  builtin_member _ _ := trivial
  builtin_setState := trivial
  element_shown _ _ := trivial

/-- Whether tags may be written. -/
def Permits (p : Policy) (tags : List Tag) : Prop := ∀ t ∈ tags, p.tag t

/-- Whether a part of a value may occur, apart from the parts that lie in it. -/
def Admits (p : Policy) : Value → Prop
  | .builtin name => p.builtin name
  | .function f => p.Permits f.written
  | .node (.element tag kind props _) => p.element ⟨tag, kind⟩ props
  | _ => True

variable {p : Policy}

@[simp] theorem permits_nil : p.Permits [] := by simp [Permits]

@[simp] theorem permits_cons {t : Tag} {tags : List Tag} :
    p.Permits (t :: tags) ↔ p.tag t ∧ p.Permits tags := by simp [Permits]

@[simp] theorem permits_append {tags others : List Tag} :
    p.Permits (tags ++ others) ↔ p.Permits tags ∧ p.Permits others := by
  simp [Permits, or_imp, forall_and]

end Policy

/-- Whether all parts of a value may occur. -/
def Value.Meets (v : Value) (p : Policy) : Prop := ∀ part ∈ v.parts, p.Admits part

/-- Whether all parts of a node may occur. -/
def RenderNode.Meets (node : RenderNode) (p : Policy) : Prop := ∀ part ∈ node.parts, p.Admits part

/-- Whether values meet a policy. -/
def ValuesMeet (items : List Value) (p : Policy) : Prop := ∀ v ∈ items, v.Meets p

/-- Whether nodes meet a policy. -/
def NodesMeet (nodes : List RenderNode) (p : Policy) : Prop := ∀ node ∈ nodes, node.Meets p

/-- Whether the values of fields meet a policy. -/
def FieldsMeet (fields : Fields Value) (p : Policy) : Prop := ∀ field ∈ fields, field.2.Meets p

variable {p : Policy}

@[simp] theorem valuesMeet_nil : ValuesMeet [] p := by simp [ValuesMeet]

@[simp] theorem valuesMeet_cons {v : Value} {rest : List Value} :
    ValuesMeet (v :: rest) p ↔ v.Meets p ∧ ValuesMeet rest p := by simp [ValuesMeet]

@[simp] theorem valuesMeet_append {items others : List Value} :
    ValuesMeet (items ++ others) p ↔ ValuesMeet items p ∧ ValuesMeet others p := by
  simp [ValuesMeet, or_imp, forall_and]

@[simp] theorem nodesMeet_nil : NodesMeet [] p := by simp [NodesMeet]

@[simp] theorem nodesMeet_cons {node : RenderNode} {rest : List RenderNode} :
    NodesMeet (node :: rest) p ↔ node.Meets p ∧ NodesMeet rest p := by simp [NodesMeet]

@[simp] theorem nodesMeet_append {nodes others : List RenderNode} :
    NodesMeet (nodes ++ others) p ↔ NodesMeet nodes p ∧ NodesMeet others p := by
  simp [NodesMeet, or_imp, forall_and]

section Forms

/-- A value in which no other one lies. -/
theorem meets_iff_admits {v : Value} (h : v.parts = [v]) : v.Meets p ↔ p.Admits v := by
  unfold Value.Meets
  rw [h, List.forall_mem_singleton]

@[simp] theorem meets_undefined : Value.undefined.Meets p := (meets_iff_admits rfl).mpr trivial

@[simp] theorem meets_null : Value.null.Meets p := (meets_iff_admits rfl).mpr trivial

@[simp] theorem meets_bool (b : Bool) : (Value.bool b).Meets p := (meets_iff_admits rfl).mpr trivial

@[simp] theorem meets_number (x : Float) : (Value.number x).Meets p :=
  (meets_iff_admits rfl).mpr trivial

@[simp] theorem meets_string (s : String) : (Value.string s).Meets p :=
  (meets_iff_admits rfl).mpr trivial

@[simp] theorem meets_builtin {name : String} :
    (Value.builtin name).Meets p ↔ p.builtin name := meets_iff_admits rfl

@[simp] theorem meets_function {f : Function} :
    (Value.function f).Meets p ↔ p.Permits f.written := meets_iff_admits rfl

@[simp] theorem meets_list {items : List Value} :
    (Value.list items).Meets p ↔ ValuesMeet items p := by
  show (∀ part ∈ Value.list items :: Value.listParts items, p.Admits part) ↔ _
  rw [List.forall_mem_cons, Value.forall_mem_listParts]
  exact and_iff_right trivial

@[simp] theorem meets_map {fields : Fields Value} :
    (Value.map fields).Meets p ↔ FieldsMeet fields p := by
  show (∀ part ∈ Value.map fields :: Value.fieldsParts fields, p.Admits part) ↔ _
  rw [List.forall_mem_cons, Value.forall_mem_fieldsParts]
  exact and_iff_right trivial

@[simp] theorem meets_node {node : RenderNode} : (Value.node node).Meets p ↔ node.Meets p := Iff.rfl

@[simp] theorem meets_text (s : String) : (RenderNode.text s).Meets p :=
  List.forall_mem_singleton.mpr trivial

/-- An element meets a policy if it may be rendered and all that it holds meets the policy. -/
theorem meets_element {tag : String} {kind : TagKind} {props : Fields Value}
    {children : List RenderNode} :
    (RenderNode.element tag kind props children).Meets p ↔
      p.element ⟨tag, kind⟩ props ∧ FieldsMeet props p ∧ NodesMeet children p := by
  show (∀ part ∈ Value.node (.element tag kind props children) ::
    (Value.fieldsParts props ++ RenderNode.listParts children), p.Admits part) ↔ _
  rw [List.forall_mem_cons, List.forall_mem_append, Value.forall_mem_fieldsParts,
    RenderNode.forall_mem_listParts]
  exact Iff.rfl

/-- Everything meets the policy that permits everything. -/
theorem meets_any (v : Value) : v.Meets .any := by
  intro part _
  unfold Policy.Admits
  split
  · trivial
  · exact fun _ _ => trivial
  · trivial
  · trivial

end Forms

/-! ## Fields -/

theorem FieldsMeet.nil : FieldsMeet [] p := by simp [FieldsMeet]

theorem FieldsMeet.insert {fields : Fields Value} (h : FieldsMeet fields p) (key : String)
    {v : Value} (hv : v.Meets p) : FieldsMeet (Fields.insert fields key v) p := by
  intro field hfield
  rcases Fields.mem_of_mem_insert hfield with rfl | hfield
  · exact hv
  · exact h field hfield

theorem FieldsMeet.insertAll {fields additions : Fields Value} (h : FieldsMeet fields p)
    (hadditions : FieldsMeet additions p) : FieldsMeet (Fields.insertAll fields additions) p := by
  intro field hfield
  rcases Fields.mem_of_mem_insertAll hfield with hfield | hfield
  · exact h field hfield
  · exact hadditions field hfield

theorem FieldsMeet.get? {fields : Fields Value} (h : FieldsMeet fields p) {key : String}
    {v : Value} (hget : Fields.get? fields key = some v) : v.Meets p :=
  h _ (Fields.mem_of_get? hget)

theorem FieldsMeet.filter {fields : Fields Value} (h : FieldsMeet fields p)
    (keep : String × Value → Bool) : FieldsMeet (fields.filter keep) p :=
  fun field hfield => h field (List.mem_of_mem_filter hfield)

/-! ## Members and items -/

theorem meets_headD {items : List Value} (h : ValuesMeet items p) :
    (items.headD .undefined).Meets p := by
  cases items with
  | nil => exact meets_undefined
  | cons v rest => exact h v (List.mem_cons_self ..)

theorem valuesMeet_tail {items : List Value} (h : ValuesMeet items p) : ValuesMeet items.tail p :=
  fun v hv => h v (List.mem_of_mem_tail hv)

theorem meets_of_getElem? {items : List Value} (h : ValuesMeet items p) {i : Nat} {v : Value}
    (hget : items[i]? = some v) : v.Meets p :=
  h v (List.mem_of_getElem? hget)

theorem meets_argument {args : List Value} (h : ValuesMeet args p) (i : Nat) :
    (argument args i).Meets p := by
  rw [argument, List.getD_eq_getElem?_getD]
  cases hget : args[i]? with
  | none => exact meets_undefined
  | some v => exact meets_of_getElem? h hget

theorem meets_characters (s : String) : ValuesMeet (Value.characters s) p := by
  simp [ValuesMeet, Value.characters]

/-- Helper: an item that an index may ask for. -/
private theorem meets_item {items : List Value} (h : ValuesMeet items p) (i? : Option Nat) :
    ((i?.bind fun i => items[i]?).getD .undefined).Meets p := by
  cases hget : i?.bind fun i => items[i]? with
  | none => exact meets_undefined
  | some v =>
    obtain ⟨i, -, hi⟩ := Option.bind_eq_some_iff.mp hget
    exact meets_of_getElem? h hi

/-- A member is one of the parts of a value, or a builtin under a longer name. -/
theorem meets_member {v : Value} (h : v.Meets p) (name : String) : (v.member name).Meets p := by
  cases v with
  | map fields =>
    rw [Value.member]
    cases hget : Fields.get? fields name with
    | none => exact meets_undefined
    | some v => exact (meets_map.mp h).get? hget
  | list items =>
    rw [Value.member]
    split
    · exact meets_number _
    · exact meets_item (meets_list.mp h) _
  | string s =>
    rw [Value.member]
    split
    · exact meets_number _
    · exact meets_item (meets_characters s) _
  | builtin space =>
    -- a member of a namespace is a number or a builtin under a longer name
    rw [Value.member]
    split
    · exact meets_number _
    split
    · exact meets_number _
    · exact meets_builtin.mpr (p.builtin_member name (meets_builtin.mp h))
  | undefined | null | bool | number | node | function => exact meets_undefined

theorem meets_spreadItems {v : Value} (h : v.Meets p) : ValuesMeet (spreadItems v) p := by
  cases v with
  | list items => exact meets_list.mp h
  | string s => exact meets_characters s
  | undefined | null | bool | number | map | node | function | builtin => simp [spreadItems]

/-- The fields that a spread adds to a map. -/
theorem fieldsMeet_spreadFields {v : Value} (h : v.Meets p) : FieldsMeet (spreadFields v) p := by
  cases v with
  | map fields => exact meets_map.mp h
  -- a list is spread under its indices
  | list items =>
    intro field hfield
    obtain ⟨⟨w, i⟩, hmem, rfl⟩ := List.mem_map.mp hfield
    exact meets_list.mp h w (List.fst_mem_of_mem_zipIdx hmem)
  | undefined | null | bool | number | string | node | function | builtin => exact .nil

theorem fieldsMeet_spreadProps {v : Value} (h : v.Meets p) : FieldsMeet (spreadProps v) p := by
  cases v with
  | map fields => exact meets_map.mp h
  | undefined | null | bool | number | string | list | node | function | builtin => exact .nil

theorem fieldsMeet_restFields {v : Value} (h : v.Meets p) (slots : List Slot) :
    FieldsMeet (restFields slots v) p := by
  cases v with
  | map fields => exact (meets_map.mp h).filter _
  | undefined | null | bool | number | string | list | node | function | builtin => exact .nil

/-! ## Nodes -/

mutual

/-- What is shown of a value was a part of it, or is a text. -/
theorem meets_nodes : (v : Value) → v.Meets p → NodesMeet v.nodes p
  | .node shown, h => by simpa [Value.nodes] using h
  | .list items, h => by
    rw [Value.nodes]
    exact meets_listNodes items (meets_list.mp h)
  | .string s, _ => by simp [Value.nodes]
  | .number x, _ => by simp [Value.nodes]
  -- nothing is shown of these
  | .undefined, _ | .null, _ | .bool _, _ | .map _, _ | .function _, _ | .builtin _, _ => by
    simp [Value.nodes]

theorem meets_listNodes : (items : List Value) → (ValuesMeet items p) →
    NodesMeet (Value.listNodes items) p
  | [], _ => by simp [Value.listNodes]
  | v :: rest, h => by
    rw [valuesMeet_cons] at h
    rw [Value.listNodes, nodesMeet_append]
    exact ⟨meets_nodes v h.1, meets_listNodes rest h.2⟩

end

theorem meets_nodeList {nodes : List RenderNode} (h : NodesMeet nodes p) :
    (Value.list (nodes.map .node)).Meets p := by
  refine meets_list.mpr fun v hv => ?_
  obtain ⟨node, hnode, rfl⟩ := List.mem_map.mp hv
  exact meets_node.mpr (h node hnode)

theorem meets_nodesValue {nodes : List RenderNode} (h : NodesMeet nodes p) :
    (nodesValue nodes).Meets p := by
  unfold nodesValue
  split
  · simpa using h
  · exact meets_nodeList h

theorem fieldsMeet_withChildren {props : Fields Value} {children : List RenderNode}
    (hprops : FieldsMeet props p) (hchildren : NodesMeet children p) :
    FieldsMeet (withChildren props children) p := by
  unfold withChildren
  split
  · exact hprops
  · exact hprops.insert _ (meets_nodeList hchildren)

/-- An element of which the tag may be written may be rendered. -/
theorem meets_plain {tag : String} {kind : TagKind} {props : Fields Value}
    {children : List RenderNode} (htag : p.tag ⟨tag, kind⟩) (hprops : FieldsMeet props p)
    (hchildren : NodesMeet children p) :
    (RenderNode.element tag kind (shownProps props) children).Meets p :=
  meets_element.mpr ⟨p.element_shown props htag, hprops.filter _, hchildren⟩

/-! ## Operators and methods -/

theorem meets_unary (op : UnaryOperator) (v : Value) : (op.apply v).Meets p := by
  cases op <;> simp [UnaryOperator.apply]

theorem meets_binary (op : BinaryOperator) (a b : Value) : (op.apply a b).Meets p := by
  unfold BinaryOperator.apply
  split
  · split <;> simp
  all_goals simp

/-- A method of a text gives texts, numbers, truth values or a list of texts. -/
theorem meets_stringMethod (s method : String) (args : List Value) :
    (stringMethod s method args).Meets p := by
  have hpieces : ∀ chars separator, ValuesMeet (splitText chars separator) p := by
    intro chars separator
    unfold splitText
    split <;> simp [ValuesMeet, ofChars]
  unfold stringMethod
  dsimp only
  split
  -- `split` is the one method of a text that gives a list
  case h_9 =>
    split
    · simp
    · exact meets_list.mpr (hpieces _ _)
  case h_12 => split <;> simp [ofChars]
  all_goals simp [ofChars]

theorem meets_numberMethod (x : Float) (method : String) (args : List Value) :
    (numberMethod x method args).Meets p := by
  unfold numberMethod
  split <;> simp

/-- A method of a list puts together what the list and the arguments hold. -/
theorem meets_listMethod {items args : List Value} (hitems : ValuesMeet items p)
    (hargs : ValuesMeet args p) (method : String) :
    (listMethod items method args).Meets p := by
  unfold listMethod
  split
  -- `slice`
  case h_2 =>
    refine meets_list.mpr fun v hv => hitems v ?_
    exact List.mem_of_mem_take (List.mem_of_mem_drop hv)
  -- `concat` adds an argument, or its items if it is a list
  case h_5 =>
    refine meets_list.mpr fun v hv => ?_
    rcases List.mem_append.mp hv with hv | hv
    · exact hitems v hv
    · obtain ⟨arg, harg, hv⟩ := List.mem_flatMap.mp hv
      have hmeets := hargs arg harg
      unfold additions at hv
      split at hv
      · exact meets_list.mp hmeets v hv
      · cases hv
      · rwa [List.mem_singleton.mp hv]
  -- `reverse`
  case h_6 => exact meets_list.mpr fun v hv => hitems v (List.mem_reverse.mp hv)
  all_goals simp

/-! ## Builtins -/

/-- Helper: a list with one value for each field. -/
private theorem meets_ofFields {fields : Fields Value} (h : FieldsMeet fields p)
    {value : String × Value → Value}
    (hvalue : ∀ field : String × Value, field.2.Meets p → (value field).Meets p) :
    (Value.list (fields.map value)).Meets p := by
  refine meets_list.mpr fun v hv => ?_
  obtain ⟨field, hfield, rfl⟩ := List.mem_map.mp hv
  exact hvalue field (h field hfield)

/-- What a builtin that calls nothing makes of its arguments. -/
theorem meets_builtinValue {args : List Value} (hargs : ValuesMeet args p) (name : String) :
    (builtin name args).Meets p := by
  have hfirst := meets_argument hargs 0
  unfold builtin
  generalize argument args 0 = first at hfirst ⊢
  dsimp only
  -- two hooks hand their argument on, three globals list the parts of a map, and no other builtin
  -- gives anything but texts, numbers and truth values
  split
  case h_1 => exact meets_map.mpr (FieldsMeet.nil.insert "current" hfirst)
  case h_2 => exact hfirst
  case h_18 | h_19 | h_20 =>
    split
    · exact meets_ofFields (meets_map.mp hfirst) fun field hfield => by simp [hfield]
    · simp
  case h_21 => split <;> simp
  all_goals simp

theorem meets_statePair {v : Value} (h : v.Meets p) : (statePair v).Meets p := by
  simp [statePair, h, p.builtin_setState]

theorem meets_bareBuiltin (name : String) : (bareBuiltin name).Meets p := by
  unfold bareBuiltin
  split
  · exact meets_statePair meets_undefined
  · simp
  · exact meets_builtinValue (by simp) _

/-! ## Bags -/

mutual

/-- A bag holds no builtins, functions or elements, so every policy admits it. -/
theorem meets_ofJson : (value : Json) → (Value.ofJson value).Meets p
  | .null | .bool _ | .int _ | .float _ | .str _ => by simp [Value.ofJson]
  | .arr items => by
    rw [Value.ofJson]
    exact meets_list.mpr (meets_listOfJson items)
  | .obj members => by
    rw [Value.ofJson]
    exact meets_map.mpr (fieldsMeet_ofJson members)

theorem meets_listOfJson : (items : List Json) → ValuesMeet (Value.listOfJson items) p
  | [] => by simp [Value.listOfJson]
  | item :: rest => by
    rw [Value.listOfJson, valuesMeet_cons]
    exact ⟨meets_ofJson item, meets_listOfJson rest⟩

theorem fieldsMeet_ofJson : (members : List (String × Json)) →
    FieldsMeet (Value.fieldsOfJson members) p
  | [] => .nil
  | (name, value) :: rest => by
    rw [Value.fieldsOfJson, FieldsMeet, List.forall_mem_cons]
    exact ⟨meets_ofJson value, fieldsMeet_ofJson rest⟩

end

end ComponentCanvas.Blueprint
