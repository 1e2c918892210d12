import ComponentCanvas.Proofs.Blueprint.Policy

/-!
# Laws of Rendering

A law relates what is computed on two machines, in two surroundings, and what is known of the
result.  A law that the operations of the machines obey, and that is kept when one computation
follows another, is obeyed by all of evaluation: expressions, markup, patterns, statements, methods
and builtins.  How functions are called is left open, and closed by the user of a law with an
induction on the depth of calls.

Expressions and markup bind no names, and only a call opens a frame.  So there are three kinds of
laws: those that evaluation obeys, those that patterns and statements obey as well, and those that
the body of a call obeys together with its frame.
-/

namespace ComponentCanvas.Blueprint

/-- Whether what happens meets a policy. -/
def Event.Meets (p : Policy) : Event → Prop
  | .result v => v.Meets p
  | .bound _ v => v.Meets p
  | .called name => p.builtin name

/-- A relation of computations on two machines that is obeyed by the operations of the machines that
expressions and markup use.  The predicate says what is known of the result. -/
structure EvalLaw (p : Policy) (m₁ m₂ : Type → Type) [Machine m₁] [Machine m₂]
    (env₁ env₂ : Env) where
  Rel : {α : Type} → (α → Prop) → m₁ α → m₂ α → Prop
  rel_pure : ∀ {α : Type} {Q : α → Prop} {a : α}, Q a → Rel Q (pure a) (pure a)
  rel_bind : ∀ {α β : Type} {P : α → Prop} {Q : β → Prop} {x₁ : m₁ α} {x₂ : m₂ α}
    {f₁ : α → m₁ β} {f₂ : α → m₂ β},
    Rel P x₁ x₂ → (∀ a, P a → Rel Q (f₁ a) (f₂ a)) → Rel Q (x₁ >>= f₁) (x₂ >>= f₂)
  rel_tick : Rel (fun _ => True) (tick env₁) (tick env₂)
  rel_note : ∀ {event : Event}, event.Meets p →
    Rel (fun _ => True) (Machine.note event) (Machine.note event)
  rel_lookUp : ∀ name : String, Rel (·.Meets p) (lookUp env₁ name) (lookUp env₂ name)

/-- A law that the binding of a name obeys as well. -/
structure BindLaw (p : Policy) (m₁ m₂ : Type → Type) [Machine m₁] [Machine m₂] (env₁ env₂ : Env)
    extends EvalLaw p m₁ m₂ env₁ env₂ where
  rel_declare : ∀ (name : String) {v : Value}, v.Meets p →
    Rel (fun _ => True) (declare name v) (declare name v)

/-- A law that all operations of the machines obey. -/
structure Law (p : Policy) (m₁ m₂ : Type → Type) [Machine m₁] [Machine m₂] (env₁ env₂ : Env)
    extends BindLaw p m₁ m₂ env₁ env₂ where
  rel_openFrame : Rel (fun _ => True) openFrame openFrame
  rel_closeFrame : Rel (fun _ => True) closeFrame closeFrame

variable {p : Policy} {m₁ m₂ : Type → Type} [Machine m₁] [Machine m₂] {env₁ env₂ : Env}
  {call₁ : Caller m₁} {call₂ : Caller m₂}

namespace EvalLaw

variable (L : EvalLaw p m₁ m₂ env₁ env₂)

/-- Whether calls of functions that meet the policy obey the law. -/
def Calls (call₁ : Caller m₁) (call₂ : Caller m₂) : Prop :=
  ∀ (f : Function) {args : List Value}, p.Permits f.written → ValuesMeet args p →
    L.Rel (·.Meets p) (call₁ f args) (call₂ f args)

/-- Whether two ways to map items obey the law. -/
def Maps (map₁ : Value → List Value → m₁ (List Value))
    (map₂ : Value → List Value → m₂ (List Value)) :
    Prop :=
  ∀ {mapper : Value} {items : List Value}, mapper.Meets p → ValuesMeet items p →
    L.Rel (ValuesMeet · p) (map₁ mapper items) (map₂ mapper items)

theorem rel_noted {v : Value} (h : v.Meets p) : L.Rel (·.Meets p) (noted v) (noted v) := by
  unfold noted
  exact L.rel_bind (L.rel_note h) fun _ _ => L.rel_pure h

/-- A result that is taken note of. -/
theorem rel_bind_noted {x₁ : m₁ Value} {x₂ : m₂ Value} (h : L.Rel (·.Meets p) x₁ x₂) :
    L.Rel (·.Meets p) (x₁ >>= noted) (x₂ >>= noted) :=
  L.rel_bind h fun _ hv => L.rel_noted hv

variable {L}

/-! ## Builtins -/

/-- A call without arguments, as an initial state is computed. -/
theorem rel_callBare (hcall : L.Calls call₁ call₂) {v : Value} (h : v.Meets p) :
    L.Rel (·.Meets p) (callBare call₁ v) (callBare call₂ v) := by
  cases v with
  | function f => exact hcall f (meets_function.mp h) valuesMeet_nil
  | builtin name =>
    simp only [callBare]
    exact L.rel_bind (L.rel_note (meets_builtin.mp h)) fun _ _ =>
      L.rel_noted (meets_bareBuiltin name)
  -- what cannot be called gives undefined
  | undefined | null | bool | number | string | list | map | node =>
    exact L.rel_pure meets_undefined

/-- The slots that are made one by one for a length. -/
theorem rel_emptySlots (n : Nat) {slots : List Value} (h : ValuesMeet slots p) :
    L.Rel (ValuesMeet · p) (emptySlots env₁ n slots) (emptySlots env₂ n slots) := by
  induction n generalizing slots with
  | zero => exact L.rel_pure h
  | succ n ih =>
    simp only [emptySlots]
    refine L.rel_bind L.rel_tick fun _ _ => ?_
    exact ih (valuesMeet_cons.mpr ⟨meets_undefined, h⟩)

/-- The items out of which a list is made.  Only slots that are made for a length take steps. -/
theorem rel_itemsFrom {v : Value} (h : v.Meets p) :
    L.Rel (ValuesMeet · p) (itemsFrom env₁ v) (itemsFrom env₂ v) := by
  cases v with
  | list items => exact L.rel_pure (meets_list.mp h)
  | string s => exact L.rel_pure (meets_characters s)
  | map fields => exact rel_emptySlots _ valuesMeet_nil
  | undefined | null | bool | number | node | function | builtin =>
    exact L.rel_pure valuesMeet_nil

/-- What a builtin does, whichever way it maps items. -/
theorem rel_runBuiltin (hcall : L.Calls call₁ call₂)
    {map₁ : Value → List Value → m₁ (List Value)} {map₂ : Value → List Value → m₂ (List Value)}
    (hmap : L.Maps map₁ map₂) (name : String) {args : List Value} (hargs : ValuesMeet args p) :
    L.Rel (·.Meets p) (runBuiltin env₁ call₁ map₁ name args)
      (runBuiltin env₂ call₂ map₂ name args) := by
  have hfirst := meets_argument hargs 0
  unfold runBuiltin
  split
  · -- the initial state is the result of a call if it can be called
    generalize argument args 0 = first at hfirst ⊢
    cases first with
    | function | builtin =>
      refine L.rel_bind (rel_callBare hcall hfirst) fun v hv => ?_
      exact L.rel_pure (meets_statePair hv)
    -- anything else is the initial state itself
    | undefined | null | bool | number | string | list | map | node =>
      exact L.rel_pure (meets_statePair hfirst)
  -- `useMemo`: the function is called on the spot
  · exact rel_callBare hcall hfirst
  -- `Array.from`, with or without a function for the items
  · refine L.rel_bind (rel_itemsFrom hfirst) fun items hitems => ?_
    cases hmapper : args[1]? with
    | none => exact L.rel_pure (meets_list.mpr hitems)
    | some mapper =>
      refine L.rel_bind (hmap (meets_of_getElem? hargs hmapper) hitems) fun mapped hmapped => ?_
      exact L.rel_pure (meets_list.mpr hmapped)
  · exact L.rel_pure (meets_builtinValue hargs name)

/-- A call of a builtin takes note of the builtin before it runs and of the result afterwards. -/
theorem rel_builtinWith (hcall : L.Calls call₁ call₂)
    {map₁ : Value → List Value → m₁ (List Value)} {map₂ : Value → List Value → m₂ (List Value)}
    (hmap : L.Maps map₁ map₂) {name : String} (hname : p.builtin name) {args : List Value}
    (hargs : ValuesMeet args p) :
    L.Rel (·.Meets p) (builtinWith env₁ call₁ map₁ name args)
      (builtinWith env₂ call₂ map₂ name args) := by
  unfold builtinWith
  refine L.rel_bind (L.rel_note hname) fun _ _ => ?_
  exact rel_bind_noted L (rel_runBuiltin hcall hmap name hargs)

/-! ## Calls for each item -/

theorem maps_mapToUndefined : L.Maps mapToUndefined mapToUndefined := by
  intro mapper items _ _
  refine L.rel_pure fun v hv => ?_
  obtain ⟨_, -, rfl⟩ := List.mem_map.mp hv
  exact meets_undefined

/-- The call of a value with an item and its index. -/
theorem rel_callOnItem (hcall : L.Calls call₁ call₂) {callee item : Value}
    (hcallee : callee.Meets p) (hitem : item.Meets p) (index : Nat) :
    L.Rel (·.Meets p) (callOnItem env₁ call₁ callee item index)
      (callOnItem env₂ call₂ callee item index) := by
  have hargs : ValuesMeet [item, .number (Float.ofNat index)] p := by simp [hitem]
  cases callee with
  | function f => exact hcall f (meets_function.mp hcallee) hargs
  | builtin name =>
    exact rel_builtinWith hcall maps_mapToUndefined (meets_builtin.mp hcallee) hargs
  | undefined | null | bool | number | string | list | map | node =>
    exact L.rel_pure meets_undefined

section Items

variable (hcall : L.Calls call₁ call₂) {callee : Value} (hcallee : callee.Meets p)
include hcall hcallee

theorem rel_mapItems (i : Nat) {items : List Value} (h : ValuesMeet items p) :
    L.Rel (ValuesMeet · p) (mapItems env₁ call₁ callee i items)
      (mapItems env₂ call₂ callee i items) := by
  induction items generalizing i with
  | nil => exact L.rel_pure valuesMeet_nil
  | cons item rest ih =>
    rw [valuesMeet_cons] at h
    simp only [mapItems]
    refine L.rel_bind (rel_callOnItem hcall hcallee h.1 i) fun v hv => ?_
    refine L.rel_bind (ih (i + 1) h.2) fun mapped hmapped => ?_
    exact L.rel_pure (valuesMeet_cons.mpr ⟨hv, hmapped⟩)

/-- The items that a call keeps are among the items. -/
theorem rel_filterItems (i : Nat) {items : List Value} (h : ValuesMeet items p) :
    L.Rel (ValuesMeet · p) (filterItems env₁ call₁ callee i items)
      (filterItems env₂ call₂ callee i items) := by
  induction items generalizing i with
  | nil => exact L.rel_pure valuesMeet_nil
  | cons item rest ih =>
    rw [valuesMeet_cons] at h
    simp only [filterItems]
    refine L.rel_bind (rel_callOnItem hcall hcallee h.1 i) fun keep _ => ?_
    refine L.rel_bind (ih (i + 1) h.2) fun kept hkept => ?_
    apply L.rel_pure
    -- the result of the call only decides whether the item stays; nothing has to be known of it
    split
    · exact valuesMeet_cons.mpr ⟨h.1, hkept⟩
    · exact hkept

/-- A search stops at the first item for which the call gives what is wanted. -/
theorem rel_findItem (wanted : Bool) (i : Nat) {items : List Value} (h : ValuesMeet items p) :
    L.Rel (fun found => ∀ v ∈ found, v.Meets p) (findItem env₁ call₁ callee wanted i items)
      (findItem env₂ call₂ callee wanted i items) := by
  induction items generalizing i with
  | nil => exact L.rel_pure (by simp)
  | cons item rest ih =>
    rw [valuesMeet_cons] at h
    simp only [findItem]
    refine L.rel_bind (rel_callOnItem hcall hcallee h.1 i) fun v _ => ?_
    split
    · exact L.rel_pure (by simpa using h.1)
    · exact ih (i + 1) h.2

end Items

/-- The methods of lists: those that call a function on items, and those that call none. -/
theorem rel_callListMethod (hcall : L.Calls call₁ call₂) {items args : List Value}
    (hitems : ValuesMeet items p) (method : String) (hargs : ValuesMeet args p) :
    L.Rel (·.Meets p) (callListMethod env₁ call₁ items method args)
      (callListMethod env₂ call₂ items method args) := by
  have hcallee := meets_argument hargs 0
  unfold callListMethod
  split
  · refine L.rel_bind (rel_mapItems hcall hcallee 0 hitems) fun mapped hmapped => ?_
    exact L.rel_pure (meets_list.mpr hmapped)
  · refine L.rel_bind (rel_filterItems hcall hcallee 0 hitems) fun kept hkept => ?_
    exact L.rel_pure (meets_list.mpr hkept)
  -- `find` gives an item of the list, or undefined
  · refine L.rel_bind (rel_findItem hcall hcallee true 0 hitems) fun found hfound => ?_
    apply L.rel_pure
    cases found with
    | none => exact meets_undefined
    | some v => exact hfound v rfl
  -- `some` and `every` search as well and give a truth value
  · exact L.rel_bind (rel_findItem hcall hcallee true 0 hitems) fun _ _ =>
      L.rel_pure (meets_bool _)
  · exact L.rel_bind (rel_findItem hcall hcallee false 0 hitems) fun _ _ =>
      L.rel_pure (meets_bool _)
  · exact L.rel_pure (meets_listMethod hitems hargs method)

/-! ## Calls of any value -/

theorem rel_callBuiltin (hcall : L.Calls call₁ call₂) {name : String} (hname : p.builtin name)
    {args : List Value} (hargs : ValuesMeet args p) :
    L.Rel (·.Meets p) (callBuiltin env₁ call₁ name args) (callBuiltin env₂ call₂ name args) :=
  rel_builtinWith hcall (fun hmapper hitems => rel_mapItems hcall hmapper 0 hitems) hname hargs

/-- A call of any value. -/
theorem rel_callValue (hcall : L.Calls call₁ call₂) {callee : Value} (hcallee : callee.Meets p)
    {args : List Value} (hargs : ValuesMeet args p) :
    L.Rel (·.Meets p) (callValue env₁ call₁ callee args) (callValue env₂ call₂ callee args) := by
  cases callee with
  | function f => exact hcall f (meets_function.mp hcallee) hargs
  | builtin name => exact rel_callBuiltin hcall (meets_builtin.mp hcallee) hargs
  | undefined | null | bool | number | string | list | map | node =>
    exact L.rel_pure meets_undefined

/-- The characters of a filler, each of which takes a step. -/
theorem rel_padChars (fill : List Char) (n : Nat) (rest taken : List Char) :
    L.Rel (fun _ => True) (padChars env₁ fill n rest taken) (padChars env₂ fill n rest taken) := by
  induction n generalizing rest taken with
  | zero => exact L.rel_pure trivial
  | succ n ih =>
    simp only [padChars]
    refine L.rel_bind L.rel_tick fun _ _ => ?_
    cases rest with
    | cons c rest => exact ih rest (c :: taken)
    | nil => exact ih fill.tail (fill.headD ' ' :: taken)

theorem rel_pad (s : String) (atStart : Bool) (padding : Padding) :
    L.Rel (·.Meets p) (pad env₁ s atStart padding) (pad env₂ s atStart padding) := by
  unfold pad
  dsimp only
  split
  · exact L.rel_pure (meets_string s)
  · exact L.rel_bind (rel_padChars _ _ _ _) fun _ _ => L.rel_pure (meets_string _)

/-- A call of a method of any value. -/
theorem rel_callMethod (hcall : L.Calls call₁ call₂) {object : Value} (hobject : object.Meets p)
    (method : String) {args : List Value} (hargs : ValuesMeet args p) :
    L.Rel (·.Meets p) (callMethod env₁ call₁ object method args)
      (callMethod env₂ call₂ object method args) := by
  cases object with
  | list items => exact rel_callListMethod hcall (meets_list.mp hobject) method hargs
  -- padding is the one method of texts that takes steps
  | string s =>
    simp only [callMethod]
    split
    · exact rel_pad s true _
    split
    · exact rel_pad s false _
    · exact L.rel_pure (meets_stringMethod s method args)
  | number x => exact L.rel_pure (meets_numberMethod x method args)
  -- a field that holds a function is called like a method
  | map fields =>
    simp only [callMethod]
    cases hget : Fields.get? fields method with
    | none => exact L.rel_pure meets_undefined
    | some callee => exact rel_callValue hcall ((meets_map.mp hobject).get? hget) hargs
  | builtin space =>
    exact rel_callBuiltin hcall (p.builtin_member method (meets_builtin.mp hobject)) hargs
  | undefined | null | bool | node | function => exact L.rel_pure meets_undefined

/-! ## Expressions and markup -/

/-- An element under a name that is bound to a function is what a call of the function gives, and
any other element is rendered as it stands. -/
theorem rel_renderElement (hcall : L.Calls call₁ call₂) {tag : String} {kind : TagKind}
    (htag : p.tag ⟨tag, kind⟩) {props : Fields Value} (hprops : FieldsMeet props p)
    {children : List RenderNode} (hchildren : NodesMeet children p) :
    L.Rel (NodesMeet · p) (renderElement env₁ call₁ tag kind props children)
      (renderElement env₂ call₂ tag kind props children) := by
  have hplain : NodesMeet [.element tag kind (shownProps props) children] p :=
    nodesMeet_cons.mpr ⟨meets_plain htag hprops hchildren, nodesMeet_nil⟩
  unfold renderElement
  dsimp only
  split
  · refine L.rel_bind (L.rel_lookUp tag) fun v hv => ?_
    cases v with
    -- a component is called with its properties and children as one argument
    | function f =>
      have hargs : ValuesMeet [.map (withChildren props children)] p := by
        simp [fieldsMeet_withChildren hprops hchildren]
      refine L.rel_bind (hcall f (meets_function.mp hv) hargs) fun result hresult => ?_
      exact L.rel_pure (meets_nodes result hresult)
    -- a name that is bound to something else is left as a tag
    | undefined | null | bool | number | string | list | map | node | builtin =>
      exact L.rel_pure hplain
  · exact L.rel_pure hplain

/-- A law holds of a computation that takes a step first. -/
theorem rel_ticked {α : Type} {Q : α → Prop} {x₁ : m₁ α} {x₂ : m₂ α} (h : L.Rel Q x₁ x₂) :
    L.Rel Q (tick env₁ >>= fun _ => x₁) (tick env₂ >>= fun _ => x₂) :=
  L.rel_bind L.rel_tick fun _ _ => h

section Evaluation

-- in a group of mutual theorems the caller is used by some and handed on by the others
set_option linter.unusedSectionVars false

variable (hcall : L.Calls call₁ call₂)
include hcall

mutual

/-- An expression, by recursion over the syntax tree together with items, entries and markup. -/
theorem rel_eval : (e : Expr) → p.Permits e.written →
    L.Rel (·.Meets p) (eval env₁ call₁ e) (eval env₂ call₂ e)
  | .undefined, _ | .unmodelled _, _ => by
    simp only [eval]
    exact rel_ticked (L.rel_noted meets_undefined)
  | .null, _ => by
    simp only [eval]
    exact rel_ticked (L.rel_noted meets_null)
  | .bool b, _ => by
    simp only [eval]
    exact rel_ticked (L.rel_noted (meets_bool b))
  | .number x, _ => by
    simp only [eval]
    exact rel_ticked (L.rel_noted (meets_number x))
  | .string s, _ => by
    simp only [eval]
    exact rel_ticked (L.rel_noted (meets_string s))
  -- the law itself says that what a name stands for meets the policy
  | .name name, _ => by
    simp only [eval]
    exact rel_ticked (rel_bind_noted L (L.rel_lookUp name))
  | .template quasis exprs, h => by
    simp only [eval]
    refine rel_ticked (L.rel_bind (rel_evalTemplate exprs quasis "" h) fun text _ => ?_)
    exact L.rel_noted (meets_string text)
  | .array items, h => by
    simp only [eval]
    refine rel_ticked (L.rel_bind (rel_evalItems items h) fun vs hvs => ?_)
    exact L.rel_noted (meets_list.mpr hvs)
  | .object entries, h => by
    simp only [eval]
    refine rel_ticked (L.rel_bind (rel_evalFields spreadFields
      (fun hv => fieldsMeet_spreadFields hv) entries [] h .nil) fun fields hfields => ?_)
    exact L.rel_noted (meets_map.mpr hfields)
  | .member object key, h => by
    rw [Expr.written, Policy.permits_append] at h
    simp only [eval]
    refine rel_ticked (L.rel_bind (rel_eval object h.1) fun v hv => ?_)
    refine L.rel_bind (rel_eval key h.2) fun name _ => ?_
    exact L.rel_noted (meets_member hv name.toText)
  | .unary op e, h => by
    simp only [eval]
    refine rel_ticked (L.rel_bind (rel_eval e h) fun v _ => ?_)
    exact L.rel_noted (meets_unary op v)
  | .binary op left right, h => by
    rw [Expr.written, Policy.permits_append] at h
    simp only [eval]
    refine rel_ticked (L.rel_bind (rel_eval left h.1) fun a _ => ?_)
    refine L.rel_bind (rel_eval right h.2) fun b _ => ?_
    exact L.rel_noted (meets_binary op a b)
  | .logical op left right, h => by
    rw [Expr.written, Policy.permits_append] at h
    simp only [eval]
    refine rel_ticked (L.rel_bind (rel_eval left h.1) fun a ha => ?_)
    -- the left side is the result, or the right side decides
    split
    · exact L.rel_noted ha
    · exact rel_bind_noted L (rel_eval right h.2)
  | .conditional test consequent alternate, h => by
    rw [Expr.written, Policy.permits_append, Policy.permits_append] at h
    simp only [eval]
    refine rel_ticked (L.rel_bind (rel_eval test h.1) fun v _ => ?_)
    -- only the branch that is taken runs
    split
    · exact rel_bind_noted L (rel_eval consequent h.2.1)
    · exact rel_bind_noted L (rel_eval alternate h.2.2)
  | .call callee args, h => by
    rw [Expr.written, Policy.permits_append] at h
    have hargs := rel_evalList args h.2
    have hcallee := rel_eval callee h.1
    cases callee with
    | member object key =>
      -- a member that is called is a method of the object
      rw [Expr.written, Policy.permits_append] at h
      simp only [eval]
      refine rel_ticked (L.rel_bind (rel_eval object h.1.1) fun v hv => ?_)
      refine L.rel_bind (rel_eval key h.1.2) fun method _ => ?_
      refine L.rel_bind hargs fun values hvalues => ?_
      exact rel_bind_noted L (rel_callMethod hcall hv method.toText hvalues)
    | _ =>
      simp only [eval] at hcallee ⊢
      refine rel_ticked (L.rel_bind hcallee fun v hv => ?_)
      refine L.rel_bind hargs fun values hvalues => ?_
      exact rel_bind_noted L (rel_callValue hcall hv hvalues)
  | .function f, h => by
    simp only [eval]
    exact rel_ticked (L.rel_noted (meets_function.mpr h))
  | .markup node, h => by
    simp only [eval]
    refine rel_ticked (L.rel_bind (rel_renderNode node h) fun nodes hnodes => ?_)
    exact L.rel_noted (meets_nodesValue hnodes)

theorem rel_evalList : (es : List Expr) → p.Permits (Expr.listWritten es) →
    L.Rel (ValuesMeet · p) (evalList env₁ call₁ es) (evalList env₂ call₂ es)
  | [], _ => L.rel_pure valuesMeet_nil
  | e :: rest, h => by
    rw [Expr.listWritten, Policy.permits_append] at h
    simp only [evalList]
    refine L.rel_bind (rel_eval e h.1) fun v hv => ?_
    refine L.rel_bind (rel_evalList rest h.2) fun vs hvs => ?_
    exact L.rel_pure (valuesMeet_cons.mpr ⟨hv, hvs⟩)

/-- A template, whose result is a text whatever its expressions give. -/
theorem rel_evalTemplate : (exprs : List Expr) → (quasis : List String) → (text : String) →
    p.Permits (Expr.listWritten exprs) →
    L.Rel (fun _ => True) (evalTemplate env₁ call₁ exprs quasis text)
      (evalTemplate env₂ call₂ exprs quasis text)
  | [], _, _, _ => by
    simp only [evalTemplate]
    exact L.rel_pure trivial
  | _ :: _, [], _, _ => by
    simp only [evalTemplate]
    exact L.rel_pure trivial
  -- the value only enters the text, so nothing has to be known of it
  | e :: rest, quasi :: quasis, text, h => by
    rw [Expr.listWritten, Policy.permits_append] at h
    simp only [evalTemplate]
    refine L.rel_bind (rel_eval e h.1) fun v _ => ?_
    exact rel_evalTemplate rest quasis _ h.2

/-- The items of a list or of the arguments of a call. -/
theorem rel_evalItems : (items : List Item) → p.Permits (Item.listWritten items) →
    L.Rel (ValuesMeet · p) (evalItems env₁ call₁ items) (evalItems env₂ call₂ items)
  | [], _ => L.rel_pure valuesMeet_nil
  | .value e :: rest, h => by
    rw [Item.listWritten, Policy.permits_append] at h
    simp only [evalItems]
    refine L.rel_bind (rel_eval e h.1) fun v hv => ?_
    refine L.rel_bind (rel_evalItems rest h.2) fun vs hvs => ?_
    exact L.rel_pure (valuesMeet_cons.mpr ⟨hv, hvs⟩)
  -- the items of what is spread stand among the others
  | .spread e :: rest, h => by
    rw [Item.listWritten, Policy.permits_append] at h
    simp only [evalItems]
    refine L.rel_bind (rel_eval e h.1) fun v hv => ?_
    refine L.rel_bind (rel_evalItems rest h.2) fun vs hvs => ?_
    exact L.rel_pure (valuesMeet_append.mpr ⟨meets_spreadItems hv, hvs⟩)

/-- The fields of a map, or of an element under another reading of spreads. -/
theorem rel_evalFields (spread : Value → Fields Value)
    (hspread : ∀ {v : Value}, v.Meets p → FieldsMeet (spread v) p) :
    (entries : List Entry) → (fields : Fields Value) → p.Permits (Entry.listWritten entries) →
    FieldsMeet fields p →
    L.Rel (FieldsMeet · p) (evalFields env₁ call₁ spread entries fields)
      (evalFields env₂ call₂ spread entries fields)
  | [], fields, _, hfields => L.rel_pure hfields
  -- the fields that were there meet the policy, and so does the value that is put among them
  | .field key e :: rest, fields, h, hfields => by
    rw [Entry.listWritten, Policy.permits_append] at h
    simp only [evalFields]
    refine L.rel_bind (rel_eval e h.1) fun v hv => ?_
    exact rel_evalFields spread hspread rest _ h.2 (hfields.insert key hv)
  | .spread e :: rest, fields, h, hfields => by
    rw [Entry.listWritten, Policy.permits_append] at h
    simp only [evalFields]
    refine L.rel_bind (rel_eval e h.1) fun v hv => ?_
    exact rel_evalFields spread hspread rest _ h.2 (hfields.insertAll (hspread hv))

/-- A node of markup takes a step before its parts are rendered. -/
theorem rel_renderNode : (node : Node) → p.Permits node.written →
    L.Rel (NodesMeet · p) (renderNode env₁ call₁ node) (renderNode env₂ call₂ node)
  | .text s, _ => by
    simp only [renderNode]
    exact rel_ticked (L.rel_pure (nodesMeet_cons.mpr ⟨meets_text s, nodesMeet_nil⟩))
  -- what is shown of a value are its nodes
  | .expr e, h => by
    simp only [renderNode]
    refine rel_ticked (L.rel_bind (rel_eval e h) fun v hv => ?_)
    exact L.rel_pure (meets_nodes v hv)
  | .fragment children, h => by
    simp only [renderNode]
    exact rel_ticked (rel_renderNodes children h)
  -- properties first, then children, then the element itself
  | .element tag kind attributes children, h => by
    rw [Node.written, Policy.permits_cons, Policy.permits_append] at h
    simp only [renderNode]
    refine rel_ticked (L.rel_bind (rel_evalFields spreadProps
      (fun hv => fieldsMeet_spreadProps hv) attributes [] h.2.1 .nil) fun props hprops => ?_)
    refine L.rel_bind (rel_renderNodes children h.2.2) fun nodes hnodes => ?_
    exact rel_renderElement hcall h.1 hprops hnodes

theorem rel_renderNodes : (nodes : List Node) → p.Permits (Node.listWritten nodes) →
    L.Rel (NodesMeet · p) (renderNodes env₁ call₁ nodes) (renderNodes env₂ call₂ nodes)
  | [], _ => L.rel_pure nodesMeet_nil
  | node :: rest, h => by
    rw [Node.listWritten, Policy.permits_append] at h
    simp only [renderNodes]
    refine L.rel_bind (rel_renderNode node h.1) fun shown hshown => ?_
    refine L.rel_bind (rel_renderNodes rest h.2) fun more hmore => ?_
    exact L.rel_pure (nodesMeet_append.mpr ⟨hshown, hmore⟩)

end

theorem rel_evalOptional {e : Option Expr} (h : ∀ expr, e = some expr → p.Permits expr.written) :
    L.Rel (·.Meets p) (evalOptional env₁ call₁ e) (evalOptional env₂ call₂ e) := by
  cases e with
  | none => exact L.rel_pure meets_undefined
  | some e => exact rel_eval hcall e (h e rfl)

end Evaluation

end EvalLaw

/-! ## Patterns and statements -/

namespace BindLaw

open EvalLaw

variable {L : BindLaw p m₁ m₂ env₁ env₂}

/-- A law holds of a computation and the binding of a name after it. -/
theorem rel_bindRest {x₁ : m₁ Unit} {x₂ : m₂ Unit} (h : L.Rel (fun _ => True) x₁ x₂)
    (rest : Option String) {v : Value} (hv : v.Meets p) :
    L.Rel (fun _ => True)
      (x₁ >>= fun _ => match rest with
        | some name => declare name v
        | none => pure ())
      (x₂ >>= fun _ => match rest with
        | some name => declare name v
        | none => pure ()) := by
  refine L.rel_bind h fun _ _ => ?_
  cases rest with
  | none => exact L.rel_pure trivial
  | some name => exact L.rel_declare name hv

section Binding

set_option linter.unusedSectionVars false

variable (hcall : L.Calls call₁ call₂)
include hcall

mutual

/-- The binding of a pattern, whose defaults are evaluated only where nothing is given. -/
theorem rel_bindPattern : (pattern : Pattern) → {v : Value} → p.Permits pattern.written →
    v.Meets p →
    L.Rel (fun _ => True) (bindPattern env₁ call₁ pattern v) (bindPattern env₂ call₂ pattern v)
  | .name name, v, _, hv => by
    simp only [bindPattern]
    exact L.rel_declare name hv
  | .object slots rest, v, h, hv => by
    simp only [bindPattern]
    -- the fields and the rest come from the same value
    exact rel_bindRest (rel_bindFields slots h hv) rest
      (meets_map.mpr (fieldsMeet_restFields hv slots))
  | .array slots rest, v, h, hv => by
    have hitems := meets_spreadItems hv
    simp only [bindPattern]
    refine rel_bindRest (rel_bindItems slots h hitems) rest (meets_list.mpr fun w hw => ?_)
    exact hitems w (List.mem_of_mem_drop hw)
  -- the default may mention what earlier parts of the pattern have bound
  | .withDefault pattern default, v, h, hv => by
    rw [Pattern.written, Policy.permits_append] at h
    simp only [bindPattern]
    split
    · refine L.rel_bind (rel_eval hcall default h.2) fun w hw => ?_
      exact rel_bindPattern pattern h.1 hw
    · exact rel_bindPattern pattern h.1 hv

/-- The fields of a pattern, each bound to the member of its name. -/
theorem rel_bindFields : (slots : List Slot) → {v : Value} → p.Permits (Slot.listWritten slots) →
    v.Meets p →
    L.Rel (fun _ => True) (bindFields env₁ call₁ slots v) (bindFields env₂ call₂ slots v)
  | [], _, _, _ => L.rel_pure trivial
  | .field key pattern :: rest, v, h, hv => by
    rw [Slot.listWritten, Policy.permits_append] at h
    simp only [bindFields]
    refine L.rel_bind (rel_bindPattern pattern h.1 (meets_member hv key)) fun _ _ => ?_
    exact rel_bindFields rest h.2 hv
  -- elements and holes do not occur in a pattern of fields, which passes them by
  | .element pattern :: rest, v, h, hv => by
    rw [Slot.listWritten, Policy.permits_append] at h
    simp only [bindFields]
    exact rel_bindFields rest h.2 hv
  | .hole :: rest, v, h, hv => by
    simp only [bindFields]
    exact rel_bindFields rest h hv

/-- The elements of a pattern, each bound to the item in its place. -/
theorem rel_bindItems : (slots : List Slot) → {items : List Value} →
    p.Permits (Slot.listWritten slots) → ValuesMeet items p →
    L.Rel (fun _ => True) (bindItems env₁ call₁ slots items) (bindItems env₂ call₂ slots items)
  | [], _, _, _ => L.rel_pure trivial
  | .element pattern :: rest, items, h, hitems => by
    rw [Slot.listWritten, Policy.permits_append] at h
    simp only [bindItems]
    refine L.rel_bind (rel_bindPattern pattern h.1 (meets_headD hitems)) fun _ _ => ?_
    exact rel_bindItems rest h.2 (valuesMeet_tail hitems)
  -- fields do not occur in a pattern of elements; like holes they only use up an item
  | .field key pattern :: rest, items, h, hitems => by
    rw [Slot.listWritten, Policy.permits_append] at h
    simp only [bindItems]
    exact rel_bindItems rest h.2 (valuesMeet_tail hitems)
  | .hole :: rest, items, h, hitems => by
    simp only [bindItems]
    exact rel_bindItems rest h (valuesMeet_tail hitems)

end

/-- The parameters of a function, each bound to the argument in its place or to undefined. -/
theorem rel_bindParams {params : List Pattern} {args : List Value}
    (h : p.Permits (Pattern.listWritten params)) (hargs : ValuesMeet args p) :
    L.Rel (fun _ => True) (bindParams env₁ call₁ params args)
      (bindParams env₂ call₂ params args) := by
  induction params generalizing args with
  | nil => exact L.rel_pure trivial
  | cons pattern rest ih =>
    rw [Pattern.listWritten, Policy.permits_append] at h
    simp only [bindParams]
    refine L.rel_bind (rel_bindPattern hcall pattern h.1 (meets_headD hargs)) fun _ _ => ?_
    exact ih h.2 (valuesMeet_tail hargs)

mutual

/-- A statement, by recursion over the syntax tree together with lists of statements. -/
theorem rel_exec : (stmt : Stmt) → p.Permits stmt.written →
    L.Rel (fun returned => ∀ v ∈ returned, v.Meets p) (exec env₁ call₁ stmt)
      (exec env₂ call₂ stmt)
  -- without an initial value only the pattern has to be permitted
  | .bind pattern init, h => by
    have hpattern : p.Permits pattern.written := by
      cases init with
      | none => exact h
      | some e => exact (Policy.permits_append.mp h).1
    have hinit : ∀ e, init = some e → p.Permits e.written := by
      rintro e rfl
      exact (Policy.permits_append.mp h).2
    simp only [exec]
    refine rel_ticked (L.rel_bind (rel_evalOptional hcall hinit) fun v hv => ?_)
    refine L.rel_bind (rel_bindPattern hcall pattern hpattern hv) fun _ _ => ?_
    exact L.rel_pure (by simp)
  -- the value of the test is forgotten once it has decided which branch runs
  | .cond test consequent alternate, h => by
    rw [Stmt.written, Policy.permits_append, Policy.permits_append] at h
    simp only [exec]
    refine rel_ticked (L.rel_bind (rel_eval hcall test h.1) fun v _ => ?_)
    split
    · exact rel_execAll consequent h.2.1
    · exact rel_execAll alternate h.2.2
  | .ret e, h => by
    have he : ∀ expr, e = some expr → p.Permits expr.written := by
      rintro expr rfl
      exact h
    simp only [exec]
    refine rel_ticked (L.rel_bind (rel_evalOptional hcall he) fun v hv => ?_)
    exact L.rel_pure (by simpa using hv)
  | .effect _, _ => by
    simp only [exec]
    exact rel_ticked (L.rel_pure (by simp))

/-- Statements run one after another until one of them returns. -/
theorem rel_execAll : (stmts : List Stmt) → p.Permits (Stmt.listWritten stmts) →
    L.Rel (fun returned => ∀ v ∈ returned, v.Meets p) (execAll env₁ call₁ stmts)
      (execAll env₂ call₂ stmts)
  | [], _ => L.rel_pure (by simp)
  | stmt :: rest, h => by
    rw [Stmt.listWritten, Policy.permits_append] at h
    simp only [execAll]
    refine L.rel_bind (rel_exec stmt h.1) fun returned hreturned => ?_
    -- a statement that returns ends the run
    cases returned with
    | some v => exact L.rel_pure hreturned
    | none => exact rel_execAll rest h.2

end

/-- The constants of a script, bound in order before its component is called. -/
theorem rel_bindConstants {constants : List (Pattern × Expr)}
    (h : p.Permits (constants.flatMap fun (pattern, init) => pattern.written ++ init.written)) :
    L.Rel (fun _ => True) (bindConstants env₁ call₁ constants)
      (bindConstants env₂ call₂ constants) := by
  induction constants with
  | nil => exact L.rel_pure trivial
  | cons constant rest ih =>
    obtain ⟨pattern, init⟩ := constant
    rw [List.flatMap_cons, Policy.permits_append, Policy.permits_append] at h
    simp only [bindConstants]
    refine L.rel_bind (rel_eval hcall init h.1.2) fun v hv => ?_
    refine L.rel_bind (rel_bindPattern hcall pattern h.1.1 hv) fun _ _ => ?_
    exact ih h.2

end Binding

end BindLaw

/-! ## Functions and blueprints -/

namespace Law

variable {L : Law p m₁ m₂ env₁ env₂}

/-- A call opens a frame, binds the parameters, runs the body and closes the frame. -/
theorem rel_runFunction (hcall : L.Calls call₁ call₂) {f : Function} (h : p.Permits f.written)
    {args : List Value}
    (hargs : ValuesMeet args p) :
    L.Rel (·.Meets p) (runFunction env₁ call₁ f args) (runFunction env₂ call₂ f args) := by
  obtain ⟨identity, params, body⟩ := f
  rw [Function.written, Policy.permits_append] at h
  unfold runFunction
  refine L.rel_bind L.rel_openFrame fun _ _ => ?_
  refine L.rel_bind (BindLaw.rel_bindParams hcall h.1 hargs) fun _ _ => ?_
  refine L.rel_bind (BindLaw.rel_execAll hcall body h.2) fun result hresult => ?_
  refine L.rel_bind L.rel_closeFrame fun _ _ => ?_
  -- a body that returns nothing gives undefined
  apply L.rel_noted
  cases result with
  | none => exact meets_undefined
  | some v => exact hresult v rfl

/-- A law that calls obey is obeyed by the rendering of a blueprint. -/
theorem rel_rendering {b : Blueprint} {limits limits' : Limits}
    {L : Law p m₁ m₂ (b.env limits) (b.env limits')}
    (hcall : L.Calls (callAt (b.env limits) limits.depth) (callAt (b.env limits') limits'.depth))
    (h : p.Permits b.written) (props : Bag) :
    L.Rel (NodesMeet · p) (b.rendering props limits) (b.rendering props limits') := by
  rw [Blueprint.written, Policy.permits_append, Policy.permits_append] at h
  have hprops : ValuesMeet [.map (Value.fieldsOfJson props)] p := by
    simp [fieldsMeet_ofJson props]
  unfold Blueprint.rendering
  refine L.rel_bind (BindLaw.rel_bindConstants hcall h.1) fun _ _ => ?_
  refine L.rel_bind (hcall b.factory h.2.2 hprops) fun v hv => ?_
  exact L.rel_pure (meets_nodes v hv)

end Law

end ComponentCanvas.Blueprint
