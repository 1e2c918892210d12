import Mathlib.Tactic.Linarith
import ComponentCanvas.Proofs.Blueprint.Compilation
import ComponentCanvas.Proofs.Blueprint.Metering

/-!
# How Large a Rendering Grows

A step is charged for each expression and for each node of markup that is evaluated, for each
character of padding and for each slot of a list that is made to length.  What is copied is not
charged: a list that is spread twice into a list is twice as long after four steps, and so is the
text or the markup that it shows.  A component that does so again and again renders more nodes than
any multiple of its steps.
-/

namespace ComponentCanvas.Blueprint

/-! ## Sizes -/

mutual

/-- The number of nodes of a rendered tree. -/
def RenderNode.count : RenderNode → Nat
  | .text _ => 1
  | .element _ _ _ children => RenderNode.listCount children + 1

/-- The number of nodes of rendered trees. -/
def RenderNode.listCount : List RenderNode → Nat
  | [] => 0
  | node :: rest => node.count + RenderNode.listCount rest

end

mutual

/-- The number of JSON values that a JSON value is made of. -/
def jsonCount : Json → Nat
  | .arr items => itemsCount items + 1
  | .obj members => bagCount members + 1
  | .null | .bool _ | .int _ | .float _ | .str _ => 1

/-- The number of JSON values in a list. -/
def itemsCount : List Json → Nat
  | [] => 0
  | item :: rest => jsonCount item + itemsCount rest

/-- The number of JSON values in a bag of properties. -/
def bagCount : List (String × Json) → Nat
  | [] => 0
  | (_, value) :: rest => jsonCount value + bagCount rest

end

/-! ## What a computation takes -/

/-- Whether a computation gives a value and leaves some frames after a number of steps. -/
structure Reaches {α : Type} (x : Metered α) (frames : List Frame) (steps : Nat) (a : α)
    (frames' : List Frame) : Prop where
  outcome : x.outcome frames = .ok (a, frames')
  steps : (x.usage frames).steps = steps

section Reaches

variable {α β : Type} {env : Env} {call : Caller Metered} {frames frames₁ frames₂ : List Frame}
  {k l n : Nat} {v : Value}

theorem Reaches.of_eq {x : Metered α} {a : α} (h : Reaches x frames k a frames₁) (hsteps : k = l) :
    Reaches x frames l a frames₁ := hsteps ▸ h

/-- The steps of two computations in a row add up. -/
theorem Reaches.bind {x : Metered α} {f : α → Metered β} {a : α} {b : β}
    (hx : Reaches x frames k a frames₁) (hf : Reaches (f a) frames₁ l b frames₂) :
    Reaches (x >>= f) frames (k + l) b frames₂ := by
  obtain ⟨houtcome, husage⟩ := Metered.bind_of_ok (f := f) hx.outcome
  refine ⟨houtcome.trans hf.outcome, ?_⟩
  rw [husage, Usage.add, hx.steps, hf.steps]

theorem reaches_pure (a : α) : Reaches (pure a : Metered α) frames 0 a frames := ⟨rfl, rfl⟩

theorem Reaches.noted {x : Metered Value} (h : Reaches x frames k v frames₁) :
    Reaches (x >>= Blueprint.noted) frames k v frames₁ :=
  h.bind (l := 0) ⟨rfl, rfl⟩

/-- What is evaluated takes a step first. -/
theorem Reaches.ticked {x : Metered α} {a : α} (h : Reaches x frames k a frames₁) :
    Reaches (tick env.metered >>= fun _ => x) frames (1 + k) a frames₁ :=
  Reaches.bind (k := 1) (a := ()) ⟨rfl, rfl⟩ h

theorem reaches_string (s : String) :
    Reaches (eval env.metered call (.string s)) frames 1 (.string s) frames := by
  rw [eval]
  exact ⟨rfl, rfl⟩

/-- A name that is bound takes one step. -/
theorem reaches_name {name : String} (h : boundValue? frames name = some v) :
    Reaches (eval env.metered call (.name name)) frames 1 v frames := by
  have hlook : Reaches (lookUp env.metered name) frames 0 v frames := by
    refine ⟨?_, rfl⟩
    show Except.ok (((boundValue? frames name).getD (env.metered.global name)), frames) = _
    rw [h]
    rfl
  rw [eval]
  exact hlook.noted.ticked

/-- A name that no frame binds may be that of a helper. -/
theorem reaches_helper {name : String} {f : Function} (h : boundValue? frames name = none)
    (hget : Fields.get? env.helpers name = some f) :
    Reaches (eval env.metered call (.name name)) frames 1 (.function f) frames := by
  have hglobal : env.metered.global name = .function f := by
    unfold Env.global Env.metered
    simp only [hget]
  have hlook : Reaches (lookUp env.metered name) frames 0 (.function f) frames := by
    refine ⟨?_, rfl⟩
    show Except.ok (((boundValue? frames name).getD (env.metered.global name)), frames) = _
    rw [h, hglobal]
    rfl
  -- the name is not bound in a frame, so the helpers of the blueprint are asked
  rw [eval]
  exact hlook.noted.ticked

theorem reaches_member {object : Expr}
    (h : Reaches (eval env.metered call object) frames k v frames₁) (key : String) :
    Reaches (eval env.metered call (.member object (.string key))) frames (1 + (k + 1))
      (v.member key) frames₁ := by
  rw [eval]
  exact (h.bind ((reaches_string key).bind (l := 0) ⟨rfl, rfl⟩)).ticked

/-- A condition takes the steps of its test and of the branch that is taken. -/
theorem reaches_conditional {test consequent alternate : Expr} {w : Value}
    (htest : Reaches (eval env.metered call test) frames k v frames₁)
    (hbranch : Reaches (eval env.metered call (if v.truthy then consequent else alternate)) frames₁
      l w frames₂) :
    Reaches (eval env.metered call (.conditional test consequent alternate)) frames (1 + (k + l)) w
      frames₂ := by
  rw [eval]
  refine (htest.bind ?_).ticked
  by_cases hv : v.truthy <;> simp only [hv] at hbranch ⊢ <;> exact hbranch.noted

theorem reaches_cons {e : Expr} {rest : List Expr} {values : List Value}
    (h : Reaches (eval env.metered call e) frames k v frames₁)
    (hrest : Reaches (evalList env.metered call rest) frames₁ l values frames₂) :
    Reaches (evalList env.metered call (e :: rest)) frames (k + l) (v :: values) frames₂ := by
  rw [evalList]
  exact h.bind (hrest.bind (l := 0) (reaches_pure _))

/-- The items of a list are the same after a step for each of them. -/
theorem reaches_spread {e : Expr} {rest : List Item} {items values : List Value}
    (h : Reaches (eval env.metered call e) frames k (.list items) frames₁)
    (hrest : Reaches (evalItems env.metered call rest) frames₁ l values frames₂) :
    Reaches (evalItems env.metered call (.spread e :: rest)) frames (k + l) (items ++ values)
      frames₂ := by
  rw [evalItems]
  exact h.bind (hrest.bind (l := 0) (reaches_pure _))

theorem reaches_array {items : List Item} {values : List Value}
    (h : Reaches (evalItems env.metered call items) frames k values frames₁) :
    Reaches (eval env.metered call (.array items)) frames (1 + k) (.list values) frames₁ := by
  rw [eval]
  exact (h.bind (l := 0) ⟨rfl, rfl⟩).ticked

/-- A call of a helper by its name. -/
theorem reaches_call {name : String} {args : List Expr} {f : Function} {values : List Value}
    (hcallee : Reaches (eval env.metered call (.name name)) frames 1 (.function f) frames)
    (hargs : Reaches (evalList env.metered call args) frames k values frames₁)
    (hcall : Reaches (call f values) frames₁ l v frames₂) :
    Reaches (eval env.metered call (.call (.name name) args)) frames (1 + (1 + (k + l))) v
      frames₂ := by
  rw [eval]
  · exact (hcallee.bind (hargs.bind hcall.noted)).ticked
  · rintro object key ⟨⟩

theorem reaches_shown {e : Expr} (h : Reaches (eval env.metered call e) frames k v frames₁) :
    Reaches (renderNodes env.metered call [.expr e]) frames (1 + k) v.nodes frames₁ := by
  have hnode : Reaches (renderNode env.metered call (.expr e)) frames (1 + (k + 0)) v.nodes
      frames₁ := by
    rw [renderNode]
    exact (h.bind (reaches_pure v.nodes)).ticked
  have hrest : Reaches (renderNodes env.metered call []) frames₁ 0 [] frames₁ := ⟨rfl, rfl⟩
  have hnodes : Reaches (renderNodes env.metered call [.expr e]) frames (1 + (k + 0) + (0 + 0))
      (v.nodes ++ []) frames₁ := by
    rw [renderNodes]
    exact hnode.bind (hrest.bind (reaches_pure _))
  -- no node follows the one that is shown
  rwa [List.append_nil] at hnodes

/-- An element of the host without attributes. -/
theorem reaches_element {tag : String} {children : List Node} {nodes : List RenderNode}
    (h : Reaches (renderNodes env.metered call children) frames k nodes frames₁) :
    Reaches (eval env.metered call (.markup (.element tag .intrinsic [] children))) frames
      (1 + (1 + k)) (.node (.element tag .intrinsic [] nodes)) frames₁ := by
  -- without attributes only the children take steps, and the element one for itself
  have hprops : Reaches (evalFields env.metered call spreadProps [] []) frames 0 [] frames :=
    ⟨rfl, rfl⟩
  have hplain : Reaches (renderElement env.metered call tag .intrinsic [] nodes) frames₁ 0
      [.element tag .intrinsic [] nodes] frames₁ := ⟨rfl, rfl⟩
  have hnode : Reaches (renderNode env.metered call (.element tag .intrinsic [] children)) frames
      (1 + (0 + (k + 0))) [.element tag .intrinsic [] nodes] frames₁ := by
    rw [renderNode]
    exact (hprops.bind (h.bind hplain)).ticked
  rw [eval]
  exact (hnode.bind (l := 0) ⟨rfl, rfl⟩).ticked.of_eq (by omega)

/-- A function that returns an expression. -/
theorem reaches_return {identity : Nat} {params : List Pattern} {e : Expr} {args : List Value}
    {own own' : Frame}
    (hparams : Reaches (bindParams env.metered call params args) ([] :: frames) k ()
      (own :: frames))
    (hbody : Reaches (eval env.metered call e) (own :: frames) l v (own' :: frames)) :
    Reaches (runFunction env.metered call (.mk identity params [.ret (some e)]) args) frames
      (k + (1 + l)) v frames := by
  -- frames are opened and closed for free, and the statement costs a step
  have hopen : Reaches openFrame frames 0 () ([] :: frames) := ⟨rfl, rfl⟩
  have hstmt : Reaches (exec env.metered call (.ret (some e))) (own :: frames) (1 + (l + 0))
      (some v) (own' :: frames) := by
    rw [exec]
    exact (hbody.bind (reaches_pure (some v))).ticked
  have hstmts : Reaches (execAll env.metered call [.ret (some e)]) (own :: frames)
      (1 + (l + 0) + 0) (some v) (own' :: frames) := by
    rw [execAll]
    exact hstmt.bind (reaches_pure (some v))
  have hclose : Reaches (closeFrame >>= fun _ => noted v) (own' :: frames) 0 v frames :=
    ⟨rfl, rfl⟩
  rw [runFunction]
  exact (hopen.bind (hparams.bind (hstmts.bind hclose))).of_eq (by omega)

end Reaches

/-! ## A component that grows -/

/-- A list that is doubled as often as a seed is nested. -/
def growth : Expr :=
  .conditional (.member (.name "seed") (.string "next"))
    (.call (.name "grow") [.member (.name "seed") (.string "next"),
      .array [.spread (.name "items"), .spread (.name "items")]])
    (.name "items")

/-- The function that gives this list. -/
def grow : Function := .mk 0 [.name "seed", .name "items"] [.ret (some growth)]

/-- A component that shows a list that has grown from one text. -/
def growing : Blueprint where
  typeId := "Card"
  factoryName := "Card"
  factory := .mk 1 [.object [.field "seed" (.name "seed")] none]
    [.ret (some (.markup (.element "p" .intrinsic [] [.expr (.call (.name "grow")
      [.name "seed", .array [.value (.string "x")]])])))]
  constants := []
  helpers := [("grow", grow)]
  capabilities := []
  sourceHash := ""

/-- A seed that is nested a number of times. -/
def seed : Nat → Json
  | 0 => .obj []
  | k + 1 => .obj [("next", seed k)]

/-- A list that is doubled a number of times. -/
def doubled {α : Type} : Nat → List α → List α
  | 0, items => items
  | k + 1, items => doubled k (items ++ items)

/-- Doubling copies of one item gives more copies of it. -/
theorem doubled_replicate {α : Type} (k n : Nat) (a : α) :
    doubled k (List.replicate n a) = List.replicate (Nat.pow 2 k * n) a := by
  induction k generalizing n with
  | zero => simp [doubled]
  | succ k ih =>
    rw [doubled, List.replicate_append_replicate, ih, ← Nat.two_mul, ← Nat.mul_assoc]
    rfl

theorem truthy_ofJson_seed (k : Nat) : (Value.ofJson (seed k)).truthy = true := by
  cases k <;> rfl

section Grow

variable {env : Env} {call : Caller Metered} {frames : List Frame}

/-- The frame of a call that grows a list. -/
def growFrame (seed : Value) (items : List Value) : Frame :=
  [("seed", seed), ("items", .list items)]

theorem reaches_seed (v : Value) (items : List Value) :
    Reaches (eval env.metered call (.name "seed")) (growFrame v items :: frames) 1 v
      (growFrame v items :: frames) :=
  reaches_name rfl

theorem reaches_items (v : Value) (items : List Value) :
    Reaches (eval env.metered call (.name "items")) (growFrame v items :: frames) 1 (.list items)
      (growFrame v items :: frames) :=
  reaches_name rfl

/-- The list twice, for three steps however long it is. -/
theorem reaches_twice (v : Value) (items : List Value) :
    Reaches (eval env.metered call (.array [.spread (.name "items"), .spread (.name "items")]))
      (growFrame v items :: frames) 3 (.list (items ++ items)) (growFrame v items :: frames) := by
  have hnone : Reaches (evalItems env.metered call []) (growFrame v items :: frames) 0 []
      (growFrame v items :: frames) := ⟨rfl, rfl⟩
  have htwice := reaches_array (reaches_spread (reaches_items v items)
    (reaches_spread (reaches_items v items) hnone))
  rwa [List.append_nil] at htwice

/-- Each time that the seed is nested costs thirteen steps, and doubles the list. -/
theorem reaches_grow (henv : Fields.get? env.helpers "grow" = some grow) {k depth : Nat}
    (hdepth : k < depth) (hframes : boundValue? frames "grow" = none) (items : List Value) :
    Reaches (callAt env.metered depth grow [Value.ofJson (seed k), .list items]) frames (13 * k + 6)
      (.list (doubled k items)) frames := by
  induction k generalizing depth frames items with
  | zero =>
    obtain ⟨depth, rfl⟩ : ∃ deeper, depth = deeper + 1 := ⟨depth - 1, by omega⟩
    -- a seed that is not nested leaves the list as it is
    have hbody : Reaches (eval env.metered (callAt env.metered depth) growth)
        (growFrame (.map []) items :: frames) (1 + (3 + 1)) (.list items)
        (growFrame (.map []) items :: frames) :=
      reaches_conditional (reaches_member (reaches_seed _ items) "next") (reaches_items _ items)
    exact reaches_return (k := 0) ⟨rfl, rfl⟩ hbody
  | succ k ih =>
    obtain ⟨depth, rfl⟩ : ∃ deeper, depth = deeper + 1 := ⟨depth - 1, by omega⟩
    let nested : Value := .map [("next", Value.ofJson (seed k))]
    have hnext : Reaches (eval env.metered (callAt env.metered depth)
        (.member (.name "seed") (.string "next"))) (growFrame nested items :: frames) 3
        (Value.ofJson (seed k)) (growFrame nested items :: frames) :=
      reaches_member (reaches_seed nested items) "next"
    have hargs : Reaches (evalList env.metered (callAt env.metered depth)
        [.member (.name "seed") (.string "next"),
          .array [.spread (.name "items"), .spread (.name "items")]])
        (growFrame nested items :: frames) 6 [Value.ofJson (seed k), .list (items ++ items)]
        (growFrame nested items :: frames) :=
      reaches_cons hnext (reaches_cons (reaches_twice nested items) ⟨rfl, rfl⟩)
    have hpast : boundValue? (growFrame nested items :: frames) "grow" = none := hframes
    -- a nested one goes on with what is nested in it and with the list doubled
    have hinner : Reaches (callAt env.metered depth grow
        [Value.ofJson (seed k), .list (items ++ items)]) (growFrame nested items :: frames)
        (13 * k + 6) (.list (doubled k (items ++ items))) (growFrame nested items :: frames) :=
      ih (Nat.lt_of_succ_lt_succ hdepth) hpast (items ++ items)
    -- the call charges for the helper, its arguments and what goes on inside
    have hcall := reaches_call (reaches_helper hpast henv) hargs hinner
    -- a nested seed counts as true, so the call is taken
    have htest : (Value.ofJson (seed k)).truthy = true := truthy_ofJson_seed k
    have hbody : Reaches (eval env.metered (callAt env.metered depth) growth)
        (growFrame nested items :: frames) _ (.list (doubled (k + 1) items))
        (growFrame nested items :: frames) :=
      reaches_conditional hnext (by rw [if_pos htest]; exact hcall)
    exact (reaches_return (k := 0) ⟨rfl, rfl⟩ hbody).of_eq (by omega)

end Grow

/-- Texts are shown as they are. -/
theorem listNodes_replicate (n : Nat) (s : String) :
    Value.listNodes (List.replicate n (.string s)) = List.replicate n (.text s) := by
  induction n with
  | zero => rfl
  | succ n ih =>
    rw [List.replicate_succ, Value.listNodes, ih]
    rfl

theorem listCount_replicate (n : Nat) (s : String) :
    RenderNode.listCount (List.replicate n (.text s)) = n := by
  induction n with
  | zero => rfl
  | succ n ih =>
    rw [List.replicate_succ, RenderNode.listCount, RenderNode.count, ih, Nat.add_comm]

/-- Rendered with a seed that is nested `k` times, the component shows two to the power of `k` texts
after thirteen steps for each time, and fifteen around them. -/
theorem reaches_growing (k : Nat) :
    Reaches (growing.rendering [("seed", seed k)] ⟨1, k + 2⟩) [[]] (13 * k + 15)
      [.element "p" .intrinsic [] (List.replicate (Nat.pow 2 k) (.text "x"))] [[]] := by
  let env : Env := growing.env ⟨0, k + 2⟩
  let call : Caller Metered := callAt env.metered (k + 1)
  let v : Value := Value.ofJson (seed k)
  let frames : List Frame := [[("seed", v)], []]
  have hseed : Reaches (eval env.metered call (.name "seed")) frames 1 v frames := reaches_name rfl
  have hitem : Reaches (evalItems env.metered call [.value (.string "x")]) frames 1 [.string "x"]
      frames := ⟨rfl, rfl⟩
  -- the helper starts with the seed of the bag and a list of one text
  have hargs : Reaches (evalList env.metered call [.name "seed", .array [.value (.string "x")]])
      frames 3 [v, .list [.string "x"]] frames :=
    reaches_cons hseed (reaches_cons (reaches_array hitem) ⟨rfl, rfl⟩)
  have hgrow : Reaches (eval env.metered call (.name "grow")) frames 1 (.function grow) frames :=
    reaches_helper rfl rfl
  have hgrown : Reaches (call grow [v, .list (List.replicate 1 (.string "x"))]) frames (13 * k + 6)
      (.list (doubled k (List.replicate 1 (.string "x")))) frames :=
    reaches_grow rfl (Nat.lt_succ_self k) rfl _
  -- doubled that often, one text has become as many as the power of two
  rw [doubled_replicate, Nat.mul_one] at hgrown
  -- showing the list is one step more, however many nodes it holds
  have hshown := reaches_shown (reaches_call hgrow hargs hgrown)
  rw [Value.nodes, listNodes_replicate] at hshown
  have hparams : Reaches (bindParams env.metered call growing.factory.params
      [.map [("seed", v)]]) [[], []] 0 () frames := ⟨rfl, rfl⟩
  have hcard : Reaches (callAt env.metered (k + 2) growing.factory [.map [("seed", v)]]) [[]]
      (0 + (1 + (1 + (1 + (1 + (1 + (1 + (3 + (13 * k + 6)))))))))
      (.node (.element "p" .intrinsic [] (List.replicate (Nat.pow 2 k) (.text "x")))) [[]] :=
    reaches_return hparams (reaches_element hshown)
  -- around the call of the factory nothing is charged
  have hconstants : Reaches (bindConstants env.metered (callAt env.metered (k + 2))
      growing.constants) [[]] 0 () [[]] := ⟨rfl, rfl⟩
  have hrun := hconstants.bind (f := fun _ => callAt env.metered (k + 2) growing.factory
    [.map [("seed", v)]] >>= fun w => pure w.nodes) (hcard.bind (reaches_pure _))
  exact hrun.of_eq (by omega)

theorem bagCount_seed (k : Nat) : bagCount [("seed", seed k)] = k + 1 := by
  induction k with
  | zero => rfl
  | succ k ih =>
    simp only [bagCount, seed, jsonCount] at ih ⊢
    omega

/-- Powers of two outgrow cubes. -/
theorem cube_le_pow (k : Nat) (h : 16 ≤ k) : 16 * (k * k * k) ≤ Nat.pow 2 k := by
  induction k, h using Nat.le_induction with
  | base => decide
  | succ k hk ih =>
    have hpow : Nat.pow 2 (k + 1) = Nat.pow 2 k * 2 := rfl
    rw [hpow]
    nlinarith

/-- No multiple of the steps and of the size of the bag bounds how many nodes are rendered. -/
theorem nodes_outgrow_steps (factor : Nat) :
    ∃ (props : Bag) (limits : Limits) (nodes : List RenderNode),
      growing.instantiate props limits = .ok nodes ∧
      factor * (limits.steps * (1 + bagCount props)) < RenderNode.listCount nodes := by
  -- a seed that is nested as often as the factor says, and sixteen times more
  let nodes : List RenderNode :=
    [.element "p" .intrinsic [] (List.replicate (Nat.pow 2 (factor + 16)) (.text "x"))]
  have hgrowing := reaches_growing (factor + 16)
  have hnodes : growing.instantiate [("seed", seed (factor + 16))]
      ⟨13 * (factor + 16) + 15, factor + 16 + 2⟩ = .ok nodes :=
    instantiate_of_metered hgrowing.outcome (Nat.le_of_eq hgrowing.steps)
  refine ⟨_, _, nodes, hnodes, ?_⟩
  have hcount : RenderNode.listCount nodes = Nat.pow 2 (factor + 16) + 1 := by
    simp only [nodes, RenderNode.listCount, RenderNode.count, listCount_replicate, Nat.add_zero]
  rw [hcount, bagCount_seed]
  -- steps and bag are linear in the nesting, so their product is below a cube
  have hcube := cube_le_pow (factor + 16) (by omega)
  nlinarith

/-- A component that shows sixteen copies of the characters of a text. -/
def copySource : String :=
  "function Card() \x7b const a = \"xxxx\"; const b = [...a, ...a, ...a, ...a]; " ++
  "const c = [...b, ...b, ...b, ...b]; return <p>\x7bc\x7d</p>; \x7d"

/-- Compiled from its source, the component renders 65 nodes in twenty steps, from an empty bag. -/
theorem copies_outgrow_steps :
    ∃ b nodes, compile "Card" copySource (Scope.ofConfig {}) = .ok b ∧
      b.instantiate [] ⟨20, 48⟩ = .ok nodes ∧
      20 * (1 + bagCount []) < RenderNode.listCount nodes := by
  -- one evaluation of all of it, from which the steps are read off
  have hrun : ((compile "Card" copySource (Scope.ofConfig {})).mapError (fun _ => ()) >>= fun b =>
      (b.instantiate [] ⟨20, 48⟩).mapError (fun _ => ()) >>= fun nodes =>
        pure (RenderNode.listCount nodes)) = .ok 65 := by decide +kernel
  obtain ⟨b, hcompile, hrun⟩ := bind_eq_ok.mp hrun
  obtain ⟨nodes, hnodes, hrun⟩ := bind_eq_ok.mp hrun
  rw [mapError_eq_ok] at hcompile hnodes
  refine ⟨b, nodes, hcompile, hnodes, ?_⟩
  rw [pure_eq_ok.mp hrun]
  decide

end ComponentCanvas.Blueprint
