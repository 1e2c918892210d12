import ComponentCanvas.Proofs.Blueprint.CallStack
import ComponentCanvas.Proofs.Blueprint.Metering

/-!
# Termination

A function is no part of the expression that calls it, and a builtin may call what it is given,
without a call of a function in between.  Read as they stand, calls and builtins are two recursions
of which neither has an end in sight.

Both have one.  Calls are counted, and one that may not be opened calls nothing.  A builtin that a
builtin calls gets no arguments, or an item and its index, so a chain of builtins has no fourth
link.  Here both recursions are written as they stand, a number of links deep and with anything at
all behind the last link: what stands there is never reached.
-/

namespace ComponentCanvas.Blueprint

/-! ## Calls of functions -/

/-- Calls a function and counts the calls that are open, a number of calls deep; what deeper calls
do is a parameter. -/
def callUnrolled (env : Env) (limit : Nat) (beyond : Caller Counted) : Nat → Caller Counted
  | 0 => beyond
  | more + 1 => countedCall env limit (callUnrolled env limit beyond more)

/-- One more link than calls may nest is enough. -/
theorem returns_callUnrolled (env : Env) {limit depth links : Nat} (beyond : Caller Counted)
    (h : limit - depth < links) (f : Function) (args : List Value) :
    Returns Footprint.nothing.Allows depth (·.Meets .any) (callAt env (limit - depth) f args)
      (callUnrolled env limit beyond links f args) := by
  induction links generalizing depth f args with
  | zero => exact absurd h (Nat.not_lt_zero _)
  | succ links ih =>
    rcases Nat.lt_or_ge depth limit with hroom | hfull
    · -- the calls in the function have one link less, and one call less may nest
      refine returns_countedCall hroom ?_ f args
      exact fun f args _ _ => (ih (by omega) f args).of_nothing
    · exact returns_countedCall_of_le hfull _ f args

/-! ## Chains of builtins -/

section Chains

variable {m : Type → Type} [Machine m]

/-- Maps items, which are counted from an index, in a given way to call a value. -/
def mapChained (call : Value → List Value → m Value) (mapper : Value) :
    Nat → List Value → m (List Value)
  | _, [] => return []
  | i, item :: rest => do
    let v ← call mapper [item, .number (Float.ofNat i)]
    return v :: (← mapChained call mapper (i + 1) rest)

/-- Runs a builtin that calls values in a given way. -/
def runChained (env : Env) (call : Value → List Value → m Value) (name : String)
    (args : List Value) : m Value :=
  match name with
  | "useState" =>
    match argument args 0 with
    | .function f => do return statePair (← call (.function f) [])
    | .builtin b => do return statePair (← call (.builtin b) [])
    | v => return statePair v
  | "useMemo" => call (argument args 0) []
  | "Array.from" => do
    let items ← itemsFrom env (argument args 0)
    match (args[1]? : Option Value) with
    | some mapper => return .list (← mapChained call mapper 0 items)
    | none => return .list items
  | _ => return builtin name args

/-- Calls a value, and the values that builtins call in the same way, a number of links deep; what
deeper links do is a parameter. -/
def callChained (env : Env) (call : Caller m) (beyond : Value → List Value → m Value) :
    Nat → Value → List Value → m Value
  | 0, callee, args => beyond callee args
  | links + 1, callee, args =>
    match callee with
    | .function f => call f args
    | .builtin name => do
      Machine.note (.called name)
      noted (← runChained env (callChained env call beyond links) name args)
    | _ => return .undefined

end Chains

variable {env : Env} {call : Caller Run} {beyond : Value → List Value → Run Value}

/-- Items that are mapped link by link are mapped as by calls on items. -/
theorem mapChained_eq {chained : Value → List Value → Run Value} {mapper : Value}
    (h : ∀ item i, chained mapper [item, .number (Float.ofNat i)] =
      callOnItem env call mapper item i)
    (i : Nat) (items : List Value) :
    mapChained chained mapper i items = mapItems env call mapper i items := by
  induction items generalizing i with
  | nil => rfl
  | cons item rest ih => rw [mapChained, mapItems, h, ih]

/-- Items that are mapped by something that gives nothing become undefined. -/
theorem mapChained_undefined {chained : Value → List Value → Run Value} {mapper : Value}
    (h : ∀ args, chained mapper args = pure .undefined) (i : Nat) (items : List Value) :
    mapChained chained mapper i items = mapToUndefined mapper items := by
  induction items generalizing i with
  | nil => rfl
  | cons item rest ih =>
    rw [mapChained, h, ih]
    rfl

/-- A builtin runs as it does where what it calls is called alike. -/
theorem runChained_eq {chained : Value → List Value → Run Value}
    (mapped : Value → List Value → Run (List Value)) {name : String} {args : List Value}
    (hbare : ∀ v, chained v [] = callBare call v)
    (hmap : ∀ mapper items, args[1]? = some mapper →
      mapChained chained mapper 0 items = mapped mapper items) :
    runChained env chained name args = runBuiltin env call mapped name args := by
  unfold runChained
  split
  · rw [runBuiltin]
    generalize argument args 0 = first
    cases first with
    | function f => simp only [hbare]
    | builtin b => simp only [hbare]
    | undefined | null | bool | number | string | list | map | node => rfl
  · rw [runBuiltin, hbare]
  · rw [runBuiltin]
    cases hmapper : args[1]? with
    | none => rfl
    | some mapper => simp only [hmap mapper _ hmapper]
  · next hstate hmemo hfrom =>
    -- no other builtin calls anything
    rw [runBuiltin.eq_4 env call mapped name args hstate hmemo hfrom]

/-- Called without arguments, a builtin gives a fixed value. -/
theorem runChained_bare {chained : Value → List Value → Run Value}
    (h : chained .undefined [] = pure .undefined) (name : String) :
    runChained env chained name [] = pure (bareBuiltin name) := by
  unfold runChained bareBuiltin
  split
  · rfl
  · exact h
  · rfl
  · split <;> first | rfl | contradiction

/-- Two links are enough for a call without arguments. -/
theorem callChained_bare (links : Nat) (v : Value) :
    callChained env call beyond (links + 2) v [] = callBare call v := by
  cases v with
  | builtin name =>
    -- without arguments there is nothing that it could call but what is undefined
    rw [callChained, runChained_bare rfl]
    rfl
  | undefined | null | bool | number | string | list | map | node | function => rfl

/-- Three links are enough for a call on an item. -/
theorem callChained_item (links : Nat) (callee item : Value) (i : Nat) :
    callChained env call beyond (links + 3) callee [item, .number (Float.ofNat i)] =
      callOnItem env call callee item i := by
  cases callee with
  | builtin name =>
    -- what would map the items of the item is its index
    rw [callChained, runChained_eq mapToUndefined (callChained_bare links)]
    · rfl
    · rintro mapper items ⟨⟩
      exact mapChained_undefined (fun _ => rfl) 0 items
  | undefined | null | bool | number | string | list | map | node | function => rfl

/-- No chain has a fourth link. -/
theorem callChained_eq (links : Nat) (callee : Value) (args : List Value) :
    callChained env call beyond (links + 4) callee args = callValue env call callee args := by
  cases callee with
  | builtin name =>
    rw [callChained, runChained_eq (fun mapper items => mapItems env call mapper 0 items)
      (callChained_bare (links + 1))]
    · rfl
    · -- each item that is mapped is a link further in the chain
      intro mapper items _
      exact mapChained_eq (callChained_item links mapper) 0 items
  | undefined | null | bool | number | string | list | map | node | function => rfl

/-- What a method of a list calls for an item, it calls as any other value is called. -/
theorem callValue_item (callee item : Value) (i : Nat) :
    callValue env call callee [item, .number (Float.ofNat i)] =
      callOnItem env call callee item i := by
  -- both are the same chain
  let beyond : Value → List Value → Run Value := fun _ _ => pure .undefined
  calc callValue env call callee [item, .number (Float.ofNat i)]
      = callChained env call beyond 4 callee [item, .number (Float.ofNat i)] :=
        (callChained_eq 0 callee _).symm
    _ = callOnItem env call callee item i := callChained_item 1 callee item i

/-! ## Renderings -/

/-- Every rendering ends, and a limit on how deeply calls nest is enough for that.  A rendering has
a number of steps of its own: no budget has to cut it short, and only a smaller one does.  Calls of
functions and chains of builtins have an end wherever they start, whatever stands behind it; the
calls that methods of lists make are such chains. -/
theorem rendering_ends (b : Blueprint) (props : Bag) (depth : Nat) :
    (∃ (steps : Nat) (outcome : Except RenderError (List RenderNode)),
      (∀ budget, outcome ≠ .error (.stepBudgetExceeded b.typeId budget)) ∧
      ∀ budget, b.instantiate props ⟨budget, depth⟩ =
        if steps ≤ budget then outcome else .error (.stepBudgetExceeded b.typeId budget)) ∧
    (∀ (env : Env) (beyond : Caller Counted) (count more : Nat) (f : Function)
      (args : List Value) (s : State),
      callUnrolled env depth beyond (depth - count + 1 + more) f args count s =
        ((callAt env (depth - count) f args : Run Value) s).map (atDepth count)) ∧
    (∀ (env : Env) (call : Caller Run) (beyond : Value → List Value → Run Value) (more : Nat)
      (callee : Value) (args : List Value),
      callChained env call beyond (more + 4) callee args = callValue env call callee args) ∧
    ∀ (env : Env) (call : Caller Run) (callee item : Value) (i : Nat),
      callOnItem env call callee item i =
        callValue env call callee [item, .number (Float.ofNat i)] := by
  refine ⟨exists_steps_of_rendering b props depth, ?calls, ?chains, ?items⟩
  -- one unrolled call for each call that is still allowed, and one for the call that is refused
  case calls =>
    intro env beyond count more f args s
    exact (returns_callUnrolled env beyond (by omega) f args s).1
  case chains =>
    intro env call beyond more callee args
    exact callChained_eq more callee args
  case items =>
    intro env call callee item i
    exact (callValue_item callee item i).symm

end ComponentCanvas.Blueprint
