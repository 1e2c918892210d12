import ComponentCanvas.Proofs.Blueprint.Limits

/-!
# The Call Stack

Rendering hands down how many calls may still nest.  A machine can also count the calls that are
open: a call raises the count before it opens its frame, and lowers it after the frame is closed.
Both ways give the same results.

Whatever is evaluated or called leaves the count and the frames as they were.  What is looked up
through all open frames is therefore the same before and after.  Patterns and statements write the
innermost frame and no other one.
-/

namespace ComponentCanvas.Blueprint

/-! ## Counting open calls -/

/-- A computation on the machine that counts the calls that are open. -/
abbrev Counted := StateT Nat Run

instance : Machine Counted where
  note _ := return ()

/-- Counts one more open call, and stops if there may not be so many. -/
def enterCall (limit : Nat) : Counted Unit := do
  let depth ← getThe Nat
  set (depth + 1)
  if limit < depth + 1 then throw Halt.depth

/-- Counts one open call less. -/
def leaveCall : Counted Unit := modifyThe Nat (· - 1)

/-- Calls a function and counts the call while it is open.  The second number only bounds the
recursion: no more calls are opened than there may be. -/
def callCounting (env : Env) (limit : Nat) : Nat → Caller Counted
  | 0, _, _ => throw .depth
  | more + 1, f, args => do
    enterCall limit
    let v ← runFunction env (callCounting env limit more) f args
    leaveCall
    return v

/-- Calls a function where a number of calls may be open at once. -/
def callCounted (env : Env) (limit : Nat) : Caller Counted := callCounting env limit limit

/-! ## What may be written -/

/-- What a computation may do to the frames: nothing is allowed always, and what is allowed in two
goes is allowed in one. -/
structure Footprint where
  Allows : List Frame → List Frame → Prop
  refl : ∀ frames, Allows frames frames
  trans : ∀ {before between after}, Allows before between → Allows between after →
    Allows before after

namespace Footprint

/-- All frames stay as they are. -/
def nothing : Footprint where
  Allows before after := after = before
  refl _ := rfl
  trans h h' := h'.trans h

/-- There are as many frames as before, and those around the innermost one stay as they are. -/
def innermost : Footprint where
  Allows before after := after.length = before.length ∧ after.tail = before.tail
  refl _ := ⟨rfl, rfl⟩
  trans h h' := ⟨h'.1.trans h.1, h'.2.trans h.2⟩

/-- Binding a name writes the innermost frame. -/
theorem innermost_bindIn (frames : List Frame) (name : String) (v : Value) :
    innermost.Allows frames (bindIn frames name v) := by
  cases frames with
  | nil => exact ⟨rfl, rfl⟩
  | cons frame outer => exact ⟨rfl, rfl⟩

end Footprint

/-- Whether a run from a state to another one leaves the count of open calls, writes no other frames
than it may, and takes no step back. -/
structure Restores (footprint : Footprint) (depth depth' : Nat) (s s' : State) : Prop where
  depth : depth' = depth
  frames : footprint.Allows s.frames s'.frames
  steps : s.steps ≤ s'.steps

/-! ## Counted and uncounted runs -/

/-- A result together with the count of open calls. -/
def atDepth {α : Type} (depth : Nat) (result : α × State) : (α × Nat) × State :=
  ((result.1, depth), result.2)

/-- Whether a computation that counts does at a depth what one does that does not count, and leaves
the depth; and whether it changes the frames as it may and takes no step back. -/
def Returns (changes : List Frame → List Frame → Prop) (depth : Nat) {α : Type} (Q : α → Prop)
    (x : Run α) (y : Counted α) : Prop :=
  ∀ s : State, y depth s = (x s).map (atDepth depth) ∧
    ∀ a s', x s = .ok (a, s') → Q a ∧ changes s.frames s'.frames ∧ s.steps ≤ s'.steps

section Returns

variable {α β : Type} {A B C : List Frame → List Frame → Prop} {footprint : Footprint} {depth : Nat}
  {Q : α → Prop} {x : Run α} {y : Counted α}

theorem counted_bind (y : Counted α) (g : α → Counted β) (depth : Nat) (s : State) :
    (y >>= g) depth s = (y depth s >>= fun result => g result.1.1 result.1.2 result.2) := rfl

/-- What reads and writes the frames alone. -/
theorem returns_of_onFrames {f : List Frame → α × List Frame} (hx : OnFrames x f)
    (hy : ∀ s, y depth s = (x s).map (atDepth depth))
    (hf : ∀ frames, Q (f frames).1 ∧ A frames (f frames).2) :
    Returns A depth Q x y := by
  intro s
  refine ⟨hy s, fun a s' h => ?_⟩
  rw [hx] at h
  obtain ⟨rfl, rfl⟩ := Prod.mk.inj (Except.ok.inj h)
  exact ⟨(hf _).1, (hf _).2, Nat.le_refl _⟩

/-- Two runs in a row change the frames one after the other. -/
theorem Returns.comp {R : β → Prop} {f : α → Run β} {g : α → Counted β}
    (hx : Returns A depth Q x y) (hf : ∀ a, Q a → Returns B depth R (f a) (g a))
    (hboth : ∀ {before between after}, A before between → B between after → C before after) :
    Returns C depth R (x >>= f) (y >>= g) := by
  intro s
  obtain ⟨hy, hafter⟩ := hx s
  rw [counted_bind, hy, run_bind]
  cases hresult : x s with
  | error halt => exact ⟨rfl, fun b t h => nomatch h⟩
  | ok result =>
    obtain ⟨a, s'⟩ := result
    obtain ⟨ha, hframes, hsteps⟩ := hafter a s' hresult
    -- the second run starts where the first one ends, at the same depth
    obtain ⟨hy', hafter'⟩ := hf a ha s'
    refine ⟨hy', fun b t h => ?_⟩
    obtain ⟨hb, hframes', hsteps'⟩ := hafter' b t h
    exact ⟨hb, hboth hframes hframes', Nat.le_trans hsteps hsteps'⟩

/-- What changes no frame may be done anywhere. -/
theorem Returns.of_nothing (h : Returns Footprint.nothing.Allows depth Q x y) :
    Returns footprint.Allows depth Q x y := by
  intro s
  obtain ⟨hy, hafter⟩ := h s
  refine ⟨hy, fun a s' hok => ?_⟩
  obtain ⟨ha, hframes, hsteps⟩ := hafter a s' hok
  have hsame : s'.frames = s.frames := hframes
  exact ⟨ha, hsame ▸ footprint.refl _, hsteps⟩

/-- A step returns at the depth at which it was taken. -/
theorem returns_tick (env : Env) :
    Returns footprint.Allows depth (fun _ => True) (tick env) (tick env) := by
  intro s
  have hcounted : (tick env : Counted Unit) depth s =
      ((tick env : Run Unit) s).map (atDepth depth) := by
    show ((if env.budget < s.steps + 1 then throw .steps
      else set (⟨s.steps + 1, s.frames⟩ : State) : Counted Unit)) depth s = _
    rw [run_tick]
    split <;> rfl
  refine ⟨hcounted, fun a s' h => ?_⟩
  -- where the budget lasts, the step changes nothing but the count
  rw [run_tick] at h
  split at h
  · cases h
  · obtain ⟨-, rfl⟩ := Prod.mk.inj (Except.ok.inj h)
    exact ⟨trivial, footprint.refl _, Nat.le_succ _⟩

end Returns

/-- What evaluation does itself is allowed under any footprint. -/
def returnLaw (footprint : Footprint) (depth : Nat) (env : Env) :
    EvalLaw .any Run Counted env env where
  Rel := Returns footprint.Allows depth
  rel_pure h := returns_of_onFrames (onFrames_pure _) (fun _ => rfl) fun frames =>
    ⟨h, footprint.refl frames⟩
  rel_bind hx hf := hx.comp hf footprint.trans
  rel_tick := returns_tick env
  rel_note _ := returns_of_onFrames (onFrames_note _) (fun _ => rfl) fun frames =>
    ⟨trivial, footprint.refl frames⟩
  rel_lookUp name := returns_of_onFrames (onFrames_lookUp env name) (fun _ => rfl) fun frames =>
    ⟨meets_any _, footprint.refl frames⟩

/-- A name is bound in the innermost frame. -/
def bindLaw (depth : Nat) (env : Env) : BindLaw .any Run Counted env env where
  toEvalLaw := returnLaw .innermost depth env
  rel_declare name v _ := returns_of_onFrames (onFrames_declare name v) (fun _ => rfl) fun frames =>
    ⟨trivial, Footprint.innermost_bindIn frames name v⟩

/-! ## Calls -/

/-- Whether the innermost frame is closed. -/
def Closes (before after : List Frame) : Prop := after = before.tail

/-- A function writes the innermost frame alone, and that is its own. -/
theorem returns_runFunction {env : Env} {depth : Nat} {call : Caller Run} {counted : Caller Counted}
    (hcall : (bindLaw depth env).Calls call counted) (f : Function) (args : List Value) :
    Returns Footprint.nothing.Allows depth (·.Meets .any) (runFunction env call f args)
      (runFunction env counted f args) := by
  -- opening puts an empty frame in front, and closing takes it away
  have hopen : Returns (fun before after => after = [] :: before) depth (fun _ => True)
      openFrame openFrame :=
    returns_of_onFrames onFrames_openFrame (fun _ => rfl) fun _ => ⟨trivial, rfl⟩
  have hclose : Returns Closes depth (fun _ => True) closeFrame closeFrame :=
    returns_of_onFrames onFrames_closeFrame (fun _ => rfl) fun _ => ⟨trivial, rfl⟩
  have hparams : Returns Footprint.innermost.Allows depth (fun _ => True)
      (bindParams env call f.params args) (bindParams env counted f.params args) :=
    BindLaw.rel_bindParams hcall (fun _ _ => trivial) fun v _ => meets_any v
  have hbody : Returns Footprint.innermost.Allows depth _ (execAll env call f.body)
      (execAll env counted f.body) :=
    BindLaw.rel_execAll hcall f.body fun _ _ => trivial
  -- the result is noted behind the closed frame
  have hleave : ∀ v : Value, Returns Closes depth (·.Meets .any) (closeFrame >>= fun _ => noted v)
      (closeFrame >>= fun _ => noted v) := fun v =>
    hclose.comp (fun _ _ => (returnLaw .nothing depth env).rel_noted (meets_any v))
      fun hclosed hsame => hsame.trans hclosed
  unfold runFunction
  -- parameters and statements write the frame that is opened before and closed behind them
  refine hopen.comp (B := Closes) (fun _ _ => ?_) fun hopened hclosed => ?_
  · refine hparams.comp (B := Closes) (fun _ _ => ?_) fun hwritten hclosed => ?_
    · exact hbody.comp (fun result _ => hleave _) fun hwritten hclosed => hclosed.trans hwritten.2
    · exact hclosed.trans hwritten.2
  · rw [hclosed, hopened]
    rfl

/-- A call that may be opened. -/
theorem counted_enterCall {limit depth : Nat} (h : depth < limit) (y : Unit → Counted Value)
    (s : State) : (enterCall limit >>= y) depth s = y () (depth + 1) s := by
  have hopen : ¬ limit < depth + 1 := by omega
  show ((if limit < depth + 1 then throw Halt.depth else pure ()) >>= y : Counted Value)
    (depth + 1) s = _
  rw [if_neg hopen]
  rfl

/-- A call that may not. -/
theorem counted_enterCall_of_le {limit depth : Nat} (h : limit ≤ depth) (y : Unit → Counted Value)
    (s : State) : (enterCall limit >>= y) depth s = .error .depth := by
  have hclosed : limit < depth + 1 := by omega
  show ((if limit < depth + 1 then throw Halt.depth else pure ()) >>= y : Counted Value)
    (depth + 1) s = _
  rw [if_pos hclosed]
  rfl

/-- Calls a function and counts the call while it is open; how the calls in it are counted is a
parameter. -/
def countedCall (env : Env) (limit : Nat) (nested : Caller Counted) : Caller Counted :=
  fun f args => do
    enterCall limit
    let v ← runFunction env nested f args
    leaveCall
    return v

/-- A counted call returns where the calls in it do, one deeper. -/
theorem returns_countedCall {env : Env} {limit depth : Nat} {nested : Caller Counted}
    (hroom : depth < limit)
    (hnested : (bindLaw (depth + 1) env).Calls (callAt env (limit - (depth + 1))) nested)
    (f : Function) (args : List Value) :
    Returns Footprint.nothing.Allows depth (·.Meets .any) (callAt env (limit - depth) f args)
      (countedCall env limit nested f args) := by
  have hdeeper : limit - depth = limit - (depth + 1) + 1 := by omega
  rw [hdeeper]
  intro s
  obtain ⟨hcounted, hafter⟩ := returns_runFunction hnested f args s
  refine ⟨?_, hafter⟩
  rw [countedCall, counted_enterCall hroom, counted_bind, hcounted, callAt]
  cases (runFunction env (callAt env (limit - (depth + 1))) f args : Run Value) s <;> rfl

/-- Where as many calls are open as may be, both ways to call stop. -/
theorem returns_countedCall_of_le {env : Env} {limit depth : Nat} (hfull : limit ≤ depth)
    (nested : Caller Counted) (f : Function) (args : List Value) :
    Returns Footprint.nothing.Allows depth (·.Meets .any) (callAt env (limit - depth) f args)
      (countedCall env limit nested f args) := by
  rw [Nat.sub_eq_zero_of_le hfull]
  intro s
  refine ⟨?_, fun a s' hok => nomatch hok⟩
  rw [countedCall, counted_enterCall_of_le hfull]
  rfl

/-- Calls return where no more may nest than the count leaves room for. -/
theorem returns_callCounting (env : Env) {limit depth more : Nat} (h : limit ≤ depth + more)
    (f : Function) (args : List Value) :
    Returns Footprint.nothing.Allows depth (·.Meets .any) (callAt env (limit - depth) f args)
      (callCounting env limit more f args) := by
  induction more generalizing depth f args with
  -- no call is left on either side, and both fail
  | zero =>
    rw [Nat.sub_eq_zero_of_le (by simpa using h)]
    exact fun s => ⟨rfl, fun a s' hok => nomatch hok⟩
  | succ more ih =>
    rcases Nat.lt_or_ge depth limit with hroom | hfull
    · -- the function runs one call deeper, where the calls return
      refine returns_countedCall hroom ?_ f args
      exact fun f args _ _ => (ih (by omega) f args).of_nothing
    · exact returns_countedCall_of_le hfull _ f args

/-! ## What is left as it was -/

/-- A computation of any machine, given how functions are called. -/
abbrev Computation (α : Type) := ∀ (m : Type → Type) [Machine m], Caller m → m α

/-- Whether a computation with a result leaves everything but what it may write.  It is stated on
the machine that counts, from any count and any state, and that machine does what rendering does
where as many calls may still nest as the count leaves room for. -/
structure Leaves (env : Env) (limit : Nat) (footprint : Footprint) {α : Type}
    (x : Computation α) : Prop where
  restores : ∀ depth s a depth' s',
    x Counted (callCounted env limit) depth s = .ok ((a, depth'), s') →
    Restores footprint depth depth' s s'
  rendering : ∀ depth s,
    x Counted (callCounted env limit) depth s =
      (x Run (callAt env (limit - depth)) s).map (atDepth depth)

/-- What returns at every depth leaves depth and frames as it found them. -/
theorem leaves_of_returns {env : Env} {limit : Nat} {footprint : Footprint} {α : Type}
    {Q : α → Prop} {x : Computation α}
    (h : ∀ depth, Returns footprint.Allows depth Q (x Run (callAt env (limit - depth)))
      (x Counted (callCounted env limit))) :
    Leaves env limit footprint x where
  rendering depth s := (h depth s).1
  restores depth s a depth' s' hok := by
    obtain ⟨hcounted, hafter⟩ := h depth s
    rw [hcounted] at hok
    -- a counted run that succeeds comes from an uncounted one that does
    cases hresult : x Run (callAt env (limit - depth)) s with
    | error halt =>
      rw [hresult] at hok
      cases hok
    | ok result =>
      rw [hresult] at hok
      cases hok
      obtain ⟨-, hframes, hsteps⟩ := hafter _ _ hresult
      exact ⟨rfl, hframes, hsteps⟩

/-- Evaluation leaves the environment of the caller as it was.  From every count of open calls, all
frames and every number of steps, whatever is evaluated, rendered or called and has a result leaves
the count and the frames; running statements and binding a pattern write the innermost frame alone.
No step is taken back. -/
theorem evaluation_leaves_frames (env : Env) (limit : Nat) :
    (∀ e, Leaves env limit .nothing fun _ _ call => eval env call e) ∧
    (∀ node, Leaves env limit .nothing fun _ _ call => renderNode env call node) ∧
    (∀ nodes, Leaves env limit .nothing fun _ _ call => renderNodes env call nodes) ∧
    (∀ f args, Leaves env limit .nothing fun _ _ call => call f args) ∧
    (∀ callee args, Leaves env limit .nothing fun _ _ call => callValue env call callee args) ∧
    (∀ object method args,
      Leaves env limit .nothing fun _ _ call => callMethod env call object method args) ∧
    (∀ items method args,
      Leaves env limit .nothing fun _ _ call => callListMethod env call items method args) ∧
    (∀ name args, Leaves env limit .nothing fun _ _ call => callBuiltin env call name args) ∧
    (∀ stmts, Leaves env limit .innermost fun _ _ call => execAll env call stmts) ∧
    (∀ pattern v, Leaves env limit .innermost fun _ _ call => bindPattern env call pattern v) := by
  -- a call leaves all frames, whatever may be written around it
  have hcalls : ∀ footprint depth, (returnLaw footprint depth env).Calls
      (callAt env (limit - depth)) (callCounted env limit) :=
    fun footprint depth f args _ _ => (returns_callCounting env (by omega) f args).of_nothing
  have hvalues : ∀ items, ValuesMeet items .any := fun items v _ => meets_any v
  refine ⟨fun e => ?expression, fun node => ?node, fun nodes => ?nodes, fun f args => ?function,
    fun callee args => ?value, fun object method args => ?method, fun items method args => ?list,
    fun name args => ?builtin, fun stmts => ?statements, fun pattern v => ?pattern⟩
  case expression =>
    exact leaves_of_returns fun depth => EvalLaw.rel_eval (hcalls .nothing depth) e
      fun _ _ => trivial
  case node =>
    exact leaves_of_returns fun depth => EvalLaw.rel_renderNode (hcalls .nothing depth) node
      fun _ _ => trivial
  case nodes =>
    exact leaves_of_returns fun depth => EvalLaw.rel_renderNodes (hcalls .nothing depth) nodes
      fun _ _ => trivial
  case function =>
    exact leaves_of_returns fun depth => hcalls .nothing depth f (fun _ _ => trivial) (hvalues args)
  case value =>
    exact leaves_of_returns fun depth => EvalLaw.rel_callValue (hcalls .nothing depth)
      (meets_any callee) (hvalues args)
  case method =>
    exact leaves_of_returns fun depth => EvalLaw.rel_callMethod (hcalls .nothing depth)
      (meets_any object) method (hvalues args)
  case list =>
    exact leaves_of_returns fun depth => EvalLaw.rel_callListMethod (hcalls .nothing depth)
      (hvalues items) method (hvalues args)
  case builtin =>
    exact leaves_of_returns fun depth => EvalLaw.rel_callBuiltin (hcalls .nothing depth) trivial
      (hvalues args)
  -- statements and patterns may write the innermost frame
  case statements =>
    exact leaves_of_returns fun depth => BindLaw.rel_execAll (L := bindLaw depth env)
      (hcalls .innermost depth) stmts fun _ _ => trivial
  case pattern =>
    exact leaves_of_returns fun depth => BindLaw.rel_bindPattern (L := bindLaw depth env)
      (hcalls .innermost depth) pattern (fun _ _ => trivial) (meets_any v)

/-- The markup of the greeting that shows a name by calling the helper. -/
def nameTag : Expr := .markup (.element "Name" .helper [.field "who" (.string "Ada")] [])

/-- The helper binds the name that its caller has bound as well, and the caller keeps its own. -/
theorem nameTag_leaves_frames :
    let env := greeting.env {}
    let s : State := ⟨3, [[("props", .string "mine")], []]⟩
    ∃ s', eval env (callCounted env 2) nameTag 1 s = .ok ((.node (.text "Ada"), 1), s') ∧
      Restores .nothing 1 1 s s' := by
  intro env s
  have hrun : eval env (callCounted env 2) nameTag 1 s =
      .ok ((.node (.text "Ada"), 1), ⟨10, s.frames⟩) := rfl
  exact ⟨_, hrun, ((evaluation_leaves_frames env 2).1 nameTag).restores 1 s _ 1 _ hrun⟩

end ComponentCanvas.Blueprint
