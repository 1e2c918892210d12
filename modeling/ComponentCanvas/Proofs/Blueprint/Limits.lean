import Mathlib.Order.Nat
import Mathlib.Data.Nat.Find
import ComponentCanvas.Proofs.Blueprint.Law
import ComponentCanvas.Proofs.Blueprint.Machine

/-!
# Limits of Rendering

Limits decide whether a rendering has a result, and never which one.  A rendering that succeeds
under some limits has a number of steps and a depth of its own, and it succeeds, with the same
nodes, under exactly those limits that allow both.
-/

namespace ComponentCanvas.Blueprint

/-! ## Runs under two budgets -/

/-- Whether a run with a result has it under another budget too.  The run has a cost, which its own
budget allows; where the other budget allows it, the other run has the same result and the same
frames, from any number of steps. -/
def Follows (budget budget' : Nat) {α : Type} (Q : α → Prop) (x x' : Run α) : Prop :=
  ∀ (s s' : State) (a : α), x s = .ok (a, s') →
    Q a ∧ ∃ cost, s'.steps = s.steps + cost ∧ (s.steps ≤ budget → s'.steps ≤ budget) ∧
      ∀ steps, steps + cost ≤ budget' →
        x' ⟨steps, s.frames⟩ = .ok (a, ⟨steps + cost, s'.frames⟩)

section Follows

variable {α β : Type} {budget budget' : Nat}

/-- What reads and writes the frames alone costs nothing. -/
theorem follows_of_onFrames {Q : α → Prop} {x x' : Run α} {f : List Frame → α × List Frame}
    (hx : OnFrames x f) (hx' : OnFrames x' f) (hQ : ∀ frames, Q (f frames).1) :
    Follows budget budget' Q x x' := by
  intro s s' a h
  rw [hx] at h
  obtain ⟨rfl, rfl⟩ := Prod.mk.inj (Except.ok.inj h)
  exact ⟨hQ _, 0, rfl, id, fun steps _ => hx' ⟨steps, s.frames⟩⟩

/-- Two computations in a row follow each other if each of them does. -/
theorem Follows.bind {P : α → Prop} {Q : β → Prop} {x x' : Run α} {f f' : α → Run β}
    (hx : Follows budget budget' P x x')
    (hf : ∀ a, P a → Follows budget budget' Q (f a) (f' a)) :
    Follows budget budget' Q (x >>= f) (x' >>= f') := by
  intro s t b h
  rw [run_bind] at h
  obtain ⟨⟨a, s'⟩, hfirst, hsecond⟩ := bind_eq_ok.mp h
  obtain ⟨ha, cost, hcost, hwithin, hagain⟩ := hx s s' a hfirst
  obtain ⟨hb, cost', hcost', hwithin', hagain'⟩ := hf a ha s' t b hsecond
  -- the costs add up, and the second run starts where the first one ends
  refine ⟨hb, cost + cost', by omega, fun hs => hwithin' (hwithin hs), fun steps hsteps => ?_⟩
  rw [run_bind_of_ok (hagain steps (by omega)), ← Nat.add_assoc]
  exact hagain' (steps + cost) (by omega)

/-- A step costs one. -/
theorem follows_tick (env env' : Env) :
    Follows env.budget env'.budget (fun _ => True) (tick env) (tick env') := by
  intro s s' a h
  rw [run_tick] at h
  split at h
  · cases h
  · next hbudget =>
    -- one step, which the second budget allows as soon as it is as large as the count after it
    obtain ⟨-, rfl⟩ := Prod.mk.inj (Except.ok.inj h)
    refine ⟨trivial, 1, rfl, fun _ => by simpa using Nat.le_of_not_lt hbudget, ?_⟩
    intro steps hsteps
    rw [run_tick, if_neg (by simpa using hsteps)]

end Follows

variable {b : Blueprint} {props : Bag}

/-- Renderings of one blueprint follow each other. -/
def limitLaw (b : Blueprint) (limits limits' : Limits) :
    Law .any Run Run (b.env limits) (b.env limits') where
  Rel := Follows limits.steps limits'.steps
  rel_pure h := follows_of_onFrames (onFrames_pure _) (onFrames_pure _) fun _ => h
  rel_bind := Follows.bind
  rel_tick := follows_tick (b.env limits) (b.env limits')
  rel_note _ := follows_of_onFrames (onFrames_note _) (onFrames_note _) fun _ => trivial
  -- both blueprints have the same global names
  rel_lookUp name := follows_of_onFrames (onFrames_lookUp (b.env limits) name)
    (onFrames_lookUp (b.env limits') name) fun _ => meets_any _
  rel_declare name v _ := follows_of_onFrames (onFrames_declare name v) (onFrames_declare name v)
    fun _ => trivial
  rel_openFrame := follows_of_onFrames onFrames_openFrame onFrames_openFrame fun _ => trivial
  rel_closeFrame := follows_of_onFrames onFrames_closeFrame onFrames_closeFrame fun _ => trivial

/-- A call follows in the one that may nest deeper. -/
theorem calls_limitLaw {limits limits' : Limits} {depth depth' : Nat} (h : depth ≤ depth') :
    (limitLaw b limits limits').Calls (callAt (b.env limits) depth)
      (callAt (b.env limits') depth') := by
  induction depth generalizing depth' with
  | zero =>
    intro f args hf hargs
    -- no call returns where none may nest
    show Follows _ _ _ (throw .depth) _
    intro s s' a hcall
    cases hcall
  | succ depth ih =>
    obtain ⟨deeper, rfl⟩ : ∃ deeper, depth' = deeper + 1 := ⟨depth' - 1, by omega⟩
    intro f args hf hargs
    exact Law.rel_runFunction (ih (by omega)) hf hargs

/-- A rendering follows in the one that may nest deeper. -/
theorem follows_rendering {limits limits' : Limits} (h : limits.depth ≤ limits'.depth) :
    Follows limits.steps limits'.steps (NodesMeet · .any) (b.rendering props limits)
      (b.rendering props limits') :=
  (limitLaw b limits limits').rel_rendering (calls_limitLaw h) (fun _ _ => trivial) props

/-! ## The steps and the depth of a rendering -/

/-- Whether a rendering has the given nodes after a number of steps. -/
def Renders (b : Blueprint) (props : Bag) (limits : Limits) (nodes : List RenderNode)
    (steps : Nat) : Prop :=
  ∃ frames,
    (b.rendering props limits : Run (List RenderNode)) ⟨0, [[]]⟩ = .ok (nodes, ⟨steps, frames⟩)

/-- A blueprint gives nodes exactly if it renders to them in some number of steps. -/
theorem instantiate_eq_ok {limits : Limits} {nodes : List RenderNode} :
    b.instantiate props limits = .ok nodes ↔ ∃ steps, Renders b props limits nodes steps := by
  rw [Blueprint.instantiate]
  constructor
  · intro h
    split at h
    -- the state in which rendering ends tells the steps
    · next shown s heq =>
      obtain rfl := Except.ok.inj h
      exact ⟨s.steps, s.frames, heq⟩
    · cases h
  · rintro ⟨steps, frames, h⟩
    rw [h]

/-- A rendering without a result stops at one of the two limits. -/
theorem instantiate_of_not_ok {limits : Limits}
    (h : ∀ nodes, b.instantiate props limits ≠ .ok nodes) :
    b.instantiate props limits = .error (.stepBudgetExceeded b.typeId limits.steps) ∨
      b.instantiate props limits = .error (.depthExceeded b.typeId limits.depth) := by
  rw [Blueprint.instantiate] at h ⊢
  split
  · next nodes s heq => exact absurd (by rw [heq]) (h nodes)
  · next halt heq =>
    cases halt with
    | steps => exact Or.inl rfl
    | depth => exact Or.inr rfl

section Renders

variable {limits limits' : Limits} {nodes nodes' : List RenderNode} {steps steps' : Nat}

/-- Limits that allow the steps and the depth of a rendering do not change it. -/
theorem Renders.mono (h : Renders b props limits nodes steps)
    (hdepth : limits.depth ≤ limits'.depth)
    (hsteps : steps ≤ limits'.steps) : Renders b props limits' nodes steps := by
  obtain ⟨frames, h⟩ := h
  obtain ⟨-, cost, hcost, -, hagain⟩ := follows_rendering hdepth _ _ _ h
  obtain rfl : steps = cost := by simpa using hcost
  refine ⟨frames, ?_⟩
  simpa using hagain 0 (by omega)

/-- A rendering takes no more steps than it may. -/
theorem Renders.steps_le (h : Renders b props limits nodes steps) : steps ≤ limits.steps := by
  obtain ⟨frames, h⟩ := h
  obtain ⟨-, -, -, hwithin, -⟩ := follows_rendering (Nat.le_refl _) _ _ _ h
  exact hwithin (Nat.zero_le _)

/-- Two renderings of one blueprint with one bag are the same. -/
theorem Renders.unique (h : Renders b props limits nodes steps)
    (h' : Renders b props limits' nodes' steps') : nodes = nodes' ∧ steps = steps' := by
  -- both are renderings under limits that allow both
  let both : Limits := ⟨max steps steps', max limits.depth limits'.depth⟩
  have hboth : Renders b props both nodes steps := h.mono (le_max_left _ _) (le_max_left _ _)
  have hboth' : Renders b props both nodes' steps' := h'.mono (le_max_right _ _) (le_max_right _ _)
  obtain ⟨frames, hboth⟩ := hboth
  obtain ⟨frames', hboth'⟩ := hboth'
  obtain ⟨hnodes, hstate⟩ := Prod.mk.inj (Except.ok.inj (hboth.symm.trans hboth'))
  exact ⟨hnodes, congrArg State.steps hstate⟩

end Renders

/-- A rendering that succeeds under some limits has a number of steps and a depth: under limits that
allow both it has always the same nodes, and under any other limits it stops at one of them. -/
theorem instantiate_within_limits (b : Blueprint) (props : Bag)
    (h : ∃ limits nodes, b.instantiate props limits = .ok nodes) :
    ∃ (steps depth : Nat) (nodes : List RenderNode), ∀ limits : Limits,
      (steps ≤ limits.steps ∧ depth ≤ limits.depth →
        b.instantiate props limits = .ok nodes) ∧
      (¬ (steps ≤ limits.steps ∧ depth ≤ limits.depth) →
        b.instantiate props limits = .error (.stepBudgetExceeded b.typeId limits.steps) ∨
          b.instantiate props limits = .error (.depthExceeded b.typeId limits.depth)) := by
  obtain ⟨generous, nodes, hgenerous⟩ := h
  obtain ⟨steps, hrenders⟩ := instantiate_eq_ok.mp hgenerous
  -- the depth is the least one under which the rendering succeeds with just its own steps
  have hexists : ∃ depth, Renders b props ⟨steps, depth⟩ nodes steps :=
    ⟨generous.depth, hrenders.mono (Nat.le_refl _) (Nat.le_refl _)⟩
  classical
  refine ⟨steps, Nat.find hexists, nodes, fun limits => ⟨?within, ?beyond⟩⟩
  case within =>
    rintro ⟨hsteps, hdepth⟩
    exact instantiate_eq_ok.mpr ⟨steps, (Nat.find_spec hexists).mono hdepth hsteps⟩
  case beyond =>
    intro hbeyond
    -- a rendering would have these steps and at least this depth
    apply instantiate_of_not_ok
    intro other hother
    obtain ⟨steps', hrenders'⟩ := instantiate_eq_ok.mp hother
    obtain ⟨rfl, rfl⟩ := hrenders.unique hrenders'
    exact hbeyond ⟨hrenders'.steps_le,
      Nat.find_min' hexists (hrenders'.mono (Nat.le_refl _) (Nat.le_refl _))⟩

/-- A greeting whose name is shown by a helper. -/
def greeting : Blueprint where
  typeId := "Greeting"
  factoryName := "Greeting"
  factory := .mk 1 [.name "props"] [.ret (some (.markup (.element "p" .intrinsic []
    [.text "Hello ", .element "Name" .helper [.spread (.name "props")] []])))]
  constants := []
  helpers := [("Name", .mk 0 [.name "props"]
    [.ret (some (.member (.name "props") (.string "who")))])]
  capabilities := []
  sourceHash := ""

/-- The greeting succeeds in ten steps with two calls nested, so it has its steps and its depth. -/
theorem greeting_within_limits :
    greeting.instantiate [("who", .str "Ada")] ⟨10, 2⟩ =
        .ok [.element "p" .intrinsic [] [.text "Hello ", .text "Ada"]] ∧
      ∃ (steps depth : Nat) (nodes : List RenderNode), ∀ limits : Limits,
        (steps ≤ limits.steps ∧ depth ≤ limits.depth →
          greeting.instantiate [("who", .str "Ada")] limits = .ok nodes) ∧
        (¬ (steps ≤ limits.steps ∧ depth ≤ limits.depth) →
          greeting.instantiate [("who", .str "Ada")] limits =
              .error (.stepBudgetExceeded "Greeting" limits.steps) ∨
            greeting.instantiate [("who", .str "Ada")] limits =
              .error (.depthExceeded "Greeting" limits.depth)) :=
  ⟨rfl, instantiate_within_limits greeting _ ⟨⟨10, 2⟩, _, rfl⟩⟩

end ComponentCanvas.Blueprint
