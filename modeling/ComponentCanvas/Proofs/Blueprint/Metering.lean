import ComponentCanvas.Proofs.Blueprint.Limits

/-!
# Metering

A machine may have no budget.  It cannot stop for its steps: it counts those that are taken, and
lists the names that are looked up, up to where the computation ends.

What a rendering does under a budget is what it does without one, cut off where its steps exceed the
budget.  So a rendering has a number of steps of its own also where it fails, and how deeply calls
nest is all that it can fail for.
-/

namespace ComponentCanvas.Blueprint

/-! ## The machine without a budget -/

/-- A name that is looked up, and the frames at that moment. -/
structure Reading where
  name : String
  frames : List Frame

/-- What a computation uses. -/
structure Usage where
  steps : Nat
  readings : List Reading

/-- What two computations in a row use. -/
def Usage.add (used more : Usage) : Usage :=
  ⟨used.steps + more.steps, used.readings ++ more.readings⟩

/-- A computation on the machine without a budget: what it comes to from some frames, and what it
uses until it ends. -/
def Metered (α : Type) : Type := List Frame → Except Halt (α × List Frame) × Usage

namespace Metered

variable {α β : Type}

/-- What a computation comes to. -/
def outcome (x : Metered α) (frames : List Frame) : Except Halt (α × List Frame) := (x frames).1

/-- What a computation uses until it ends. -/
def usage (x : Metered α) (frames : List Frame) : Usage := (x frames).2

/-- A computation that gives a result and leaves some frames, and takes a number of steps. -/
def giving (f : List Frame → α × List Frame) (steps : Nat) : Metered α :=
  fun frames => (.ok (f frames), ⟨steps, []⟩)

instance : Monad Metered where
  pure a := giving (fun frames => (a, frames)) 0
  bind x f := fun frames =>
    match x.outcome frames with
    | .ok (a, frames') => ((f a).outcome frames', (x.usage frames).add ((f a).usage frames'))
    | .error halt => (.error halt, x.usage frames)

/-- Whenever it is asked, the machine has taken no step.  The steps that it is told add up. -/
instance : MonadStateOf State Metered where
  get := giving (fun frames => (⟨0, frames⟩, frames)) 0
  set s := giving (fun _ => (⟨⟩, s.frames)) s.steps
  modifyGet f := fun frames =>
    (.ok ((f ⟨0, frames⟩).1, (f ⟨0, frames⟩).2.frames), ⟨(f ⟨0, frames⟩).2.steps, []⟩)

instance : MonadExceptOf Halt Metered where
  throw halt := fun _ => (.error halt, ⟨0, []⟩)
  tryCatch x handle := fun frames =>
    match x.outcome frames with
    | .ok done => (.ok done, x.usage frames)
    | .error halt =>
      ((handle halt).outcome frames, (x.usage frames).add ((handle halt).usage frames))

instance : Machine Metered where
  note _ := giving (fun frames => ((), frames)) 0
  noteName name := fun frames => (.ok ((), frames), ⟨0, [⟨name, frames⟩]⟩)

section Bind

variable {x : Metered α} {f : α → Metered β} {frames frames' : List Frame} {a : α} {halt : Halt}

theorem bind_apply (x : Metered α) (f : α → Metered β) (frames : List Frame) :
    (x >>= f) frames =
      match x.outcome frames with
      | .ok (a, frames') => ((f a).outcome frames', (x.usage frames).add ((f a).usage frames'))
      | .error halt => (.error halt, x.usage frames) := rfl

/-- A result goes on to the second computation, and what both use adds up. -/
theorem bind_of_ok (h : x.outcome frames = .ok (a, frames')) :
    (x >>= f).outcome frames = (f a).outcome frames' ∧
      (x >>= f).usage frames = (x.usage frames).add ((f a).usage frames') := by
  unfold outcome usage
  rw [bind_apply, h]
  exact ⟨rfl, rfl⟩

/-- A computation that stops is not followed. -/
theorem bind_of_error (h : x.outcome frames = .error halt) :
    (x >>= f).outcome frames = .error halt ∧ (x >>= f).usage frames = x.usage frames := by
  unfold outcome usage
  rw [bind_apply, h]
  exact ⟨rfl, rfl⟩

/-- Whatever follows a computation, what it uses itself is used. -/
theorem exists_usage_bind (x : Metered α) (f : α → Metered β) (frames : List Frame) :
    ∃ more, (x >>= f).usage frames = (x.usage frames).add more := by
  cases h : x.outcome frames with
  | ok done => exact ⟨_, (bind_of_ok h).2⟩
  | error halt => exact ⟨⟨0, []⟩, by simp [(bind_of_error h).2, Usage.add]⟩

end Bind

/-- What a computation comes to under a budget: it stops where its steps exceed it. -/
def within (x : Metered α) (budget : Nat) (s : State) : Except Halt (α × State) :=
  let steps := s.steps + (x.usage s.frames).steps
  if steps ≤ budget then (x.outcome s.frames).map fun done => (done.1, ⟨steps, done.2⟩)
  else .error .steps

theorem within_of_ok {x : Metered α} {budget : Nat} {s : State} {a : α} {frames : List Frame}
    (h : x.outcome s.frames = .ok (a, frames))
    (hbudget : s.steps + (x.usage s.frames).steps ≤ budget) :
    x.within budget s = .ok (a, ⟨s.steps + (x.usage s.frames).steps, frames⟩) := by
  simp only [within, if_pos hbudget, h]
  rfl

theorem within_of_error {x : Metered α} {budget : Nat} {s : State} {halt : Halt}
    (h : x.outcome s.frames = .error halt)
    (hbudget : s.steps + (x.usage s.frames).steps ≤ budget) :
    x.within budget s = .error halt := by
  simp only [within, if_pos hbudget, h]
  rfl

theorem within_of_lt {x : Metered α} {budget : Nat} {s : State}
    (hbudget : budget < s.steps + (x.usage s.frames).steps) :
    x.within budget s = .error .steps := by
  simp only [within, if_neg (Nat.not_le_of_lt hbudget)]

end Metered

/-- What the machine without a budget looks up.  It has always taken no step and may take one. -/
def Env.metered (env : Env) : Env := { env with budget := 1 }

/-! ## A budget cuts off what goes on without one -/

/-- Whether a computation does under a budget what another one does without it.  The other one does
not stop for its steps. -/
structure Meters (budget : Nat) {α : Type} (Q : α → Prop) (x : Run α) (y : Metered α) : Prop where
  run : ∀ s : State, s.steps ≤ budget → x s = y.within budget s
  holds : ∀ {frames a frames'}, y.outcome frames = .ok (a, frames') → Q a
  unstopped : ∀ {frames}, y.outcome frames ≠ .error .steps

section Meters

variable {α β : Type} {budget : Nat}

/-- What reads and writes the frames alone takes no steps. -/
theorem meters_of_onFrames {Q : α → Prop} {x : Run α} {y : Metered α}
    {f : List Frame → α × List Frame} (hx : OnFrames x f)
    (hy : ∀ frames, y.outcome frames = .ok (f frames) ∧ (y.usage frames).steps = 0)
    (hQ : ∀ frames, Q (f frames).1) : Meters budget Q x y where
  run s hs := by
    obtain ⟨houtcome, hsteps⟩ := hy s.frames
    have hbudget : s.steps + (y.usage s.frames).steps ≤ budget := by omega
    rw [hx, Metered.within_of_ok houtcome hbudget, hsteps]
    rfl
  holds {frames a frames'} h := by
    have hdone : f frames = (a, frames') := Except.ok.inj ((hy frames).1.symm.trans h)
    have hresult := hQ frames
    rwa [hdone] at hresult
  -- without a budget such an operation cannot fail at all
  unstopped h := by
    cases (hy _).1.symm.trans h

/-- A budget cuts off two computations in a row where their steps together exceed it. -/
theorem Meters.bind {P : α → Prop} {Q : β → Prop} {x : Run α} {y : Metered α} {f : α → Run β}
    {g : α → Metered β} (hx : Meters budget P x y)
    (hf : ∀ a, P a → Meters budget Q (f a) (g a)) : Meters budget Q (x >>= f) (y >>= g) where
  run s hs := by
    rw [run_bind, hx.run s hs]
    cases hy : y.outcome s.frames with
    | error halt =>
      -- both stop where the first computation does
      obtain ⟨houtcome, husage⟩ := Metered.bind_of_error (f := g) hy
      rcases Nat.lt_or_ge budget (s.steps + (y.usage s.frames).steps) with hover | hwithin
      · rw [Metered.within_of_lt hover, Metered.within_of_lt (by rwa [husage])]
        rfl
      · rw [Metered.within_of_error hy hwithin, Metered.within_of_error houtcome (by rwa [husage])]
        rfl
    | ok done =>
      obtain ⟨a, frames'⟩ := done
      obtain ⟨houtcome, husage⟩ := Metered.bind_of_ok (f := g) hy
      have hsum : ((y >>= g).usage s.frames).steps =
          (y.usage s.frames).steps + ((g a).usage frames').steps := congrArg Usage.steps husage
      rcases Nat.lt_or_ge budget (s.steps + (y.usage s.frames).steps) with hover | hwithin
      · -- what goes on takes no step back
        have hover' : budget < s.steps + ((y >>= g).usage s.frames).steps := by omega
        rw [Metered.within_of_lt hover, Metered.within_of_lt hover']
        rfl
      · -- the second computation starts where the first one ends
        have hnext := (hf a (hx.holds hy)).run ⟨_, frames'⟩ hwithin
        rw [Metered.within_of_ok hy hwithin]
        show f a ⟨_, frames'⟩ = _
        rw [hnext]
        simp only [Metered.within, houtcome, hsum, Nat.add_assoc]
  holds h := by
    cases hy : y.outcome _ with
    | error halt => cases (Metered.bind_of_error (f := g) hy).1.symm.trans h
    | ok done => exact (hf _ (hx.holds hy)).holds ((Metered.bind_of_ok (f := g) hy).1.symm.trans h)
  unstopped {frames} h := by
    -- a halt of both is one of the first computation or of the second
    cases hy : y.outcome frames with
    | error halt =>
      obtain rfl := Except.error.inj ((Metered.bind_of_error (f := g) hy).1.symm.trans h)
      exact hx.unstopped hy
    | ok done =>
      exact (hf _ (hx.holds hy)).unstopped ((Metered.bind_of_ok (f := g) hy).1.symm.trans h)

/-- A step counts one. -/
theorem meters_tick (env : Env) :
    Meters env.budget (fun _ => True) (tick env) (tick env.metered) where
  run s hs := by
    have houtcome : (tick env.metered : Metered Unit).outcome s.frames = .ok ((), s.frames) := rfl
    rw [run_tick]
    split
    · exact (Metered.within_of_lt (by assumption)).symm
    · next hbudget => exact (Metered.within_of_ok houtcome (Nat.le_of_not_lt hbudget)).symm
  holds _ := trivial
  unstopped h := nomatch h

end Meters

/-- What is rendered under a budget is what is rendered without one, up to where it is cut off. -/
def meterLaw (env : Env) : Law .any Run Metered env env.metered where
  Rel := Meters env.budget
  rel_pure h := meters_of_onFrames (onFrames_pure _) (fun _ => ⟨rfl, rfl⟩) fun _ => h
  rel_bind := Meters.bind
  rel_tick := meters_tick env
  rel_note _ := meters_of_onFrames (onFrames_note _) (fun _ => ⟨rfl, rfl⟩) fun _ => trivial
  rel_lookUp name := meters_of_onFrames (onFrames_lookUp env name) (fun _ => ⟨rfl, rfl⟩) fun _ =>
    meets_any _
  rel_declare name v _ := meters_of_onFrames (onFrames_declare name v)
    (fun frames => by cases frames <;> exact ⟨rfl, rfl⟩) fun _ => trivial
  rel_openFrame := meters_of_onFrames onFrames_openFrame (fun _ => ⟨rfl, rfl⟩) fun _ => trivial
  rel_closeFrame := meters_of_onFrames onFrames_closeFrame (fun _ => ⟨rfl, rfl⟩) fun _ => trivial

/-- Calls are cut off by a budget at any depth that is left, by induction on the depth. -/
theorem calls_meterLaw (env : Env) (depth : Nat) :
    (meterLaw env).Calls (callAt env depth) (callAt env.metered depth) := by
  induction depth with
  | zero =>
    intro f args _ _
    -- no call may be opened, and none takes a step
    exact
      { run := fun s hs => (Metered.within_of_error rfl hs).symm
        holds := fun h => nomatch h
        unstopped := fun h => nomatch h }
  | succ depth ih =>
    intro f args hf hargs
    exact Law.rel_runFunction ih hf hargs

/-- A call does under a budget what it does without one. -/
theorem meters_callAt (env : Env) (depth : Nat) (f : Function) (args : List Value) :
    Meters env.budget (·.Meets .any) (callAt env depth f args) (callAt env.metered depth f args) :=
  calls_meterLaw env depth f (fun _ _ => trivial) fun v _ => meets_any v

/-! ## The steps of a rendering -/

/-- A rendering does under a budget what it does without one. -/
theorem meters_rendering (b : Blueprint) (props : Bag) (budget depth : Nat) :
    Meters budget (NodesMeet · .any) (b.rendering props ⟨budget, depth⟩)
      (b.rendering props ⟨1, depth⟩) :=
  -- the machine without a budget reads one of a single step
  let law : Law .any Run Metered (b.env ⟨budget, depth⟩) (b.env ⟨1, depth⟩) := meterLaw _
  law.rel_rendering (calls_meterLaw _ depth) (fun _ _ => trivial) props

/-- A rendering that has nodes without a budget has them under one that allows its steps. -/
theorem instantiate_of_metered {b : Blueprint} {props : Bag} {budget depth : Nat}
    {nodes : List RenderNode} {frames : List Frame}
    (h : (b.rendering props ⟨1, depth⟩ : Metered (List RenderNode)).outcome [[]] =
      .ok (nodes, frames))
    (hbudget : ((b.rendering props ⟨1, depth⟩ : Metered (List RenderNode)).usage [[]]).steps ≤
      budget) :
    b.instantiate props ⟨budget, depth⟩ = .ok nodes := by
  rw [Blueprint.instantiate, (meters_rendering b props budget depth).run ⟨0, [[]]⟩ (Nat.zero_le _),
    Metered.within_of_ok h (by rwa [Nat.zero_add])]

/-- Every rendering ends after a number of steps, where it has nodes or calls nest too deeply: with
that budget it ends there, with a larger one as well, and with any smaller one it stops for its
steps. -/
theorem exists_steps_of_rendering (b : Blueprint) (props : Bag) (depth : Nat) :
    ∃ (steps : Nat) (outcome : Except RenderError (List RenderNode)),
      (∀ budget, outcome ≠ .error (.stepBudgetExceeded b.typeId budget)) ∧
      ∀ budget, b.instantiate props ⟨budget, depth⟩ =
        if steps ≤ budget then outcome else .error (.stepBudgetExceeded b.typeId budget) := by
  let y : Metered (List RenderNode) := b.rendering props ⟨1, depth⟩
  have hmeters : ∀ budget, Meters budget (NodesMeet · .any) (b.rendering props ⟨budget, depth⟩) y :=
    fun budget => meters_rendering b props budget depth
  -- a halt for the depth is the same error under every budget
  refine ⟨(y.usage [[]]).steps,
    ((y.outcome [[]]).mapError (Halt.toError b.typeId ⟨0, depth⟩)).map Prod.fst, ?ends, ?budgets⟩
  case ends =>
    intro budget h
    cases hy : y.outcome [[]] with
    | ok done =>
      rw [hy] at h
      cases h
    | error halt =>
      rw [hy] at h
      cases halt with
      -- metering has no budget that could be spent
      | steps => exact (hmeters 0).unstopped hy
      | depth =>
        -- the error for the depth is none of the errors for a budget
        cases h
  case budgets =>
    intro budget
    have hzero : (0 : Nat) + (y.usage [[]]).steps = (y.usage [[]]).steps := Nat.zero_add _
    rcases Nat.lt_or_ge budget (y.usage [[]]).steps with hover | hwithin
    · rw [if_neg (Nat.not_le_of_lt hover), Blueprint.instantiate,
        (hmeters budget).run ⟨0, [[]]⟩ (Nat.zero_le _), Metered.within_of_lt (by rwa [hzero])]
      rfl
    · rw [if_pos hwithin]
      cases hy : y.outcome [[]] with
      | ok done => exact instantiate_of_metered hy hwithin
      | error halt =>
        rw [Blueprint.instantiate, (hmeters budget).run ⟨0, [[]]⟩ (Nat.zero_le _),
          Metered.within_of_error hy (by rwa [hzero])]
        cases halt with
        | steps => exact absurd hy (hmeters 0).unstopped
        | depth => rfl

end ComponentCanvas.Blueprint
