import ComponentCanvas.Proofs.Blueprint.Compilation
import ComponentCanvas.Proofs.Blueprint.Metering

/-!
# Names from Callers

A function sees what its callers have bound.  What a call comes to may therefore depend on their
frames, but only through the names that it looks up past all frames of its own: two stacks of
frames that bind these names alike give the same result, or the same error, in the same number of
steps.
-/

namespace ComponentCanvas.Blueprint

/-! ## Names that are looked up past own frames -/

/-- Whether a look-up finds nothing in the frames above a number of outer ones. -/
def Reading.passes (outer : Nat) (reading : Reading) : Bool :=
  (boundValue? (reading.frames.take (reading.frames.length - outer)) reading.name).isNone

/-- The names that are looked up in a number of outer frames. -/
def Usage.namesPast (used : Usage) (outer : Nat) : List String :=
  (used.readings.filter (·.passes outer)).map (·.name)

/-- The names that a call looks up in the frames that it is made from, past those that it opens
itself. -/
def namesPast (env : Env) (depth : Nat) (f : Function) (args : List Value) (frames : List Frame) :
    List String :=
  ((callAt env.metered depth f args : Metered Value).usage frames).namesPast frames.length

/-- Whether two stacks of frames bind some names alike. -/
def AgreeOn (names : List String) (frames frames' : List Frame) : Prop :=
  ∀ name ∈ names, boundValue? frames name = boundValue? frames' name

theorem namesPast_add (used more : Usage) (outer : Nat) :
    (used.add more).namesPast outer = used.namesPast outer ++ more.namesPast outer := by
  simp [Usage.namesPast, Usage.add]

theorem agreeOn_append {names more : List String} {frames frames' : List Frame} :
    AgreeOn (names ++ more) frames frames' ↔
      AgreeOn names frames frames' ∧ AgreeOn more frames frames' := by
  simp [AgreeOn, or_imp, forall_and]

/-- A name is looked up in the own frames first. -/
theorem boundValue?_append (own outer : List Frame) (name : String) :
    boundValue? (own ++ outer) name = (boundValue? own name).or (boundValue? outer name) := by
  rw [boundValue?, List.findSome?_append]
  rfl

/-! ## The same above two stacks of frames -/

/-- A result with its own frames above others. -/
def above {α : Type} (outer : List Frame) (done : α × List Frame) : α × List Frame :=
  (done.1, done.2 ++ outer)

/-- Whether two computations do the same above two stacks of frames that bind alike the names that
the first one looks up there.  Each starts and ends with a number of own frames. -/
def Alike (outer outer' : List Frame) (before after : Nat) {α : Type} (Q : α → Prop)
    (x y : Metered α) : Prop :=
  ∀ own : List Frame, own.length = before →
    AgreeOn ((x.usage (own ++ outer)).namesPast outer.length) outer outer' →
    ∃ done : Except Halt (α × List Frame),
      (∀ a own', done = .ok (a, own') → Q a ∧ own'.length = after) ∧
      x.outcome (own ++ outer) = done.map (above outer) ∧
      y.outcome (own ++ outer') = done.map (above outer') ∧
      (y.usage (own ++ outer')).steps = (x.usage (own ++ outer)).steps

section Alike

variable {α β : Type} {outer outer' : List Frame} {before between after : Nat}

/-- What changes own frames alone does the same above any others. -/
theorem alike_of_own {Q : α → Prop} {x : Metered α} {f : List Frame → α × List Frame} {n : Nat}
    (h : ∀ own : List Frame, own.length = before → Q (f own).1 ∧ (f own).2.length = after ∧
      ∀ outer, x.outcome (own ++ outer) = .ok (above outer (f own)) ∧
        (x.usage (own ++ outer)).steps = n) :
    Alike outer outer' before after Q x x := by
  intro own hown _
  obtain ⟨hQ, hlength, hx⟩ := h own hown
  refine ⟨.ok (f own), fun a own' hdone => ?_, (hx outer).1, (hx outer').1, ?_⟩
  · rw [Except.ok.inj hdone] at hQ hlength
    exact ⟨hQ, hlength⟩
  · rw [(hx outer).2, (hx outer').2]

/-- Two computations in a row are alike on two stacks if each of them is. -/
theorem Alike.bind {P : α → Prop} {Q : β → Prop} {x y : Metered α} {f g : α → Metered β}
    (hx : Alike outer outer' before between P x y)
    (hf : ∀ a, P a → Alike outer outer' between after Q (f a) (g a)) :
    Alike outer outer' before after Q (x >>= f) (y >>= g) := by
  intro own hown hagree
  -- whatever comes behind it, the first computation looks up what it looks up
  obtain ⟨more, hused⟩ := Metered.exists_usage_bind x f (own ++ outer)
  have hagree₁ : AgreeOn ((x.usage (own ++ outer)).namesPast outer.length) outer outer' := by
    rw [hused, namesPast_add, agreeOn_append] at hagree
    exact hagree.1
  obtain ⟨first, hholds, hdone, hdone', hsteps⟩ := hx own hown hagree₁
  cases first with
  | error halt =>
    obtain ⟨houtcome, husage⟩ := Metered.bind_of_error (f := f) hdone
    obtain ⟨houtcome', husage'⟩ := Metered.bind_of_error (f := g) hdone'
    refine ⟨.error halt, by simp, houtcome, houtcome', ?_⟩
    rw [husage, husage', hsteps]
  | ok result =>
    obtain ⟨a, own'⟩ := result
    obtain ⟨ha, hown'⟩ := hholds a own' rfl
    obtain ⟨houtcome, husage⟩ := Metered.bind_of_ok (f := f) hdone
    obtain ⟨houtcome', husage'⟩ := Metered.bind_of_ok (f := g) hdone'
    -- the second computation starts from the own frames that the first one leaves
    have hagree₂ :
        AgreeOn (((f a).usage (own' ++ outer)).namesPast outer.length) outer outer' := by
      rw [husage, namesPast_add, agreeOn_append] at hagree
      exact hagree.2
    obtain ⟨second, hholds', hnext, hnext', hsteps'⟩ := hf a ha own' hown' hagree₂
    refine ⟨second, hholds', houtcome.trans hnext, houtcome'.trans hnext', ?_⟩
    rw [husage, husage']
    simp only [Usage.add, hsteps]
    exact congrArg _ hsteps'

/-- A name that no own frame binds is bound alike in the frames below. -/
theorem alike_lookUp (env : Env) (name : String) :
    Alike outer outer' before before (·.Meets .any) (lookUp env name) (lookUp env name) := by
  intro own hown hagree
  have hlook : ∀ frames : List Frame, (lookUp env name : Metered Value).outcome frames =
      .ok ((boundValue? frames name).getD (env.global name), frames) := fun _ => rfl
  have hsame : boundValue? (own ++ outer) name = boundValue? (own ++ outer') name := by
    rw [boundValue?_append, boundValue?_append]
    cases hbound : boundValue? own name with
    -- the own frames bind the name, and they are the same
    | some v => rfl
    | none =>
      -- the look-up passes all own frames
      have hpasses : Reading.passes outer.length ⟨name, own ++ outer⟩ = true := by
        simp [Reading.passes, hbound]
      apply hagree
      show name ∈ (([⟨name, own ++ outer⟩] : List Reading).filter (·.passes outer.length)).map _
      simp [hpasses]
  refine ⟨.ok ((boundValue? (own ++ outer) name).getD (env.global name), own), ?_, hlook _, ?_, rfl⟩
  · rintro a own' h
    obtain ⟨-, rfl⟩ := Prod.mk.inj (Except.ok.inj h)
    exact ⟨meets_any _, hown⟩
  · rw [hlook, hsame]
    rfl

/-- A name is bound in the innermost own frame, where there is one. -/
theorem alike_declare {own : Nat} (name : String) (v : Value) :
    Alike outer outer' (own + 1) (own + 1) (fun _ => True) (declare name v) (declare name v) := by
  apply alike_of_own (f := fun frames => ((), bindIn frames name v)) (n := 0)
  intro frames hown
  cases frames with
  | nil => cases hown
  | cons frame rest => exact ⟨trivial, hown, fun _ => ⟨rfl, rfl⟩⟩

end Alike

/-! ## Calls above two stacks of frames -/

variable {outer outer' : List Frame}

/-- What evaluation does itself is the same above both. -/
def alikeLaw (outer outer' : List Frame) (own : Nat) (env : Env) :
    EvalLaw .any Metered Metered env.metered env.metered where
  Rel := Alike outer outer' own own
  rel_pure {_ _ a} h := alike_of_own (f := fun frames => (a, frames)) fun _ hown =>
    ⟨h, hown, fun _ => ⟨rfl, rfl⟩⟩
  rel_bind := Alike.bind
  rel_tick := alike_of_own (f := fun frames => ((), frames)) (n := 1) fun _ hown =>
    ⟨trivial, hown, fun _ => ⟨rfl, rfl⟩⟩
  rel_note _ := alike_of_own (f := fun frames => ((), frames)) fun _ hown =>
    ⟨trivial, hown, fun _ => ⟨rfl, rfl⟩⟩
  rel_lookUp := alike_lookUp env.metered

/-- Patterns and statements write own frames alone. -/
def alikeBindLaw (outer outer' : List Frame) (own : Nat) (env : Env) :
    BindLaw .any Metered Metered env.metered env.metered where
  toEvalLaw := alikeLaw outer outer' (own + 1) env
  rel_declare name v _ := alike_declare name v

/-- A function runs alike above both, in one own frame more, if the calls in it do. -/
theorem alike_runFunction {env : Env} {own : Nat} {call : Caller Metered}
    (hcall : (alikeBindLaw outer outer' own env).Calls call call) (f : Function)
    (args : List Value) :
    Alike outer outer' own own (·.Meets .any) (runFunction env.metered call f args)
      (runFunction env.metered call f args) := by
  -- one frame more is the function's own until it is closed
  have hopen : Alike outer outer' own (own + 1) (fun _ => True) openFrame openFrame :=
    alike_of_own (f := fun frames => ((), [] :: frames)) fun frames hown =>
      ⟨trivial, congrArg (· + 1) hown, fun _ => ⟨rfl, rfl⟩⟩
  have hclose : Alike outer outer' (own + 1) own (fun _ => True) closeFrame closeFrame := by
    apply alike_of_own (f := fun frames => ((), frames.tail))
    intro frames hown
    cases frames with
    | nil => cases hown
    | cons frame rest => exact ⟨trivial, Nat.succ.inj hown, fun _ => ⟨rfl, rfl⟩⟩
  have hparams : Alike outer outer' (own + 1) (own + 1) (fun _ => True)
      (bindParams env.metered call f.params args) (bindParams env.metered call f.params args) :=
    BindLaw.rel_bindParams (L := alikeBindLaw outer outer' own env) hcall (fun _ _ => trivial)
      fun v _ => meets_any v
  have hbody : Alike outer outer' (own + 1) (own + 1) _ (execAll env.metered call f.body)
      (execAll env.metered call f.body) :=
    BindLaw.rel_execAll (L := alikeBindLaw outer outer' own env) hcall f.body fun _ _ => trivial
  -- one frame more, parameters and body within it, and one frame less
  unfold runFunction
  refine hopen.bind fun _ _ => hparams.bind fun _ _ => hbody.bind fun result _ => ?_
  exact hclose.bind fun _ _ => (alikeLaw outer outer' own env).rel_noted (meets_any _)

/-- A call does the same above both, whatever frames of its own it is made from. -/
theorem alike_callAt (env : Env) (depth own : Nat) (f : Function) (args : List Value) :
    Alike outer outer' own own (·.Meets .any) (callAt env.metered depth f args)
      (callAt env.metered depth f args) := by
  induction depth generalizing own f args with
  | zero =>
    -- no call may be opened above either
    intro frames hown _
    exact ⟨.error .depth, by simp, rfl, rfl, rfl⟩
  | succ depth ih =>
    -- calls in the function are made from one own frame more
    have hcalls : (alikeBindLaw outer outer' own env).Calls (callAt env.metered depth)
        (callAt env.metered depth) := fun f args _ _ => ih (own + 1) f args
    exact alike_runFunction hcalls f args

/-! ## Calls from two places -/

/-- Whether a call comes to an outcome in a number of steps, with the frames as they are, wherever
the budget has room for these steps. -/
def CallGives (env : Env) (depth : Nat) (f : Function) (args : List Value) (frames : List Frame)
    (steps : Nat) (outcome : Except Halt Value) : Prop :=
  ∀ taken, taken + steps ≤ env.budget →
    (callAt env depth f args : Run Value) ⟨taken, frames⟩ =
      outcome.map fun v => (v, ⟨taken + steps, frames⟩)

/-- Without frames of its own, a call does under a budget what it does without one. -/
theorem callGives_of_metered {env : Env} {depth : Nat} {f : Function} {args : List Value}
    {frames : List Frame} {outcome : Except Halt Value}
    (h : (callAt env.metered depth f args : Metered Value).outcome frames =
      outcome.map fun v => (v, frames)) :
    CallGives env depth f args frames
      ((callAt env.metered depth f args : Metered Value).usage frames).steps outcome := by
  intro taken hroom
  rw [(meters_callAt env depth f args).run ⟨taken, frames⟩ (Nat.le_of_add_right_le hroom)]
  cases outcome with
  | ok v => exact Metered.within_of_ok h hroom
  | error halt => exact Metered.within_of_error h hroom

/-- A call depends on the frames of its callers through the names alone that it looks up past all
frames of its own.  From any two places above the same constants that bind these names alike, it
comes to the same value or the same error, in the same number of steps. -/
theorem call_from_anywhere {env : Env} {depth : Nat} {f : Function} {args : List Value}
    {bottom : Frame} {between between' : List Frame}
    (h : AgreeOn (namesPast env depth f args (between ++ [bottom])) (between ++ [bottom])
      (between' ++ [bottom])) :
    ∃ (steps : Nat) (outcome : Except Halt Value), outcome ≠ .error .steps ∧
      CallGives env depth f args (between ++ [bottom]) steps outcome ∧
      CallGives env depth f args (between' ++ [bottom]) steps outcome := by
  obtain ⟨done, hown, hdone, hdone', hsteps⟩ := alike_callAt env depth 0 f args [] rfl h
  -- the call leaves no frame of its own
  have hleaves : ∀ outer : List Frame, done.map (above outer) =
      (done.map Prod.fst).map fun v => (v, outer) := by
    intro outer
    cases done with
    | error halt => rfl
    | ok result =>
      obtain ⟨v, own⟩ := result
      obtain rfl := List.eq_nil_of_length_eq_zero (hown v own rfl).2
      rfl
  rw [hleaves] at hdone hdone'
  refine ⟨_, done.map Prod.fst, ?_, callGives_of_metered hdone,
    hsteps ▸ callGives_of_metered hdone'⟩
  intro hhalt
  rw [hhalt] at hdone
  exact (meters_callAt env depth f args).unstopped hdone

/-- A badge that shows a property below the title of the component. -/
def badge : Function :=
  .mk 0 [.name "props"] [.ret (some (.binary .add (.name "title")
    (.member (.name "props") (.string "who"))))]

/-- The badge looks the title up in the frames below its own; the properties of its callers are none
of its business. -/
theorem call_from_anywhere_of_badge :
    let env : Env := ⟨[], [], 10⟩
    let bottom : Frame := [("title", .string "Dr ")]
    let args := [Value.map [("who", .string "Ada")]]
    namesPast env 1 badge args ([[("props", .string "mine")]] ++ [bottom]) = ["title"] ∧
      ∃ (steps : Nat) (outcome : Except Halt Value), outcome ≠ .error .steps ∧
        CallGives env 1 badge args ([[("props", .string "mine")]] ++ [bottom]) steps outcome ∧
        CallGives env 1 badge args ([] ++ [bottom]) steps outcome := by
  intro env bottom args
  have hnames : namesPast env 1 badge args ([[("props", .string "mine")]] ++ [bottom]) =
      ["title"] := by decide +kernel
  have hagree : AgreeOn (namesPast env 1 badge args ([[("props", .string "mine")]] ++ [bottom]))
      ([[("props", .string "mine")]] ++ [bottom]) ([] ++ [bottom]) := by
    -- the one name that is looked up past the frames of the call is bound in the frame below both
    rw [hnames]
    intro name hname
    obtain rfl := List.mem_singleton.mp hname
    rfl
  exact ⟨hnames, call_from_anywhere hagree⟩

/-! ## What a caller has bound -/

/-- A row that shows a label, in a card with a property of that name. -/
def labelSource : String :=
  "const label = \"top\"; " ++
  "function Row() \x7b return label; \x7d " ++
  "function Card(\x7b label \x7d) \x7b return <p><Row/></p>; \x7d"

/-- The text that a helper gives without arguments, called from some frames above the frame of the
constants. -/
def calledText (b : Blueprint) (name : String) (between : List Frame) : Except Unit String :=
  let call : Caller Run := callAt (b.env {}) 48
  do
    let bound ← (bindConstants (b.env {}) call b.constants ⟨0, [[]]⟩).mapError fun _ => ()
    let f ← (Fields.get? b.helpers name).elim (.error ()) .ok
    let done ← (call f [] ⟨bound.2.steps, between ++ bound.2.frames⟩).mapError fun _ => ()
    return done.1.toText

/-- A called text comes from a run that binds the constants, finds the helper and calls it. -/
theorem exists_of_calledText {b : Blueprint} {name text : String} {between : List Frame}
    (h : calledText b name between = .ok text) :
    ∃ s f v t,
      (bindConstants (b.env {}) (callAt (b.env {}) 48) b.constants : Run Unit) ⟨0, [[]]⟩ =
        .ok ((), s) ∧
      Fields.get? b.helpers name = some f ∧
      (callAt (b.env {}) 48 f [] : Run Value) ⟨s.steps, between ++ s.frames⟩ = .ok (v, t) ∧
      v.toText = text := by
  obtain ⟨bound, hconstants, h⟩ := bind_eq_ok.mp h
  obtain ⟨f, hhelper, h⟩ := bind_eq_ok.mp h
  obtain ⟨done, hcall, h⟩ := bind_eq_ok.mp h
  refine ⟨bound.2, f, done.1, done.2, mapError_eq_ok.mp hconstants, ?_,
    mapError_eq_ok.mp hcall, pure_eq_ok.mp h⟩
  -- a name under which there is no helper would have given an error
  cases hget : Fields.get? b.helpers name with
  | none =>
    rw [hget] at hhelper
    cases hhelper
  | some found =>
    rw [hget] at hhelper
    exact congrArg some (Except.ok.inj hhelper)

/-- Above the same constants, a row shows the property of the card that it is called in, and else
the constant: what its caller has bound decides. -/
theorem caller_binding_seen :
    ∃ b s f v v' t t', compile "Card" labelSource (Scope.ofConfig {}) = .ok b ∧
      (bindConstants (b.env {}) (callAt (b.env {}) 48) b.constants : Run Unit) ⟨0, [[]]⟩ =
        .ok ((), s) ∧
      Fields.get? b.helpers "Row" = some f ∧
      (callAt (b.env {}) 48 f [] : Run Value)
        ⟨s.steps, [[("label", .string "mine")]] ++ s.frames⟩ = .ok (v, t) ∧
      (callAt (b.env {}) 48 f [] : Run Value) ⟨s.steps, [] ++ s.frames⟩ = .ok (v', t') ∧
      v ≠ v' := by
  -- one evaluation of both calls, from which the steps are read off
  have hrun : ((compile "Card" labelSource (Scope.ofConfig {})).mapError (fun _ => ()) >>= fun b =>
      calledText b "Row" [[("label", .string "mine")]] >>= fun inside =>
        calledText b "Row" [] >>= fun outside => pure (inside, outside)) =
      .ok ("mine", "top") := by decide +kernel
  obtain ⟨b, hcompile, hrun⟩ := bind_eq_ok.mp hrun
  obtain ⟨inside, hinside, hrun⟩ := bind_eq_ok.mp hrun
  obtain ⟨outside, houtside, hrun⟩ := bind_eq_ok.mp hrun
  obtain ⟨rfl, rfl⟩ := Prod.mk.inj (pure_eq_ok.mp hrun)
  rw [mapError_eq_ok] at hcompile
  obtain ⟨s, f, v, t, hconstants, hhelper, hcall, hmine⟩ := exists_of_calledText hinside
  obtain ⟨s', f', v', t', hconstants', hhelper', hcall', htop⟩ := exists_of_calledText houtside
  obtain ⟨-, rfl⟩ := Prod.mk.inj (Except.ok.inj (hconstants.symm.trans hconstants'))
  obtain rfl := Option.some.inj (hhelper.symm.trans hhelper')
  -- equal values would be shown alike
  have hdiffer : v ≠ v' := by
    rintro rfl
    exact absurd (hmine.symm.trans htop) (by decide)
  exact ⟨b, s, f, v, v', t, t', hcompile, hconstants, hhelper, hcall, hcall', hdiffer⟩

end ComponentCanvas.Blueprint
