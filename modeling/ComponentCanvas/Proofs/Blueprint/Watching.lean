import ComponentCanvas.Proofs.Blueprint.Law
import ComponentCanvas.Proofs.Blueprint.Machine

/-!
# Watching a Rendering

A watched machine renders as the one that takes no notes does, and keeps a record of what happens,
with the frames at each moment.  The record is kept when rendering stops at a limit.  What is
written in a blueprint decides what the record can hold: where the code and the global names meet a
policy, so does everything that is seen.
-/

namespace ComponentCanvas.Blueprint

/-- Something that happens, and the frames at that moment. -/
structure Moment where
  event : Event
  frames : List Frame

/-- A computation on the machine that keeps a record. -/
abbrev Watched := StateT State (ExceptT Halt (StateM (List Moment)))

instance : Machine Watched where
  note event := do
    let s ← getThe State
    modifyThe (List Moment) (· ++ [⟨event, s.frames⟩])

/-- What a watched computation comes to, and the record after it. -/
def Watched.outcome {α : Type} (w : Watched α) (s : State) (record : List Moment) :
    Except Halt (α × State) × List Moment :=
  w s record

end ComponentCanvas.Blueprint

namespace ComponentCanvas

open Blueprint

/-- The nodes that a blueprint is rendered to, with the record of the rendering. -/
def Blueprint.watch (b : Blueprint) (props : Bag) (limits : Limits) :
    Except RenderError (List RenderNode) × List Moment :=
  match (b.rendering props limits : Watched _).outcome ⟨0, [[]]⟩ [] with
  | (.ok (nodes, _), record) => (.ok nodes, record)
  | (.error halt, record) => (.error (halt.toError b.typeId limits), record)

end ComponentCanvas

namespace ComponentCanvas.Blueprint

section Outcome

variable {α β : Type} (s : State) (record : List Moment)

theorem outcome_bind (w : Watched α) (f : α → Watched β) :
    (w >>= f).outcome s record =
      match w.outcome s record with
      | (.ok (a, s'), record') => (f a).outcome s' record'
      | (.error halt, record') => (.error halt, record') := by
  simp only [Watched.outcome, bind, StateT.bind, ExceptT.bind, ExceptT.mk]
  rcases w s record with ⟨result | result, record'⟩ <;> rfl

theorem outcome_note (event : Event) :
    (Machine.note event : Watched Unit).outcome s record =
      (.ok ((), s), record ++ [⟨event, s.frames⟩]) := rfl

theorem outcome_tick (env : Env) :
    (tick env : Watched Unit).outcome s record = ((tick env : Run Unit) s, record) := by
  show ((if env.budget < s.steps + 1 then throw .steps
    else set (⟨s.steps + 1, s.frames⟩ : State) : Watched Unit)).outcome s record = _
  rw [run_tick]
  split <;> rfl

theorem outcome_declare (name : String) (v : Value) :
    (declare name v : Watched Unit).outcome s record =
      ((declare name v : Run Unit) s, record ++ [⟨.bound name v, s.frames⟩]) := rfl

/-- Whether a watched computation that has a result takes note of it. -/
def TakesNote (w : Watched Value) : Prop :=
  ∀ s record v s' record', w.outcome s record = (.ok (v, s'), record') →
    ⟨.result v, s'.frames⟩ ∈ record'

theorem takesNote_noted (v : Value) : TakesNote (noted v) := by
  intro s record v' s' record' h
  obtain ⟨hresult, rfl⟩ := Prod.mk.inj h
  obtain ⟨rfl, rfl⟩ := Prod.mk.inj (Except.ok.inj hresult)
  simp

theorem TakesNote.bind {w : Watched α} {f : α → Watched Value} (h : ∀ a, TakesNote (f a)) :
    TakesNote (w >>= f) := by
  intro s record v s' record' heq
  rw [outcome_bind] at heq
  split at heq
  · exact h _ _ _ _ _ _ heq
  · cases (Prod.mk.inj heq).1

/-- Every evaluation that has a result takes note of it. -/
theorem takesNote_eval (env : Env) (call : Caller Watched) (e : Expr) :
    TakesNote (eval env call e) := by
  cases e with
  -- either side can be the result, and it is noted once it is known which
  | logical op left right =>
    simp only [eval]
    refine .bind fun _ => .bind fun a => ?_
    split
    · exact takesNote_noted a
    · exact .bind takesNote_noted
  | conditional test consequent alternate =>
    simp only [eval]
    refine .bind fun _ => .bind fun v => ?_
    split <;> exact .bind takesNote_noted
  -- the call of a method evaluates the object and the name, any other call its callee
  | call callee args =>
    cases callee with
    | member object key =>
      simp only [eval]
      exact .bind fun _ => .bind fun _ => .bind fun _ => .bind fun _ => .bind takesNote_noted
    | _ =>
      simp only [eval]
      exact .bind fun _ => .bind fun _ => .bind fun _ => .bind takesNote_noted
  | member object key =>
    simp only [eval]
    exact .bind fun _ => .bind fun _ => .bind fun _ => takesNote_noted _
  | binary op left right =>
    simp only [eval]
    exact .bind fun _ => .bind fun _ => .bind fun _ => takesNote_noted _
  -- what has no parts is noted as it is
  | undefined | null | bool | number | string | unmodelled | function =>
    simp only [eval]
    exact .bind fun _ => takesNote_noted _
  | name | template | array | object | unary | markup =>
    simp only [eval]
    exact .bind fun _ => .bind fun _ => takesNote_noted _

end Outcome

/-! ## What is seen -/

/-- Whether all values in frames meet a policy. -/
def FramesMeet (frames : List Frame) (p : Policy) : Prop := ∀ frame ∈ frames, FieldsMeet frame p

/-- Whether an event and all frames at its moment meet a policy. -/
def Moment.Meets (moment : Moment) (p : Policy) : Prop :=
  moment.event.Meets p ∧ FramesMeet moment.frames p

variable {p : Policy}

theorem meets_boundValue {frames : List Frame} (h : FramesMeet frames p) {name : String} {v : Value}
    (hv : boundValue? frames name = some v) : v.Meets p := by
  obtain ⟨frame, hframe, hget⟩ := List.exists_of_findSome?_eq_some hv
  exact (h frame hframe).get? hget

theorem FramesMeet.bindIn {frames : List Frame} (h : FramesMeet frames p) (name : String)
    {v : Value} (hv : v.Meets p) : FramesMeet (bindIn frames name v) p := by
  cases frames with
  | nil => exact h
  | cons frame outer =>
    obtain ⟨hframe, houter⟩ := List.forall_mem_cons.mp h
    exact List.forall_mem_cons.mpr ⟨hframe.insert name hv, houter⟩

/-- Whether a watched computation does what the other one does.  From frames that meet the policy,
everything that it sees meets the policy, and so do the frames that it ends with. -/
def Watches (p : Policy) {α : Type} (Q : α → Prop) (x : Run α) (w : Watched α) : Prop :=
  ∀ s record, FramesMeet s.frames p →
    ∃ seen, (∀ moment ∈ seen, moment.Meets p) ∧ w.outcome s record = (x s, record ++ seen) ∧
      ∀ a s', x s = .ok (a, s') → Q a ∧ FramesMeet s'.frames p

section Watches

variable {α β : Type}

/-- An operation on the frames, of which the moments that it sees depend on the frames as well. -/
theorem watches_of_onFrames {Q : α → Prop} {x : Run α} {w : Watched α}
    {f : List Frame → α × List Frame} (seen : List Frame → List Moment) (hx : OnFrames x f)
    (hw : ∀ s record, w.outcome s record = (x s, record ++ seen s.frames))
    (hseen : ∀ frames, FramesMeet frames p → ∀ moment ∈ seen frames, moment.Meets p)
    (hafter : ∀ frames, FramesMeet frames p → Q (f frames).1 ∧ FramesMeet (f frames).2 p) :
    Watches p Q x w := by
  intro s record hs
  refine ⟨seen s.frames, hseen _ hs, hw s record, fun a s' h => ?_⟩
  rw [hx] at h
  obtain ⟨rfl, rfl⟩ := Prod.mk.inj (Except.ok.inj h)
  exact hafter _ hs

/-- An operation on the frames that sees nothing. -/
theorem watches_of_quiet {Q : α → Prop} {x : Run α} {w : Watched α}
    {f : List Frame → α × List Frame} (hx : OnFrames x f)
    (hw : ∀ s record, w.outcome s record = (x s, record))
    (hafter : ∀ frames, FramesMeet frames p → Q (f frames).1 ∧ FramesMeet (f frames).2 p) :
    Watches p Q x w := by
  refine watches_of_onFrames (fun _ => []) hx (fun s record => ?_)
    (fun _ _ => List.forall_mem_nil _) hafter
  rw [List.append_nil, hw]

/-- Watching goes through two computations in a row, the records of which are put together. -/
theorem Watches.bind {P : α → Prop} {Q : β → Prop} {x : Run α} {w : Watched α}
    {f : α → Run β} {g : α → Watched β} (hx : Watches p P x w)
    (hf : ∀ a, P a → Watches p Q (f a) (g a)) : Watches p Q (x >>= f) (w >>= g) := by
  intro s record hs
  obtain ⟨seen, hseen, hw, hafter⟩ := hx s record hs
  rw [outcome_bind, hw, run_bind]
  cases hresult : x s with
  | error halt => exact ⟨seen, hseen, rfl, fun a s' h => nomatch h⟩
  | ok result =>
    obtain ⟨a, s'⟩ := result
    obtain ⟨ha, hs'⟩ := hafter a s' hresult
    -- the second computation goes on with the record of the first
    obtain ⟨seen', hseen', hw', hafter'⟩ := hf a ha s' (record ++ seen) hs'
    refine ⟨seen ++ seen', List.forall_mem_append.mpr ⟨hseen, hseen'⟩, ?_, hafter'⟩
    rw [← List.append_assoc]
    exact hw'

/-- A step leaves no record behind, whether or not the budget allows it. -/
theorem watches_tick (env : Env) : Watches p (fun _ => True) (tick env) (tick env) := by
  intro s record hs
  refine ⟨[], by simp, by rw [outcome_tick, List.append_nil], fun a s' h => ?_⟩
  rw [run_tick] at h
  split at h
  · cases h
  · obtain ⟨-, rfl⟩ := Prod.mk.inj (Except.ok.inj h)
    exact ⟨trivial, hs⟩

theorem watches_note {event : Event} (h : event.Meets p) :
    Watches p (fun _ => True) (Machine.note event) (Machine.note event) := by
  refine watches_of_onFrames (fun frames => [⟨event, frames⟩]) (onFrames_note event)
    (fun s record => outcome_note s record event) (fun frames hframes => ?_)
    fun frames hframes => ⟨trivial, hframes⟩
  exact List.forall_mem_singleton.mpr ⟨h, hframes⟩

/-- A name that is bound in no frame stands for a global, which has to meet the policy itself. -/
theorem watches_lookUp {env : Env} (henv : ∀ name, (env.global name).Meets p) (name : String) :
    Watches p (·.Meets p) (lookUp env name) (lookUp env name) := by
  apply watches_of_quiet (onFrames_lookUp env name) (fun _ _ => rfl)
  intro frames hframes
  refine ⟨?_, hframes⟩
  cases hbound : boundValue? frames name with
  | none => exact henv name
  | some v => exact meets_boundValue hframes hbound

theorem watches_declare (name : String) {v : Value} (h : v.Meets p) :
    Watches p (fun _ => True) (declare name v) (declare name v) := by
  refine watches_of_onFrames (fun frames => [⟨.bound name v, frames⟩]) (onFrames_declare name v)
    (fun s record => outcome_declare s record name v) (fun frames hframes => ?_)
    fun frames hframes => ⟨trivial, hframes.bindIn name h⟩
  exact List.forall_mem_singleton.mpr ⟨h, hframes⟩

end Watches

/-- A watched machine does what the one that takes no notes does, and sees what a policy permits. -/
def watchLaw (p : Policy) (env : Env) (henv : ∀ name, (env.global name).Meets p) :
    Law p Run Watched env env where
  Rel := Watches p
  rel_pure h := watches_of_quiet (onFrames_pure _) (fun _ _ => rfl) fun _ hframes => ⟨h, hframes⟩
  rel_bind := Watches.bind
  rel_tick := watches_tick env
  rel_note := watches_note
  rel_lookUp := watches_lookUp henv
  rel_declare := watches_declare
  rel_openFrame := watches_of_quiet onFrames_openFrame (fun _ _ => rfl) fun _ hframes =>
    ⟨trivial, List.forall_mem_cons.mpr ⟨.nil, hframes⟩⟩
  rel_closeFrame := watches_of_quiet onFrames_closeFrame (fun _ _ => rfl) fun _ hframes =>
    ⟨trivial, fun frame hframe => hframes frame (List.mem_of_mem_tail hframe)⟩

/-- Calls are watched at any depth that is left, by induction on the depth. -/
theorem calls_watchLaw {env : Env} (henv : ∀ name, (env.global name).Meets p) (depth : Nat) :
    (watchLaw p env henv).Calls (callAt env depth) (callAt env depth) := by
  induction depth with
  -- no depth is left: nothing happens and the call fails
  | zero =>
    intro f args hf hargs
    show Watches p _ (throw .depth) (throw .depth)
    intro s record hs
    exact ⟨[], by simp, by rw [List.append_nil]; rfl, fun a s' heq => nomatch heq⟩
  | succ depth ih =>
    intro f args hf hargs
    exact Law.rel_runFunction ih hf hargs

/-- Helper: the global names of a blueprint meet a policy that permits its code. -/
theorem meets_global {b : Blueprint} {limits : Limits}
    (hbuiltin : ∀ name, name ∈ Scope.safeGlobals ∨ name ∈ b.capabilities → p.builtin name)
    (hwritten : p.Permits b.written) (name : String) : ((b.env limits).global name).Meets p := by
  unfold Env.global
  split
  · next f hget =>
    -- a helper is code of the blueprint
    refine meets_function.mpr fun t ht => hwritten t ?_
    have hmem := Fields.mem_of_get? hget
    exact List.mem_append_right _ (List.mem_append_left _ (List.mem_flatMap.mpr ⟨_, hmem, ht⟩))
  · split
    · exact meets_number _
    · exact meets_number _
    · exact meets_undefined
    · split
      · next hsafe => exact meets_builtin.mpr (hbuiltin name (by simpa [Blueprint.env] using hsafe))
      · exact meets_undefined

/-- Watching a rendering does not change it.  Where the global names and the code of a blueprint
meet a policy, so does everything that is seen, and so do the nodes. -/
theorem watch_meets {b : Blueprint}
    (hbuiltin : ∀ name, name ∈ Scope.safeGlobals ∨ name ∈ b.capabilities → p.builtin name)
    (hwritten : p.Permits b.written) (props : Bag) (limits : Limits) :
    (b.watch props limits).1 = b.instantiate props limits ∧
      (∀ moment ∈ (b.watch props limits).2, moment.Meets p) ∧
      ∀ nodes, b.instantiate props limits = .ok nodes → NodesMeet nodes p := by
  have henv : ∀ name, ((b.env limits).global name).Meets p := meets_global hbuiltin hwritten
  have hwatches : Watches p (NodesMeet · p) (b.rendering props limits) (b.rendering props limits) :=
    (watchLaw p (b.env limits) henv).rel_rendering (calls_watchLaw henv _) hwritten props
  -- rendering starts without steps, with one empty frame and an empty record
  obtain ⟨seen, hseen, houtcome, hnodes⟩ := hwatches ⟨0, [[]]⟩ [] (by simp [FramesMeet, FieldsMeet])
  rw [Blueprint.watch, Blueprint.instantiate, houtcome]
  cases hresult : (b.rendering props limits : Run (List RenderNode)) ⟨0, [[]]⟩ with
  | error halt => exact ⟨rfl, hseen, fun nodes h => nomatch h⟩
  | ok result =>
    refine ⟨rfl, hseen, fun nodes h => ?_⟩
    obtain rfl := Except.ok.inj h
    exact (hnodes result.1 result.2 hresult).1

end ComponentCanvas.Blueprint
