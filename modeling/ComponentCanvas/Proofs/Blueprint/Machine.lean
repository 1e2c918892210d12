import ComponentCanvas.Blueprint.Machine
import ComponentCanvas.Proofs.Except

/-!
# The Operations of the Machine

What each operation of the machine that takes no notes does to its state.
-/

namespace ComponentCanvas.Blueprint

variable {α β : Type}

theorem run_bind (x : Run α) (f : α → Run β) (s : State) :
    (x >>= f) s = (x s >>= fun result => f result.1 result.2) := rfl

/-- A result of the first of two computations goes on to the second one. -/
theorem run_bind_of_ok {x : Run α} {f : α → Run β} {s s' : State} {a : α}
    (h : x s = .ok (a, s')) : (x >>= f) s = f a s' := by
  rw [run_bind, h]
  rfl

theorem run_tick (env : Env) (s : State) :
    (tick env : Run Unit) s =
      if env.budget < s.steps + 1 then .error .steps else .ok ((), ⟨s.steps + 1, s.frames⟩) := by
  show (if env.budget < s.steps + 1 then throw .steps
    else set (⟨s.steps + 1, s.frames⟩ : State) : Run Unit) s = _
  split <;> rfl

/-! ## Operations on frames -/

/-- Whether a computation reads and writes nothing but the frames.  The function says what it gives
and what it leaves. -/
def OnFrames (x : Run α) (f : List Frame → α × List Frame) : Prop :=
  ∀ s : State, x s = .ok ((f s.frames).1, ⟨s.steps, (f s.frames).2⟩)

theorem onFrames_pure (a : α) : OnFrames (pure a) fun frames => (a, frames) := fun _ => rfl

theorem onFrames_note (event : Event) :
    OnFrames (Machine.note event) fun frames => ((), frames) := fun _ => rfl

theorem onFrames_lookUp (env : Env) (name : String) :
    OnFrames (lookUp env name) fun frames =>
      ((boundValue? frames name).getD (env.global name), frames) := fun _ => rfl

/-- The frames after a name is bound in the innermost one. -/
def bindIn (frames : List Frame) (name : String) (v : Value) : List Frame :=
  match frames with
  | frame :: outer => Fields.insert frame name v :: outer
  | [] => []

theorem onFrames_declare (name : String) (v : Value) :
    OnFrames (declare name v) fun frames => ((), bindIn frames name v) := by
  intro s
  obtain ⟨steps, frames⟩ := s
  cases frames <;> rfl

theorem onFrames_openFrame : OnFrames openFrame fun frames => ((), [] :: frames) := fun _ => rfl

theorem onFrames_closeFrame : OnFrames closeFrame fun frames => ((), frames.tail) := fun _ => rfl

end ComponentCanvas.Blueprint
