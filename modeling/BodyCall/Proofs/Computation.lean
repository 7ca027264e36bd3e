import BodyCall.Stacks

/-!
# Laws of computations

How computations end when they are put together. A sequence of two ends where the second ends, or
where the first fails or panics; a cleanup that ends well leaves the outcome alone.
-/

namespace BodyCall

namespace Eval

variable {α β : Type} {x : Eval α} {k : α → Eval β} {s s' : State}

@[simp] theorem pure_run (a : α) (s : State) : (pure a : Eval α) s = (some (.ok a), s) := rfl

@[simp] theorem ofOutcome_run (o : Outcome α) (s : State) : ofOutcome o s = (some o, s) := rfl

@[simp] theorem context_bind (k : Context → Eval β) (s : State) :
    (context >>= k) s = k s.context s := rfl

@[simp] theorem store_bind (k : Store → Eval β) (s : State) : (store >>= k) s = k s.store s := rfl

@[simp] theorem update_bind (g : State → State) (k : Unit → Eval β) (s : State) :
    (update g >>= k) s = k () (g s) := rfl

theorem bind_of_ok {a : α} (h : x s = (some (.ok a), s')) : (x >>= k) s = k a s' := by
  change andThen x k s = _
  rw [andThen, h]

theorem bind_of_failed {f : Failure} (h : x s = (some (.failed f), s')) :
    (x >>= k) s = (some (.failed f), s') := by
  change andThen x k s = _
  rw [andThen, h]

theorem bind_of_panicked {t : String} (h : x s = (some (.panicked t), s')) :
    (x >>= k) s = (some (.panicked t), s') := by
  change andThen x k s = _
  rw [andThen, h]

theorem bind_of_none (h : x s = (none, s')) : (x >>= k) s = (none, s') := by
  change andThen x k s = _
  rw [andThen, h]

theorem bind_ok {b : β} (h : (x >>= k) s = (some (.ok b), s')) :
    ∃ a s₁, x s = (some (.ok a), s₁) ∧ k a s₁ = (some (.ok b), s') := by
  rcases hx : x s with ⟨_ | a | f | t, s₁⟩
  · rw [bind_of_none hx] at h; cases h
  · exact ⟨a, s₁, rfl, (bind_of_ok hx).symm.trans h⟩
  · rw [bind_of_failed hx] at h; cases h
  · rw [bind_of_panicked hx] at h; cases h

theorem bind_failed {f : Failure} (h : (x >>= k) s = (some (.failed f), s')) :
    x s = (some (.failed f), s') ∨
      ∃ a s₁, x s = (some (.ok a), s₁) ∧ k a s₁ = (some (.failed f), s') := by
  rcases hx : x s with ⟨_ | a | f' | t, s₁⟩
  · rw [bind_of_none hx] at h; cases h
  · exact .inr ⟨a, s₁, rfl, (bind_of_ok hx).symm.trans h⟩
  · rw [bind_of_failed hx] at h
    cases h
    exact .inl rfl
  · rw [bind_of_panicked hx] at h; cases h

theorem bind_panicked {t : String} (h : (x >>= k) s = (some (.panicked t), s')) :
    x s = (some (.panicked t), s') ∨
      ∃ a s₁, x s = (some (.ok a), s₁) ∧ k a s₁ = (some (.panicked t), s') := by
  rcases hx : x s with ⟨_ | a | f | t', s₁⟩
  · rw [bind_of_none hx] at h; cases h
  · exact .inr ⟨a, s₁, rfl, (bind_of_ok hx).symm.trans h⟩
  · rw [bind_of_failed hx] at h; cases h
  · rw [bind_of_panicked hx] at h
    cases h
    exact .inl rfl

theorem bind_pure_run (x : Eval α) (g : α → β) (s : State) :
    (x >>= fun a => pure (g a)) s = ((x s).1.map (Outcome.map g), (x s).2) := by
  rcases h : x s with ⟨_ | a | f | t, s₁⟩
  · exact bind_of_none h
  · exact bind_of_ok h
  · exact bind_of_failed h
  · exact bind_of_panicked h

theorem attempt_of_ended {o : Outcome α} (h : x s = (some o, s')) :
    attempt x s = (some (.ok o), s') := by
  rw [attempt, h]
  rfl

theorem attempt_of_none (h : x s = (none, s')) : attempt x s = (none, s') := by
  rw [attempt, h]
  rfl

theorem attempt_ok {o : Outcome α} (h : attempt x s = (some (.ok o), s')) : x s = (some o, s') := by
  rcases hx : x s with ⟨_ | o', s₁⟩
  · rw [attempt_of_none hx] at h; cases h
  · rw [attempt_of_ended hx] at h
    cases h
    rfl

theorem ensuring_of_none {cleanup : Eval Unit} (h : x s = (none, s')) :
    ensuring x cleanup s = (none, s') := bind_of_none (attempt_of_none h)

theorem ensuring_of_ended {cleanup : Eval Unit} {o : Outcome α} {s₁ : State}
    (h : x s = (some o, s₁)) (clean : cleanup s₁ = (some (.ok ()), s')) :
    ensuring x cleanup s = (some o, s') := by
  rw [ensuring, bind_of_ok (attempt_of_ended h), bind_of_ok (attempt_of_ended clean)]
  rfl

theorem attaching_of_ended {o : Outcome α} (h : x s = (some o, s')) :
    attaching x s = (some (o.mapFailure (·.attach s'.context.backtrace)), s') := by
  rw [attaching, bind_of_ok (attempt_of_ended h)]
  cases o <;> rfl

theorem attaching_of_none (h : x s = (none, s')) : attaching x s = (none, s') :=
  bind_of_none (attempt_of_none h)

end Eval

/-! ## What has happened -/

/-- What has happened since an earlier state, newest first. -/
def State.since (now start : State) : List Event :=
  now.trace.take (now.trace.length - start.trace.length)

namespace State

@[simp] theorem since_self (s : State) : s.since s = [] := by simp [since]

theorem since_of_append {s s' : State} {events : List Event} (h : s'.trace = events ++ s.trace) :
    s'.since s = events := by
  rw [since, h]
  simp

theorem since_append {s s₁ s₂ : State} (first : s.trace <:+ s₁.trace)
    (second : s₁.trace <:+ s₂.trace) : s₂.since s = s₂.since s₁ ++ s₁.since s := by
  obtain ⟨before, h₁⟩ := first
  obtain ⟨after, h₂⟩ := second
  rw [since_of_append h₁.symm, since_of_append h₂.symm]
  apply since_of_append
  rw [← h₂, ← h₁, List.append_assoc]

end State

/-! ## Motions of the stacks -/

/-- The state with both stacks as given, and the motion that led there recorded. -/
def State.move (s : State) (m : Motion) (backtrace : Backtrace) (frames : List Frame) : State :=
  { s with
    context := { s.context with backtrace, frames }
    trace := .moved m backtrace frames :: s.trace }

namespace Eval

theorem pushEntry_run (e : Entry) (s : State) : pushEntry e s =
    (some (.ok ()), s.move .entered (e :: s.context.backtrace) s.context.frames) := rfl

theorem popEntry_run {e : Entry} {rest : Backtrace} {s : State}
    (h : s.context.backtrace = e :: rest) :
    popEntry s = (some (.ok e), s.move .left rest s.context.frames) := by
  rw [popEntry, context_bind, h]
  rfl

theorem pushFrame_run {f : Frame} {s : State} (h : s.context.exceeded? = none) : pushFrame f s =
    (some (.ok ()), s.move .framePushed s.context.backtrace (f :: s.context.frames)) := by
  rw [pushFrame, context_bind, h]
  rfl

theorem pushFrame_refused {f : Frame} {s : State} {max : Nat} (h : s.context.exceeded? = some max) :
    pushFrame f s =
      (some (.failed (Failure.attach s.context.backtrace ⟨.stackOverflow max, none⟩)),
        s.move .frameRefused s.context.backtrace s.context.frames) := by
  rw [pushFrame, context_bind, h]
  rfl

theorem popFrame_run {f : Frame} {rest : List Frame} {s : State} (h : s.context.frames = f :: rest) :
    popFrame s = (some (.ok ()), s.move .framePopped s.context.backtrace rest) := by
  rw [popFrame, context_bind, h]
  rfl

theorem popFrame_empty {s : State} (h : s.context.frames = []) : popFrame s =
    (some (.panicked "CallContext::post_method_frame() with no frame"), s) := by
  rw [popFrame, context_bind, h]
  rfl

variable {α : Type} {x : Eval α} {s s' : State} {o : Outcome α}

theorem withBacktrace_of_none {e : Entry}
    (h : x (s.move .entered (e :: s.context.backtrace) s.context.frames) = (none, s')) :
    withBacktrace e x s = (none, s') := by
  rw [withBacktrace, underEntry, bind_of_ok (pushEntry_run e s)]
  exact ensuring_of_none (attaching_of_none h)

theorem underEntry_of_ended {e e' : Entry} {rest : Backtrace}
    (h : x (s.move .entered (e :: s.context.backtrace) s.context.frames) = (some o, s'))
    (top : s'.context.backtrace = e' :: rest) :
    underEntry e x s = (some o, s'.move .left rest s'.context.frames) := by
  rw [underEntry, bind_of_ok (pushEntry_run e s)]
  exact ensuring_of_ended h (bind_of_ok (popEntry_run top))

theorem withBacktrace_of_ended {e e' : Entry} {rest : Backtrace}
    (h : x (s.move .entered (e :: s.context.backtrace) s.context.frames) = (some o, s'))
    (top : s'.context.backtrace = e' :: rest) :
    withBacktrace e x s =
      (some (o.mapFailure (·.attach (e' :: rest))), s'.move .left rest s'.context.frames) := by
  rw [withBacktrace, ← top]
  exact underEntry_of_ended (attaching_of_ended h) top

theorem withProtocol_refused {f : Frame} {max : Nat} (h : s.context.exceeded? = some max) :
    withProtocol false f x s =
      (some (.failed (Failure.attach s.context.backtrace ⟨.stackOverflow max, none⟩)),
        s.move .frameRefused s.context.backtrace s.context.frames) :=
  bind_of_failed (bind_of_failed (pushFrame_refused h))

theorem withProtocol_of_pushed {f : Frame} (room : s.context.exceeded? = none) :
    withProtocol false f x s =
      ensuring x popFrame (s.move .framePushed s.context.backtrace (f :: s.context.frames)) := by
  have entered : enterProtocol false f s =
      (some (.ok true), s.move .framePushed s.context.backtrace (f :: s.context.frames)) :=
    bind_of_ok (pushFrame_run room)
  exact bind_of_ok entered

/-- A name that means nothing breaks the session, and the state stays as it is in either case. -/
theorem resolve_run (g : Registry → Except String α) (s : State) :
    resolve g s =
      match g s.store.registry with
      | .ok a => (some (.ok a), s)
      | .error name => (some (.panicked ("nothing is named " ++ Text.quote name)), s) := by
  change (match g s.store.registry with
    | .ok a => Pure.pure a
    | .error name => panic ("nothing is named " ++ Text.quote name) : Eval α) s = _
  cases g s.store.registry <;> rfl

theorem holding_of_none {engine : Nat}
    (h : x { s with store := { s.store with running := engine :: s.store.running } } = (none, s')) :
    holding engine x s = (none, s') := ensuring_of_none h

theorem holding_of_ended {engine : Nat}
    (h : x { s with store := { s.store with running := engine :: s.store.running } } =
      (some o, s')) :
    holding engine x s =
      (some o, { s' with store := { s'.store with running := s'.store.running.erase engine } }) :=
  ensuring_of_ended h rfl

end Eval

end BodyCall
