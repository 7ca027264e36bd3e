import BodyCall.Proofs.Before

/-!
# The stacks are balanced

A run that ends leaves both stacks as it found them, whatever its end, and between its start and its
end, or the point at which it is cut off, neither stack ever goes below what it found. So no cleanup
takes away what belongs to a caller, and none finds a stack empty.
-/

namespace BodyCall

open Eval

def Event.stacks? : Event → Option (Backtrace × List Frame)
  | .moved _ b f => some (b, f)
  | _ => none

def State.bothStacks (s : State) : Backtrace × List Frame := (s.context.backtrace, s.context.frames)

/-- The stacks do not change without a motion that is recorded with what they are after it. -/
structure Recorded (s s' : State) : Prop where
  trace : s.trace <:+ s'.trace
  latest : s'.bothStacks = ((s'.since s).findSome? Event.stacks?).getD s.bothStacks

theorem Recorded.stepwise : Stepwise fun s _ s' => Recorded s s' where
  refl s _ := ⟨List.suffix_rfl, by simp⟩
  trans {s s₁ s₂ _} h h' := by
    refine ⟨h.trace.trans h'.trace, ?_⟩
    rw [h'.latest, h.latest, State.since_append h.trace h'.trace, List.findSome?_append]
    cases (s₂.since s₁).findSome? Event.stacks? <;> rfl
  told s e h := by
    refine ⟨List.suffix_cons e s.trace, ?_⟩
    rw [@State.since_of_append s { s with trace := e :: s.trace } [e] rfl]
    cases e with
    | moved m b f => cases h
    | _ => rfl
  line s n := ⟨List.suffix_rfl, by simp [State.since, State.bothStacks]⟩
  stored s st _ := ⟨List.suffix_rfl, by simp [State.since, State.bothStacks]⟩
  moved s m b f := by
    refine ⟨List.suffix_cons _ s.trace, ?_⟩
    rw [@State.since_of_append s (s.move m b f) [.moved m b f] rfl]
    rfl

def Event.Above (backtrace : Backtrace) (frames : List Frame) : Event → Prop
  | .moved _ b f => backtrace <:+ b ∧ frames <:+ f
  | _ => True

theorem Event.above_of_not_motion {e : Event} (h : e.isMotion = false) (backtrace : Backtrace)
    (frames : List Frame) : e.Above backtrace frames := by
  cases e with
  | moved m b f => cases h
  | _ => trivial

/-- Between two states neither stack went below the given ones. -/
structure Above (backtrace : Backtrace) (frames : List Frame) (s s' : State) : Prop where
  trace : s.trace <:+ s'.trace
  events : ∀ e ∈ s'.since s, e.Above backtrace frames

namespace Above

variable {b b' : Backtrace} {f f' : List Frame} {s s₁ s₂ : State}

theorem refl (s : State) : Above b f s s := ⟨List.suffix_rfl, by simp⟩

theorem trans (h : Above b f s s₁) (h' : Above b f s₁ s₂) : Above b f s s₂ := by
  refine ⟨h.trace.trans h'.trace, fun e he => ?_⟩
  rw [State.since_append h.trace h'.trace] at he
  rcases List.mem_append.mp he with later | earlier
  · exact h'.events e later
  · exact h.events e earlier

theorem mono (h : Above b' f' s s₁) (hb : b <:+ b') (hf : f <:+ f') : Above b f s s₁ := by
  refine ⟨h.trace, fun e he => ?_⟩
  have above := h.events e he
  cases e with
  | moved m b₁ f₁ => exact ⟨hb.trans above.1, hf.trans above.2⟩
  | _ => trivial

theorem tell {e : Event} (h : s₁.trace = e :: s.trace) (above : e.Above b f) : Above b f s s₁ := by
  refine ⟨h ▸ List.suffix_cons e s.trace, fun e' he => ?_⟩
  rw [@State.since_of_append s s₁ [e] h, List.mem_singleton] at he
  exact he ▸ above

theorem move (m : Motion) {b' : Backtrace} {f' : List Frame} (hb : b <:+ b') (hf : f <:+ f') :
    Above b f s (s.move m b' f') := tell rfl ⟨hb, hf⟩

end Above

/-- What lies between two states of a run leaves the stacks alone if it has come to an end, and does
not go below them on the way. -/
structure Balance (s : State) (ended : Bool) (s' : State) : Prop
    extends Above s.context.backtrace s.context.frames s s' where
  backtrace : ended = true → s'.context.backtrace = s.context.backtrace
  frames : ended = true → s'.context.frames = s.context.frames

namespace Balance

theorem trans {s s₁ s₂ : State} {ended : Bool} (h : Balance s true s₁) (h' : Balance s₁ ended s₂) :
    Balance s ended s₂ := by
  have above := h'.toAbove
  rw [h.backtrace rfl, h.frames rfl] at above
  exact ⟨h.toAbove.trans above, fun e => (h'.backtrace e).trans (h.backtrace rfl),
    fun e => (h'.frames e).trans (h.frames rfl)⟩

/-- Two runs from one state leave the same context if they are on one line. -/
theorem context {s s' t' : State} (h : Balance s true s') (h' : Balance s true t')
    (settings : t'.context.settings = s'.context.settings)
    (line : t'.context.line = s'.context.line) : t'.context = s'.context := by
  have backtrace := (h'.backtrace rfl).trans (h.backtrace rfl).symm
  have frames := (h'.frames rfl).trans (h.frames rfl).symm
  generalize s'.context = c at *
  generalize t'.context = d at *
  cases c
  cases d
  simp_all only

theorem quiet : Quiet Balance where
  refl s _ := ⟨.refl s, fun _ => rfl, fun _ => rfl⟩
  trans := trans
  told _ _ h := ⟨.tell rfl (Event.above_of_not_motion h _ _), fun _ => rfl, fun _ => rfl⟩
  line s _ := ⟨⟨List.suffix_rfl, by simp [State.since]⟩, fun _ => rfl, fun _ => rfl⟩
  stored s _ _ := ⟨⟨List.suffix_rfl, by simp [State.since]⟩, fun _ => rfl, fun _ => rfl⟩

end Balance

namespace Eval

variable {α : Type} {x : Eval α}

theorem withBacktrace_balance (e : Entry) (hx : Keeps Balance x) :
    Keeps Balance (withBacktrace e x) := by
  intro s
  let s₁ := s.move .entered (e :: s.context.backtrace) s.context.frames
  have entered : Above s.context.backtrace s.context.frames s s₁ :=
    .move _ (List.suffix_cons e _) List.suffix_rfl
  rcases h : x s₁ with ⟨_ | o, s₂⟩
  · have inner := (hx.of_none h).toAbove
    rw [withBacktrace_of_none h]
    exact ⟨entered.trans (inner.mono (List.suffix_cons e _) List.suffix_rfl), nofun, nofun⟩
  · have inner := hx.of_ended h
    -- the computation has left its own entry on top, so it is that entry which goes
    rw [withBacktrace_of_ended h (inner.backtrace rfl)]
    have frames : s₂.context.frames = s.context.frames := inner.frames rfl
    have above := inner.toAbove.mono (List.suffix_cons e _) List.suffix_rfl
    refine ⟨entered.trans (above.trans ?_), fun _ => rfl, fun _ => frames⟩
    exact .move _ List.suffix_rfl (frames ▸ List.suffix_rfl)

theorem withProtocol_balance (explicit : Bool) (f : Frame) (hx : Keeps Balance x) :
    Keeps Balance (withProtocol explicit f x) := by
  cases explicit with
  | true => exact hx
  | false =>
    intro s
    cases room : s.context.exceeded? with
    | some max =>
      rw [withProtocol_refused room]
      exact ⟨.move _ List.suffix_rfl List.suffix_rfl, fun _ => rfl, fun _ => rfl⟩
    | none =>
      rw [withProtocol_of_pushed room]
      let s₁ := s.move .framePushed s.context.backtrace (f :: s.context.frames)
      have pushed : Above s.context.backtrace s.context.frames s s₁ :=
        .move _ List.suffix_rfl (List.suffix_cons f _)
      rcases h : x s₁ with ⟨_ | o, s₂⟩
      · have inner := (hx.of_none h).toAbove
        rw [ensuring_of_none h]
        exact ⟨pushed.trans (inner.mono List.suffix_rfl (List.suffix_cons f _)), nofun, nofun⟩
      · have inner := hx.of_ended h
        rw [ensuring_of_ended h (popFrame_run (inner.frames rfl))]
        have backtrace : s₂.context.backtrace = s.context.backtrace := inner.backtrace rfl
        have above := inner.toAbove.mono List.suffix_rfl (List.suffix_cons f _)
        refine ⟨pushed.trans (above.trans ?_), fun _ => backtrace, fun _ => rfl⟩
        exact .move _ (backtrace ▸ List.suffix_rfl) List.suffix_rfl

end Eval

theorem Balance.guarded : Guarded Balance where
  toQuiet := quiet
  withBacktrace e _ hx := Eval.withBacktrace_balance e hx
  withProtocol explicit f _ hx := Eval.withProtocol_balance explicit f hx

namespace Interpreter

/-! ## Instructions -/

section

variable {r : Reach} {engine : Nat} {i : Invocation} {seq : Sequence} {own : Nat} {last : Value}
  {instr : Instr} {s s' : State}

theorem execute_raise (message : String) : execute r engine i seq own last (.raise message) s =
    (some (.failed (Failure.attach s.context.backtrace ⟨.raised message, none⟩)), s) := rfl

theorem execute_underflow : execute r engine i seq 0 last .popFrame s =
    (some (.failed (Failure.attach s.context.backtrace ⟨.frameUnderflow, none⟩)), s) := rfl

/-- What an instruction that is no definition can fail with. -/
theorem execute_plain_failed {f : Failure} (plain : ∀ scope, instr ≠ .define scope)
    (step : execute r engine i seq own last instr s = (some (.failed f), s')) :
    ∃ cause, f = Failure.attach s.context.backtrace ⟨cause, none⟩ ∧
      ((∃ message, instr = .raise message ∧ cause = .raised message) ∨
        (∃ max, instr = .pushFrame ∧ s.context.exceeded? = some max ∧ cause = .stackOverflow max) ∨
        (instr = .popFrame ∧ own = 0 ∧ cause = .frameUnderflow)) := by
  cases instr with
  | line n => cases step
  | put v => cases step
  | putSelf => cases step
  | define scope => exact absurd rfl (plain scope)
  | raise message =>
    cases step
    exact ⟨_, rfl, .inl ⟨message, rfl, rfl⟩⟩
  | pushFrame =>
    cases limit : s.context.exceeded? with
    | none =>
      rw [execute, bind_of_ok (pushFrame_run limit)] at step
      cases step
    | some max =>
      rw [execute, bind_of_failed (pushFrame_refused limit)] at step
      cases step
      exact ⟨_, rfl, .inr (.inl ⟨max, rfl, rfl, rfl⟩)⟩
  | popFrame =>
    cases own with
    | zero =>
      cases step
      exact ⟨_, rfl, .inr (.inr ⟨rfl, rfl, rfl⟩)⟩
    | succ own =>
      cases frames : s.context.frames with
      | nil =>
        rw [execute, bind_of_panicked (popFrame_empty frames)] at step
        cases step
      | cons f rest =>
        rw [execute, bind_of_ok (popFrame_run frames)] at step
        cases step

theorem run_of_ok {own' : Nat} {last' : Value}
    (step : execute r engine i seq own last instr s = (some (.ok (own', last')), s'))
    (rest : List Instr) :
    run r engine i seq own last (instr :: rest) s = run r engine i seq own' last' rest s' := by
  rw [run, bind_of_ok (attempt_of_ended step)]

theorem run_of_failed {f : Failure}
    (step : execute r engine i seq own last instr s = (some (.failed f), s')) (rest : List Instr) :
    run r engine i seq own last (instr :: rest) s = (some (.ok (.failed f, own)), s') := by
  rw [run, bind_of_ok (attempt_of_ended step)]
  rfl

theorem run_of_panicked {t : String}
    (step : execute r engine i seq own last instr s = (some (.panicked t), s'))
    (rest : List Instr) :
    run r engine i seq own last (instr :: rest) s = (some (.ok (.panicked t, own)), s') := by
  rw [run, bind_of_ok (attempt_of_ended step)]
  rfl

theorem run_of_none (step : execute r engine i seq own last instr s = (none, s'))
    (rest : List Instr) : run r engine i seq own last (instr :: rest) s = (none, s') := by
  rw [run, bind_of_none (attempt_of_none step)]

end

/-- What a sequence has done so far on a stack that had `base` under its own frames. -/
structure OwnFrames (base : List Frame) (s : State) (own : Nat) (s' : State) : Prop
    extends Above s.context.backtrace base s s' where
  backtrace : s'.context.backtrace = s.context.backtrace
  frames : ∃ pushed, s'.context.frames = pushed ++ base ∧ pushed.length = own

variable {r : Reach} {base : List Frame} {s s₁ : State}

theorem OwnFrames.trans {s₂ : State} {own own' : Nat} (h : OwnFrames base s own s₁)
    (h' : OwnFrames base s₁ own' s₂) : OwnFrames base s own' s₂ := by
  have above := h'.toAbove
  rw [h.backtrace] at above
  exact ⟨h.toAbove.trans above, h'.backtrace.trans h.backtrace, h'.frames⟩

theorem OwnFrames.of_balance {s' : State} {pushed : List Frame} (h : Balance s true s')
    (frames : s.context.frames = pushed ++ base) : OwnFrames base s pushed.length s' :=
  ⟨h.toAbove.mono List.suffix_rfl ⟨pushed, frames.symm⟩, h.backtrace rfl, pushed,
    (h.frames rfl).trans frames, rfl⟩

/-- What an instruction may do to the stacks of a sequence with `own` frames of its own. -/
def Confined (base : List Frame) (s : State) (own : Nat) :
    Option (Outcome (Nat × Value)) × State → Prop
  | (none, s') => Above s.context.backtrace base s s'
  | (some (.ok (own', _)), s') => OwnFrames base s own' s'
  | (some (.failed _), s') | (some (.panicked _), s') => OwnFrames base s own s'

theorem execute_confined (hr : r.Keeps Balance) (engine : Nat) (i : Invocation) (seq : Sequence)
    (last : Value) (instr : Instr) {pushed : List Frame}
    (frames : s.context.frames = pushed ++ base) :
    Confined base s pushed.length (execute r engine i seq pushed.length last instr s) := by
  have still : OwnFrames base s pushed.length s := .of_balance (Balance.quiet.refl s true) frames
  cases instr with
  | line n => exact .of_balance (Balance.quiet.line s n) frames
  | put v => exact still
  | putSelf => exact still
  | raise message => exact still
  | pushFrame =>
    cases room : s.context.exceeded? with
    | some max =>
      rw [execute, bind_of_failed (pushFrame_refused room)]
      exact ⟨.move _ List.suffix_rfl ⟨pushed, frames.symm⟩, rfl, pushed, frames, rfl⟩
    | none =>
      have above : base <:+ ownFrame i :: s.context.frames :=
        ⟨ownFrame i :: pushed, by simp [frames]⟩
      rw [execute, bind_of_ok (pushFrame_run room)]
      exact ⟨.move _ List.suffix_rfl above, rfl, ownFrame i :: pushed,
        congrArg (ownFrame i :: ·) frames, rfl⟩
  | popFrame =>
    cases pushed with
    | nil => exact still
    | cons f rest =>
      have popped : execute r engine i seq (f :: rest).length last .popFrame s = _ :=
        bind_of_ok (popFrame_run frames)
      rw [popped]
      exact ⟨.move _ List.suffix_rfl ⟨rest, rfl⟩, rfl, rest, rfl, rfl⟩
  | define scope =>
    have balanced := define_keeps Balance.guarded hr engine i seq scope
    rcases run : define r engine i seq scope s with ⟨_ | v | f | t, s₁⟩
    · rw [execute, bind_of_none run]
      exact (balanced.of_none run).toAbove.mono List.suffix_rfl ⟨pushed, frames.symm⟩
    · rw [execute, bind_of_ok run]
      exact .of_balance (balanced.of_ended run) frames
    · rw [execute, bind_of_failed run]
      exact .of_balance (balanced.of_ended run) frames
    · rw [execute, bind_of_panicked run]
      exact .of_balance (balanced.of_ended run) frames

def RunConfined (base : List Frame) (s : State) :
    Option (Outcome (Outcome Value × Nat)) × State → Prop
  | (none, s') => Above s.context.backtrace base s s'
  | (some (.ok (_, own)), s') => OwnFrames base s own s'
  | (some (.failed _), _) | (some (.panicked _), _) => False

theorem OwnFrames.then_run {own : Nat} (h : OwnFrames base s own s₁)
    {result : Option (Outcome (Outcome Value × Nat)) × State} (h' : RunConfined base s₁ result) :
    RunConfined base s result := by
  obtain ⟨_ | ⟨o, own'⟩ | f | t, s₂⟩ := result
  · have above : Above s₁.context.backtrace base s₁ s₂ := h'
    rw [h.backtrace] at above
    exact h.toAbove.trans above
  · exact h.trans h'
  · exact h'
  · exact h'

theorem run_confined (hr : r.Keeps Balance) (engine : Nat) (i : Invocation) (seq : Sequence)
    (last : Value) (instrs : List Instr) (pushed : List Frame)
    (frames : s.context.frames = pushed ++ base) :
    RunConfined base s (run r engine i seq pushed.length last instrs s) := by
  -- on the instructions: `pushed` lies on `base` before each of them, with a list of its own
  induction instrs generalizing s pushed last with
  | nil => exact .of_balance (Balance.quiet.refl s true) frames
  | cons instr rest ih =>
    have first := execute_confined hr engine i seq last instr frames
    rcases step : execute r engine i seq pushed.length last instr s with
      ⟨_ | ⟨own, last'⟩ | f | t, s₁⟩
    · rw [step] at first
      rw [run_of_none step]
      exact first
    · rw [step] at first
      rw [run_of_ok step]
      obtain ⟨pushed', frames', rfl⟩ := first.frames
      exact first.then_run (ih last' pushed' frames')
    · rw [step] at first
      rw [run_of_failed step]
      exact first
    · rw [step] at first
      rw [run_of_panicked step]
      exact first

theorem popFrames_own {pushed : List Frame} (frames : s.context.frames = pushed ++ base) :
    ∃ s', popFrames pushed.length s = (some (.ok ()), s') ∧ OwnFrames base s 0 s' ∧
      s'.store = s.store ∧ s'.context.line = s.context.line := by
  induction pushed generalizing s with
  | nil => exact ⟨s, rfl, .of_balance (Balance.quiet.refl s true) frames, rfl, rfl⟩
  | cons f rest ih =>
    let s₁ := s.move .framePopped s.context.backtrace (rest ++ base)
    obtain ⟨s', popped, own, store, line⟩ := @ih s₁ rfl
    have first : OwnFrames base s rest.length s₁ :=
      ⟨.move _ List.suffix_rfl ⟨rest, rfl⟩, rfl, rest, rfl, rfl⟩
    exact ⟨s', (bind_of_ok (popFrame_run frames)).trans popped, first.trans own, store, line⟩

def reported : Outcome Value → List Event
  | .failed f => [.logged (.bodyFailed f.cause)]
  | .ok _ | .panicked _ => []

theorem report_run (o : Outcome Value) (s : State) :
    report o s = (some (.ok ()), { s with trace := reported o ++ s.trace }) := by
  cases o <;> rfl

theorem interpret_of_popped {engine : Nat} {i : Invocation} {seq : Sequence} {o : Outcome Value}
    {own : Nat} {s' : State}
    (ran : run r engine i seq 0 .nil seq.instrs s = (some (.ok (o, own)), s₁))
    (popped : popFrames own { s₁ with trace := reported o ++ s₁.trace } = (some (.ok ()), s')) :
    interpret r engine i seq s = (some o, s') := by
  rw [interpret, bind_of_ok ran]
  exact (bind_of_ok (report_run o s₁)).trans (ensuring_of_ended rfl popped)

/-- The frames that the instructions of a sequence have left can be taken away, and lie on what was
there before. -/
theorem popFrames_of_run (hr : r.Keeps Balance) {engine : Nat} {i : Invocation} {seq : Sequence}
    {o : Outcome Value} {own : Nat}
    (h : run r engine i seq 0 .nil seq.instrs s = (some (.ok (o, own)), s₁)) :
    ∃ s', popFrames own { s₁ with trace := reported o ++ s₁.trace } = (some (.ok ()), s') ∧
      OwnFrames s.context.frames s 0 s' ∧ s'.store = s₁.store ∧
      s'.context.line = s₁.context.line := by
  have ran : OwnFrames s.context.frames s own s₁ := by
    have confined := @run_confined r _ s hr engine i seq .nil seq.instrs [] rfl
    rw [List.length_nil, h] at confined
    exact confined
  obtain ⟨pushed, frames, rfl⟩ := ran.frames
  let s₂ : State := { s₁ with trace := reported o ++ s₁.trace }
  have told : OwnFrames s.context.frames s₁ pushed.length s₂ :=
    .of_balance ((report_keeps Balance.quiet.toTelling o).of_ended (report_run o s₁)) frames
  obtain ⟨s', popped, own, store, line⟩ := @popFrames_own _ s₂ _ frames
  exact ⟨s', popped, ran.trans (told.trans own), store, line⟩

/-- An interpretation ends with the outcome of its instructions, once the frames that they have left
are gone. -/
theorem interpret_of_run (hr : r.Keeps Balance) {engine : Nat} {i : Invocation} {seq : Sequence}
    {o : Outcome Value} {own : Nat}
    (h : run r engine i seq 0 .nil seq.instrs s = (some (.ok (o, own)), s₁)) :
    ∃ s', interpret r engine i seq s = (some o, s') ∧ Balance s true s' ∧ s₁.Before s' ∧
      s'.store = s₁.store ∧ s'.context.line = s₁.context.line := by
  obtain ⟨s', popped, all, store, line⟩ := popFrames_of_run hr h
  refine ⟨s', interpret_of_popped h popped, ?_, ?_, store, line⟩
  · obtain ⟨rest, stack, empty⟩ := all.frames
    rw [List.length_eq_zero_iff.mp empty] at stack
    exact ⟨all.toAbove, fun _ => all.backtrace, fun _ => stack⟩
  · have told : s₁.Before { s₁ with trace := reported o ++ s₁.trace } :=
      ⟨Store.Before.refl s₁.store, rfl, List.suffix_append (reported o) s₁.trace⟩
    exact told.trans ((Keeps.popFrames State.Before.stepwise.toMoving own).of_ended popped)

theorem run_of_interpret (hr : r.Keeps Balance) {engine : Nat} {i : Invocation} {seq : Sequence}
    {o : Outcome Value} {s' : State} (h : interpret r engine i seq s = (some o, s')) :
    ∃ own s₁, run r engine i seq 0 .nil seq.instrs s = (some (.ok (o, own)), s₁) := by
  have confined := @run_confined r _ s hr engine i seq .nil seq.instrs [] rfl
  rw [List.length_nil] at confined
  rcases ran : run r engine i seq 0 .nil seq.instrs s with ⟨_ | ⟨o', own⟩ | f | t, s₁⟩
  · rw [interpret, bind_of_none ran] at h
    cases h
  · obtain ⟨s₂, ended, -⟩ := interpret_of_run hr ran
    have same := ended.symm.trans h
    cases same
    exact ⟨own, s₁, rfl⟩
  · rw [ran] at confined
    exact confined.elim
  · rw [ran] at confined
    exact confined.elim

theorem interpret_balance (hr : r.Keeps Balance) (engine : Nat) (i : Invocation) (seq : Sequence) :
    Keeps Balance (interpret r engine i seq) := by
  intro s
  have confined := @run_confined r _ s hr engine i seq .nil seq.instrs [] rfl
  rcases h : run r engine i seq 0 .nil seq.instrs s with ⟨_ | ⟨o, own⟩ | f | t, s₁⟩
  · rw [List.length_nil, h] at confined
    rw [interpret, bind_of_none h]
    exact ⟨confined, nofun, nofun⟩
  · obtain ⟨s', ended, balance, -⟩ := interpret_of_run hr h
    rw [ended]
    exact balance
  · rw [List.length_nil, h] at confined
    exact confined.elim
  · rw [List.length_nil, h] at confined
    exact confined.elim

end Interpreter

theorem Balance.reach (source : Scope → Nat → Store → Lowering) (depth : Nat) :
    ((Env.interpreting source).reach depth).Keeps Balance :=
  Env.reach_keeps quiet (fun _ hr => Interpreter.interpret_balance hr) depth

end BodyCall
