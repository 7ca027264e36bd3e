import BodyCall.Proofs.Agreement
import BodyCall.Proofs.Limits

/-!
# The frame limit

A run of a body under a frame limit is the run without a limit, unless that pushes a frame where the
limit does not allow it. Then the run overflows at the first such frame, and the failure goes through
every cleanup to the top, unchanged.
-/

namespace BodyCall

open Eval

variable {m : Nat} {source : Scope → Nat → Store → Lowering} {depth : Nat}

namespace Body

theorem announce_level (b : Body) (c : Call) : Level (b.announce c) := by
  intro s
  cases debug : s.context.settings.debug.execution with
  | true =>
    let told : Event := .logged (.executing b.scope (b.shownName c.name))
    refine .told (o := some (.ok ())) { s with trace := told :: s.trace } rfl
      (fun _ => trivial) fun limit => ?_
    rw [announce_run]
    exact congrArg (Prod.mk _) (if_pos debug)
  | false =>
    refine .silent (o := some (.ok ())) s rfl fun limit => ?_
    rw [announce_run]
    exact congrArg (Prod.mk _) (if_neg (Bool.eq_false_iff.mp debug))

theorem sequence_level (b : Body) : Level (b.sequence ((Env.interpreting source).reach depth)) := by
  intro s
  -- the limit is not what readiness sees of the settings
  have same (limit : Option Nat) : b.sequence ((Env.interpreting source).reach depth)
      (s.limitedTo limit) = readyAt source depth b s.context.settings (s.limitedTo limit) :=
    congrFun (readyAt_settings source depth b (s.limitedTo limit).context.settings
      s.context.settings rfl) (s.limitedTo limit)
  obtain ⟨o, s', events, trace, low, run⟩ :=
    Level.of_backstage (Backstage.readyAt source depth b s.context.settings) s
  exact ⟨o, s', events, trace, low, fun limit => (same limit).trans (run limit)⟩

variable {r : Reach}

theorem invoke_forks (balanced : r.Keeps Balance) (ready : ∀ b : Body, Level (b.sequence r))
    (run : ∀ h i seq, Forks m FailsWith (r.interpret h i seq)) (b : Body) (c : Call)
    (block : Block) :
    Forks m FailsWith (b.invoke r c block) := by
  refine ((b.announce_level c).forks m _).bind fun _ => ((ready b).forks m _).bind fun seq => ?_
  refine .withProtocol (dispatch_keeps Balance.guarded balanced b c seq block) ?_ _ _
  intro s
  cases kind : b.scope.label? with
  | none =>
    rw [ForksAt, dispatch_invalid kind, dispatch_invalid kind]
    exact .along rfl (List.forall_mem_nil _)
  | some label =>
    rw [ForksAt, dispatch_run kind, dispatch_run kind]
    exact Forks.withBacktrace (balanced.interpret _ _ _) (run _ _ _) (entry label seq s) s

end Body

namespace Interpreter

variable {r : Reach} {engine : Nat} {i : Invocation} {seq : Sequence}

theorem execute_forks (invoked : ∀ (b : Body) c block, Forks m FailsWith (b.invoke r c block))
    (own : Nat) (last : Value) (instr : Instr) :
    Forks m FailsWith (execute r engine i seq own last instr) := by
  cases instr with
  | line n => exact ((Level.setLine n).bind fun _ => .pure _).forks m _
  | put v => exact (Level.pure _).forks m _
  | putSelf => exact (Level.pure _).forks m _
  | raise message => exact (Level.failHere _).forks m _
  | pushFrame => exact (pushFrame_forks _).bind fun _ => (Level.pure _).forks m _
  | popFrame =>
    cases own with
    | zero => exact (Level.failHere _).forks m _
    | succ own => exact (Level.popFrame.bind fun _ => .pure _).forks m _
  | define scope =>
    have told : Level (emit (.defining engine scope)) := .of_backstage (.emit rfl)
    have known : Level (bodyFor engine scope i.call.receiver.module? seq.handle) :=
      .of_backstage (bodyFor_backstage _ _ _ _)
    have defined := (told.forks m FailsWith).bind fun _ => (known.forks m FailsWith).bind fun b =>
      invoked b (definitionCall b) .absent
    exact Forks.bind defined fun v => (Level.pure _).forks m _

/-- Stopped instructions hand their failure over with the frames that the sequence has left. -/
def HandsOver (f : Failure) (o : Outcome (Outcome Value × Nat)) : Prop :=
  ∃ own, o = .ok (.failed f, own)

theorem run_forks (invoked : ∀ (b : Body) c block, Forks m FailsWith (b.invoke r c block))
    (own : Nat) (last : Value) (instrs : List Instr) :
    Forks m HandsOver (run r engine i seq own last instrs) := by
  -- on the instructions: as long as no push is refused, the two runs stay together
  induction instrs generalizing own last with
  | nil => exact (Level.pure _).forks m _
  | cons instr rest ih =>
    intro s
    have first : ForksAt m FailsWith (execute r engine i seq own last instr) s :=
      execute_forks invoked own last instr s
    refine first.attempt.bind (fun o => ?_) fun f o s₂ _ caught run => ?_
    · cases o with
      | ok result => exact ih _ _
      | failed f => exact (Level.pure _).forks m _
      | panicked t => exact (Level.pure _).forks m _
    · obtain rfl := caught
      exact ⟨_, s₂, [], run_of_failed (attempt_ok run) rest, ⟨own, rfl⟩, rfl, List.forall_mem_nil _⟩

theorem interpret_forks (balanced : r.Keeps Balance)
    (invoked : ∀ (b : Body) c block, Forks m FailsWith (b.invoke r c block)) :
    Forks m FailsWith (interpret r engine i seq) := by
  intro s
  refine (run_forks invoked 0 .nil seq.instrs s).bind (fun result => ?_)
    fun f o s₂ cause stopped ran => ?_
  · obtain ⟨o, own⟩ := result
    have reported : Backstage (report o) := by
      cases o with
      | failed f => exact .log _
      | ok v => exact .pure ()
      | panicked t => exact .pure ()
    have popped := (Level.ofOutcome o).attempt.bind fun o => (Level.popFrames own).cleanup o
    exact ((Level.of_backstage reported).bind fun _ => popped).forks m _
  · obtain ⟨own, rfl⟩ := stopped
    have confined := run_confined (s := s.limitedTo (some m)) balanced engine i seq .nil
      seq.instrs [] rfl
    rw [List.length_nil, ran] at confined
    obtain ⟨pushed, frames, rfl⟩ := confined.frames
    let report : Event := .logged (.bodyFailed f.cause)
    obtain ⟨s', events, popped, trace, unwinds⟩ :=
      Cleans.popFrames (m := m) (s := { s₂ with trace := report :: s₂.trace }) frames
    refine ⟨_, s', events ++ [report], ?_, rfl, ?_, ?_⟩
    · rw [bind_of_ok ran]
      exact (bind_of_ok (report_run _ s₂)).trans (ensuring_of_ended rfl popped)
    · rw [trace, List.append_assoc]
      rfl
    · intro e among
      refine (List.mem_append.mp among).elim (unwinds e) fun told => ?_
      rw [List.mem_singleton.mp told]
      exact cause

end Interpreter

namespace Env

theorem interpretAt_forks (depth : Nat) (h : Handle) (i : Invocation) (seq : Sequence) :
    Forks m FailsWith ((interpreting source).interpretAt depth h i seq) := by
  induction depth generalizing h i seq with
  | zero => exact Level.exhausted.forks m _
  | succ depth ih =>
    have balanced := Balance.reach source depth
    have inner : Forks m FailsWith
        (Interpreter.interpret ((interpreting source).reach depth) h.engine i seq) :=
      Interpreter.interpret_forks balanced (Body.invoke_forks balanced Body.sequence_level ih)
    refine ((Level.of_backstage .store).forks m _).bind fun st => ?_
    split
    · exact inner.holding h.engine
    · exact (Level.failHere _).forks m _

end Env

/-- Let a body be invoked without a frame limit and under the limit `m`. If the run without a limit
pushes no frame at a depth of `m` or more, then the other one ends in the same way, in the same
state. If it does, then the other one is the same up to the first such frame: there it overflows, it
unwinds, and both stacks are as they were. So a run that does not overflow under `m` ends in the same
way, in the same state, under every greater limit and without a limit. -/
theorem Body.invoke_limit (source : Scope → Nat → Store → Lowering) (depth : Nat) (b : Body)
    (c : Call) (block : Block) (s : State) (m : Nat) :
    let run (limit : Option Nat) :=
      b.invoke ((Env.interpreting source).reach depth) c block (s.limitedTo limit)
    let within := ∀ e ∈ (run none).2.since s, e.Within m
    (within → run (some m) = ((run none).1, (run none).2.limitedTo (some m))) ∧
    (¬ within → ∃ backtrace s', run (some m) = (some (.failed (overflow m backtrace)), s') ∧
      Parted m backtrace ((run none).2.since s) (s'.since s) ∧
      s'.context.backtrace = s.context.backtrace ∧ s'.context.frames = s.context.frames) ∧
    ∀ o s', run (some m) = (some o, s') → (∀ f, o = .failed f → f.cause ≠ .stackOverflow m) →
      ∀ limit, (∀ n, limit = some n → m ≤ n) → run limit = (some o, s'.limitedTo limit) := by
  intro run within
  have balanced := Balance.reach source depth
  have forked (n : Nat) : ForksAt n FailsWith _ s := Body.invoke_forks balanced sequence_level
    (Env.interpretAt_forks depth) b c block s
  refine ⟨(forked m).same, fun high => ?_, fun o s' ended other limit greater => ?_⟩
  · obtain ⟨backtrace, s', stopped, parted⟩ := (forked m).parts high
    have balance := (b.invoke_keeps Balance.guarded balanced c block).of_ended stopped
    exact ⟨backtrace, s', stopped, parted, balance.backtrace rfl, balance.frames rfl⟩
  · have low : within := (forked m).low_of_ended ended other
    have same := ((forked m).same low).symm.trans ended
    obtain ⟨end_eq, rfl⟩ := Prod.mk.inj same
    cases limit with
    | none =>
      obtain ⟨s₁, -, state, -⟩ := (forked m).onward
      rw [state]
      exact Prod.ext end_eq state
    | some n =>
      have free := (forked n).same fun e among => (low e among).mono (greater n rfl)
      exact free.trans (congrArg (·, _) end_eq)

/-- A class body takes a frame, and its metaclass body takes another. A limit of one frame stops the
second; two frames are enough, and then so is every greater limit. -/
theorem Body.widget_invoke_limit :
    let m : Module := .top 0 "Widget" .classLike
    let widget : Body := ⟨0, Program.widgetClass, m, ⟨0, true⟩⟩
    let s : State := ⟨⟨{}, 1, [], []⟩, { nextModule := 1, nextBody := 1 }, []⟩
    let run (limit : Option Nat) := widget.invoke
      ((Env.interpreting Program.widget.source).reach 2) ⟨none, .object m, m, "Widget"⟩ .absent
      (s.limitedTo limit)
    (run (some 1)).1 = some (.failed
      (overflow 1 [⟨"singleton class", "widget.rb", 2⟩, ⟨"Widget", "widget.rb", 1⟩])) ∧
    (run (some 2)).1 = some (.ok (.object m)) ∧
    ∀ limit, (∀ n, limit = some n → 2 ≤ n) → (run limit).1 = some (.ok (.object m)) := by
  intro m widget s run
  have ended : (run (some 2)).1 = some (.ok (.object m)) := by decide +kernel
  refine ⟨by decide +kernel, ended, fun limit greater => ?_⟩
  have monotone : ∀ o s', run (some 2) = (some o, s') →
      (∀ f, o = .failed f → f.cause ≠ .stackOverflow 2) →
      ∀ limit, (∀ n, limit = some n → 2 ≤ n) → run limit = (some o, s'.limitedTo limit) :=
    (Body.invoke_limit Program.widget.source 2 widget ⟨none, .object m, m, "Widget"⟩ .absent s 2).2.2
  -- from here on, what the runs are does not matter
  clear_value run
  rcases at_two : run (some 2) with ⟨o, s'⟩
  rw [at_two] at ended
  obtain rfl : o = some (.ok (.object m)) := ended
  exact congrArg Prod.fst (monotone _ s' at_two (fun _ failed => nomatch failed) limit greater)

end BodyCall
