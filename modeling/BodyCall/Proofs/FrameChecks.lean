import BodyCall.Proofs.Agreement
import BodyCall.Proofs.Sites

/-!
# Both frame checks

The frames of a sequence are checked twice: by its source, which counts along the list before
anything runs, and by the interpreter, which counts along the run. What the first check accepts never
fails the second, however deep it is nested, and leaves no frame behind. Where nothing else can stop
a run, the two checks come to the same.
-/

namespace BodyCall

open Eval

/-- Each scope answers with code that is there from the start, and is checked then. -/
def preparing (code : Scope → Nat → Store → Lowered) : Scope → Nat → Store → Lowering :=
  fun scope n st => .prepared (code scope n st)

def balancedCode (code : Scope → Nat → Store → Lowered) : Invariant (preparing code) :=
  .code fun scope n st l (h : SourceEnd.answered (code scope n st).checked = .answered (.ok l)) =>
    Lowered.Balanced.of_checked (SourceEnd.answered.inj h)

namespace Interpreter

variable {r : Reach} {engine : Nat} {i : Invocation} {seq : Sequence} {own : Nat} {last : Value}
  {s s₁ : State}

/-- Balanced instructions stay balanced along a run, with the frames that are left by then. -/
theorem imbalance_of_execute {instr : Instr} {rest : List Instr} {index own' : Nat} {last' : Value}
    (step : execute r engine i seq own last instr s = (some (.ok (own', last')), s₁)) :
    imbalance? index own (instr :: rest) = imbalance? (index + 1) own' rest := by
  cases instr with
  | line n => cases step; rfl
  | put v => cases step; rfl
  | putSelf => cases step; rfl
  | raise message => cases step
  | pushFrame =>
    obtain ⟨_, s₂, -, pushed⟩ := bind_ok step
    cases pushed
    rfl
  | popFrame =>
    cases own with
    | zero => cases step
    | succ own =>
      obtain ⟨_, s₂, -, popped⟩ := bind_ok step
      cases popped
      rfl
  | define scope =>
    obtain ⟨v, s₂, -, defined⟩ := bind_ok step
    cases defined
    rfl

theorem run_leaves_none {instrs : List Instr} {index own' : Nat} {v : Value}
    (balanced : imbalance? index own instrs = none)
    (ran : run r engine i seq own last instrs s = (some (.ok (.ok v, own')), s₁)) : own' = 0 := by
  induction instrs generalizing index own last s with
  | nil =>
    cases ran
    unfold imbalance? at balanced
    split at balanced
    · assumption
    · cases balanced
  | cons instr rest ih =>
    rcases step : execute r engine i seq own last instr s with ⟨_ | ⟨own₂, last₂⟩ | f | t, s₂⟩
    · rw [run_of_none step] at ran
      cases ran
    · rw [run_of_ok step] at ran
      rw [imbalance_of_execute step] at balanced
      exact ih balanced ran
    · rw [run_of_failed step] at ran
      cases ran
    · rw [run_of_panicked step] at ran
      cases ran

theorem StopsHere.not_underflow {instrs : List Instr} {cause : Cause}
    (stops : StopsHere r engine i seq own last instrs s cause) {index : Nat}
    (balanced : imbalance? index own instrs = none) : cause ≠ .frameUnderflow := by
  induction stops generalizing index with
  | later step stops ih =>
    rw [imbalance_of_execute step] at balanced
    exact ih balanced
  | now plain step same =>
    obtain ⟨cause', rfl, reason⟩ := execute_plain_failed plain step
    rw [← same, Failure.attach_cause]
    rcases reason with ⟨_, -, rfl⟩ | ⟨_, -, -, rfl⟩ | ⟨rfl, rfl, -⟩
    · nofun
    · nofun
    · cases balanced

end Interpreter

/-! ## Checked code keeps to its own frames -/

theorem Handle.FailsHere.not_underflow {h : Handle} {i : Invocation} {seq : Sequence} {s : State}
    {cause : Cause} (fails : h.FailsHere i seq s cause) (balanced : seq.lowered.Balanced) :
    cause ≠ .frameUnderflow := by
  cases fails with
  | gone gone => nofun
  | stopped stops => exact stops.not_underflow balanced.imbalance

/-- Wherever the sequence is run to its end, it has popped all the frames it has pushed. -/
def Sequence.LeavesNone (seq : Sequence) : Prop :=
  ∀ (r : Reach) engine i s v own s',
    Interpreter.run r engine i seq 0 .nil seq.instrs s = (some (.ok (.ok v, own)), s') → own = 0

theorem Lowered.Balanced.leavesNone {seq : Sequence} (h : seq.lowered.Balanced) :
    seq.LeavesNone :=
  fun _ _ _ _ _ _ _ ran => Interpreter.run_leaves_none h.imbalance ran

/-- The failures of an invocation are no underflows, and what it runs leaves no frame behind if it
comes to its end. -/
structure Body.KeepsFrames (r : Reach) (b : Body) (c : Call) (block : Block) (s : State) : Prop where
  fails : ∀ f s', b.invoke r c block s = (some (.failed f), s') → f.cause ≠ .frameUnderflow
  leaves : ∀ seq s₁, b.sequence r (b.announced c s) = (some (.ok seq), s₁) → seq.LeavesNone

def Visit.KeepsFrames (v : Visit) : Prop :=
  v.body.KeepsFrames v.reach (Interpreter.definitionCall v.body) .absent v.opened

section

variable {code : Scope → Nat → Store → Lowered} {depth : Nat} {s : State}

theorem Body.sequence_balanced (installs : s.store.Installs Lowered.Balanced) {b : Body} {c : Call}
    {seq : Sequence} {s₁ : State}
    (ready : b.sequence ((Env.interpreting (preparing code)).reach depth) (b.announced c s) =
      (some (.ok seq), s₁)) : seq.lowered.Balanced := by
  obtain ⟨carried, installed⟩ :=
    Invariant.readied ((balancedCode code).reach depth) installs trivial ready
  exact carried.holds b.id seq installed

theorem Body.FailsHere.not_underflow (installs : s.store.Installs Lowered.Balanced) {b : Body}
    {c : Call} {block : Block} {cause : Cause}
    (fails : b.FailsHere ((Env.interpreting (preparing code)).reach depth) c block s cause) :
    cause ≠ .frameUnderflow := by
  cases fails with
  | unready => nofun
  | refused => nofun
  | inside ready room kind fails => exact fails.not_underflow (sequence_balanced installs ready)

theorem Visit.not_underflow {st : Store} {v : Visit} (met : (balancedCode code).Met st v)
    {cause : Cause} (fails : v.FailsHere cause) : cause ≠ .frameUnderflow := by
  obtain ⟨depth, reach⟩ := met.reach
  unfold FailsHere at fails
  rw [reach] at fails
  exact fails.not_underflow met.opened.1.holds

theorem Body.invoke_keepsFrames (installs : s.store.Installs Lowered.Balanced) (b : Body) (c : Call)
    (block : Block) :
    b.KeepsFrames ((Env.interpreting (preparing code)).reach depth) c block s where
  fails f s' failed := by
    obtain ⟨cause, origin, fails, rfl⟩ := (b.invoke_failed_iff _ depth c block s f).mp ⟨s', failed⟩
    rcases fails.placed (Env.faults_placed _ depth) with here | ⟨v, among, fails⟩
    · exact here.not_underflow installs
    · have met := Invariant.invoke_met ((balancedCode code).metWithin depth) installs trivial trivial
        c block v among
      exact v.not_underflow met fails
  leaves _ _ ready := (sequence_balanced installs ready).leavesNone

theorem Visit.keepsFrames {st : Store} {v : Visit} (met : (balancedCode code).Met st v) :
    v.KeepsFrames := by
  obtain ⟨depth, reach⟩ := met.reach
  unfold KeepsFrames
  rw [reach]
  exact v.body.invoke_keepsFrames met.opened.1.holds _ _

theorem Env.interpretAt_not_underflow (installs : s.store.Installs Lowered.Balanced) {h : Handle}
    {i : Invocation} {seq : Sequence} (balanced : seq.lowered.Balanced) {f : Failure} {s' : State}
    (failed : (interpreting (preparing code)).interpretAt depth h i seq s =
      (some (.failed f), s')) : f.cause ≠ .frameUnderflow := by
  obtain ⟨cause, origin, fault, rfl⟩ := (faults_explain depth h i seq s f).mp ⟨s', failed⟩
  rcases faults_placed _ depth fault with here | ⟨v, among, fails⟩
  · exact here.not_underflow balanced
  · exact v.not_underflow ((balancedCode code).metWithin depth h i seq s installs trivial
      (fun _ _ => trivial) v among) fails

end

/-! ## Where only frames can stop a run -/

/-- The instruction neither runs a body nor raises. -/
def Instr.isPlain : Instr → Bool
  | define _ | raise _ => false
  | line _ | put _ | putSelf | pushFrame | popFrame => true

def Plain (instrs : List Instr) : Prop := ∀ instr ∈ instrs, instr.isPlain = true

namespace Interpreter

variable {r : Reach} {engine : Nat} {i : Invocation} {seq : Sequence} {s : State}

/-- How plain instructions end, and with how many frames left, by what is found in their list. -/
def Verdict : Option FrameFault → Outcome Value → Nat → Prop
  | none, o, own => (∃ v, o = .ok v) ∧ own = 0
  | some (.neverPopped n), o, own => (∃ v, o = .ok v) ∧ own = n ∧ 0 < n
  | some (.unmatchedPop _), o, _ => ∃ f, o = .failed f ∧ f.cause = .frameUnderflow
  | some (.unexpected _ _), _, _ => False

theorem run_verdict {instrs : List Instr} (plain : Plain instrs)
    (free : s.context.settings.maxDepth = none) {pushed base : List Frame}
    (frames : s.context.frames = pushed ++ base) (index : Nat) (last : Value) :
    ∃ o own s', run r engine i seq pushed.length last instrs s = (some (.ok (o, own)), s') ∧
      Verdict (imbalance? index pushed.length instrs) o own := by
  -- on the instructions: both counts are the number of frames in `pushed`
  induction instrs generalizing s pushed index last with
  | nil =>
    refine ⟨.ok last, pushed.length, s, rfl, ?_⟩
    unfold imbalance?
    split
    next none_left => exact ⟨⟨last, rfl⟩, none_left⟩
    next some_left => exact ⟨⟨last, rfl⟩, rfl, Nat.pos_of_ne_zero some_left⟩
  | cons instr rest ih =>
    have rest_plain : Plain rest := fun other among => plain other (List.mem_cons_of_mem instr among)
    have here := plain instr List.mem_cons_self
    cases instr with
    | define scope => cases here
    | raise message => cases here
    | line n =>
      exact ih (s := { s with context := { s.context with line := n } }) rest_plain free frames
        (index + 1) last
    | put v => exact ih rest_plain free frames (index + 1) v
    | putSelf => exact ih rest_plain free frames (index + 1) i.call.receiver
    | pushFrame =>
      have room : s.context.exceeded? = none := by
        rw [Context.exceeded?, free]
        rfl
      have step : execute r engine i seq pushed.length last .pushFrame s = _ :=
        bind_of_ok (pushFrame_run room)
      rw [run_of_ok step]
      let s₁ := s.move .framePushed s.context.backtrace (ownFrame i :: s.context.frames)
      have frames₁ : s₁.context.frames = (ownFrame i :: pushed) ++ base :=
        congrArg (ownFrame i :: ·) frames
      exact ih (s := s₁) rest_plain free frames₁ (index + 1) last
    | popFrame =>
      cases pushed with
      | nil => exact ⟨_, _, s, run_of_failed execute_underflow rest, _, rfl, Failure.attach_cause _ _⟩
      | cons f pushed =>
        have step : execute r engine i seq (f :: pushed).length last .popFrame s = _ :=
          bind_of_ok (popFrame_run frames)
        rw [run_of_ok step]
        exact ih (s := s.move .framePopped s.context.backtrace (pushed ++ base)) rest_plain free rfl
          (index + 1) last

theorem Verdict.exact {fault : Option FrameFault} {o : Outcome Value} {own : Nat}
    (h : Verdict fault o own) :
    ((∃ f, o = .failed f ∧ f.cause = .frameUnderflow) ↔
      ∃ index, fault = some (.unmatchedPop index)) ∧
    (∀ n, 0 < n → ((∃ v, o = .ok v) ∧ own = n ↔ fault = some (.neverPopped n))) ∧
    ((∃ v, o = .ok v) ∧ own = 0 ↔ fault = none) := by
  rcases fault with _ | ⟨instr, index⟩ | index | count
  · obtain ⟨⟨v, rfl⟩, rfl⟩ := h
    refine ⟨by simp, fun n pos => ?_, by simp⟩
    simp [Nat.ne_of_lt pos]
  · exact h.elim
  · obtain ⟨f, rfl, underflow⟩ := h
    simp [underflow]
  · obtain ⟨⟨v, rfl⟩, rfl, pos⟩ := h
    refine ⟨by simp, fun n _ => by simp, ?_⟩
    simp [Nat.ne_of_gt pos]

def Underflows (r : Reach) (engine : Nat) (i : Invocation) (seq : Sequence) (s : State) : Prop :=
  ∃ f s', interpret r engine i seq s = (some (.failed f), s') ∧ f.cause = .frameUnderflow

/-- The instructions come to their end with `n` frames left on the stack, and the interpretation
releases these and completes. -/
def Releases (r : Reach) (engine : Nat) (i : Invocation) (seq : Sequence) (s : State) (n : Nat) :
    Prop :=
  ∃ v s₁ s', run r engine i seq 0 .nil seq.instrs s = (some (.ok (.ok v, n)), s₁) ∧
    s₁.context.frames.length = n + s.context.frames.length ∧
    interpret r engine i seq s = (some (.ok v), s') ∧ s'.context.frames = s.context.frames

section

variable (hr : r.Keeps Balance) {o : Outcome Value} {own : Nat} {s₁ : State}
  (ran : run r engine i seq 0 .nil seq.instrs s = (some (.ok (o, own)), s₁))

include hr ran

theorem underflows_iff :
    Underflows r engine i seq s ↔ ∃ f, o = .failed f ∧ f.cause = .frameUnderflow := by
  obtain ⟨s', ended, -⟩ := interpret_of_run hr ran
  constructor
  · rintro ⟨f, s₂, failed, cause⟩
    rw [ended] at failed
    cases failed
    exact ⟨f, rfl, cause⟩
  · rintro ⟨f, rfl, cause⟩
    exact ⟨f, s', ended, cause⟩

theorem releases_iff (n : Nat) :
    Releases r engine i seq s n ↔ (∃ v, o = .ok v) ∧ own = n := by
  obtain ⟨s', ended, balance, -⟩ := interpret_of_run hr ran
  constructor
  · rintro ⟨v, s₂, s₃, ran', -⟩
    rw [ran] at ran'
    cases ran'
    exact ⟨⟨v, rfl⟩, rfl⟩
  · rintro ⟨⟨v, rfl⟩, rfl⟩
    have confined := @run_confined r _ s hr engine i seq .nil seq.instrs [] rfl
    rw [List.length_nil, ran] at confined
    obtain ⟨pushed, frames, count⟩ := confined.frames
    refine ⟨v, s₁, s', ran, ?_, ended, balance.frames rfl⟩
    rw [frames, List.length_append, count]

end

end Interpreter

/-- Once all code is checked where it comes from, no run of it from any context ends in an underflow,
neither that of a body or of a sequence nor any invocation nested in it, and what comes to its end
has left no frame. Plain instructions without a frame limit end in an underflow, with some number of
frames to be released, or with none, just as the check of their list tells. -/
theorem frame_checks_agree (code : Scope → Nat → Store → Lowered) (depth : Nat) {s : State}
    (installs : s.store.Installs Lowered.Balanced) :
    let system := Env.interpreting (preparing code)
    (∀ (b : Body) (c : Call) (block : Block),
      b.KeepsFrames (system.reach depth) c block s ∧
      (∀ v ∈ b.visits (system.reach depth) (Env.visitsAt (preparing code) depth) c block s,
        v.KeepsFrames) ∧
      (b.invoke (system.reach depth) c block s).2.store.Installs Lowered.Balanced) ∧
    (∀ (h : Handle) (i : Invocation) (seq : Sequence), seq.lowered.Balanced →
      (∀ f s', system.interpretAt depth h i seq s = (some (.failed f), s') →
        f.cause ≠ .frameUnderflow) ∧ seq.LeavesNone ∧
      (∀ v ∈ Env.visitsAt (preparing code) depth h i seq s, v.KeepsFrames) ∧
      (system.interpretAt depth h i seq s).2.store.Installs Lowered.Balanced) ∧
    ∀ (source : Scope → Nat → Store → Lowering) (engine : Nat) (i : Invocation) (seq : Sequence)
      (s : State), Plain seq.instrs → seq.explicit = true → s.context.settings.maxDepth = none →
      let r := (Env.interpreting source).reach depth
      let fault := seq.lowered.frameFault?
      (Interpreter.Underflows r engine i seq s ↔ ∃ index, fault = some (.unmatchedPop index)) ∧
      (∀ n, 0 < n →
        (Interpreter.Releases r engine i seq s n ↔ fault = some (.neverPopped n))) ∧
      (Interpreter.Releases r engine i seq s 0 ↔ fault = none) := by
  have upheld := (balancedCode code).reach depth
  have within := (balancedCode code).metWithin depth
  refine ⟨fun b c block => ?_, fun h i seq balanced => ?_, ?_⟩
  · have carried := Invariant.invoke upheld installs (b := b) trivial trivial c block
    refine ⟨b.invoke_keepsFrames installs c block, fun v among => ?_, carried.holds⟩
    exact v.keepsFrames (Invariant.invoke_met within installs trivial trivial c block v among)
  · have carried := upheld.interpret h i seq trivial (fun _ _ => trivial) s installs nofun
    refine ⟨fun f s' failed => Env.interpretAt_not_underflow installs balanced failed,
      balanced.leavesNone, fun v among => ?_, carried.holds⟩
    exact v.keepsFrames (within h i seq s installs trivial (fun _ _ => trivial) v among)
  · intro source engine i seq s plain explicit free r fault
    have keeps := Balance.reach source depth
    obtain ⟨o, own, s₁, ran, verdict⟩ := @Interpreter.run_verdict r engine i seq s seq.instrs plain
      free [] s.context.frames rfl 0 .nil
    have same : fault = imbalance? 0 0 seq.instrs := if_pos explicit
    obtain ⟨underflow, left, none_left⟩ := verdict.exact
    rw [same]
    refine ⟨(Interpreter.underflows_iff keeps ran).trans underflow, fun n pos => ?_, ?_⟩
    · exact (Interpreter.releases_iff keeps ran n).trans (left n pos)
    · exact (Interpreter.releases_iff keeps ran 0).trans none_left

/-- The code of a class body and of its metaclass body is fine. Of plain instructions, a push too many
leaves a frame, and a pop too many fails. -/
theorem widget_frame_checks_agree :
    let code : Scope → Nat → Store → Lowered := fun scope _ _ => Program.widgetCode scope
    let m : Module := .top 0 "Widget" .classLike
    let b : Body := ⟨0, Program.widgetClass, m, ⟨0, true⟩⟩
    let c : Call := ⟨none, .object m, m, "Widget"⟩
    let s : State := ⟨⟨{}, 1, [], []⟩, { nextModule := 1, nextBody := 1 }, []⟩
    let r := (Env.interpreting (preparing code)).reach 2
    let i := Body.invocation "Widget" c .absent
    b.KeepsFrames r c .absent s ∧
      Interpreter.Releases r 0 i ⟨0, "", 1, true, [.pushFrame, .putSelf, .pushFrame, .popFrame],
        ⟨0, true⟩⟩ s 1 ∧
      Interpreter.Underflows r 0 i ⟨0, "", 1, true, [.pushFrame, .popFrame, .popFrame],
        ⟨0, true⟩⟩ s := by
  intro code m b c s r i
  have installs : s.store.Installs Lowered.Balanced := nofun
  obtain ⟨bodies, -, lists⟩ := frame_checks_agree code 2 installs
  refine ⟨(bodies b c .absent).1, ?_, ?_⟩
  · obtain ⟨-, releases, -⟩ := lists (preparing code) 0 i ⟨0, "", 1, true,
      [.pushFrame, .putSelf, .pushFrame, .popFrame], ⟨0, true⟩⟩ s (by unfold Plain; decide) rfl rfl
    exact (releases 1 Nat.one_pos).mpr (by decide)
  · obtain ⟨underflows, -⟩ := lists (preparing code) 0 i ⟨0, "", 1, true,
      [.pushFrame, .popFrame, .popFrame], ⟨0, true⟩⟩ s (by unfold Plain; decide) rfl rfl
    exact underflows.mpr ⟨2, by decide⟩

end BodyCall
