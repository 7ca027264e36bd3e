import BodyCall.Proofs.Agreement
import BodyCall.Proofs.Lockstep

/-!
# All that a body learns of its call is the receiver

The name, the class and the block of a call go into frames, and from there nowhere. The arguments and
the site go nowhere at all. Two calls with one receiver are therefore in lockstep, through whichever
entry points they come.
-/

namespace BodyCall

open Eval

variable {source : Scope → Nat → Store → Lowering} {under : Settings} {depth : Nat}

theorem Body.sequence_lockstep (depth : Nat) (b : Body) :
    Eval.Lockstep (Twin under Eq) Eq (b.sequence ((Env.interpreting source).reach depth))
      (b.sequence ((Env.interpreting source).reach depth)) := by
  intro s t twin
  obtain ⟨act, ready, -⟩ := Backstage.readyAt source depth b under
  rw [sequence_run, sequence_run, twin.settings, twin.kept, ready]
  simp only [StoreAct.run, ← twin.store]
  rcases act s.store with ⟨_ | o, st, told⟩
  · exact .cut _ _
  · exact .ended (.refl o) ⟨twin.toSimilar, twin.kept, rfl⟩

namespace Env

theorem reach_lockstep_of_run
    (run : ∀ (h : Handle) (i i' : Invocation) (seq : Sequence),
      i.call.receiver = i'.call.receiver → Eval.Lockstep (Twin under Eq) Eq
        ((interpreting source).interpretAt depth h i seq)
        ((interpreting source).interpretAt depth h i' seq)) :
    ((interpreting source).reach depth).Lockstep under Eq ((interpreting source).reach depth) := by
  intro b c c' block block' receiver
  refine Body.invoke_lockstep (b.sequence_lockstep depth) fun seq _ same => ?_
  subst same
  exact Twin.acts.withProtocol _ trivial
    (Body.dispatch_lockstep Twin.acts rfl rfl fun label => run _ _ _ _ receiver)

theorem reach_lockstep (source : Scope → Nat → Store → Lowering) (depth : Nat) :
    ((interpreting source).reach depth).Lockstep under Eq ((interpreting source).reach depth) := by
  refine reach_lockstep_of_run ?_
  induction depth with
  | zero => exact fun _ _ _ _ _ => .exhausted
  | succ depth ih =>
    intro h i i' seq receiver
    have inner := reach_lockstep_of_run ih
    exact interpretAt_lockstep (Twin.calls .eq)
      (Interpreter.interpret_lockstep .eq inner receiver rfl rfl)

end Env

/-- Calls of a body from one state end alike if their receivers are equal, whatever their entry
points, arguments, sites, names, classes and blocks are: with the same value, failure with its
backtrace, or panic, on the same line, with the same stacks, and with the same store. -/
theorem Method.call_by_receiver (source : Scope → Nat → Store → Lowering) (depth : Nat) (b : Body)
    (entry entry' : EntryPoint) (c c' : Call) (args args' : List Value) (block block' : Block)
    (s : State) (receiver : c.receiver = c'.receiver) :
    let reach := (Env.interpreting source).reach depth
    let one := (Method.body b).call reach entry c args block s
    let other := (Method.body b).call reach entry' c' args' block' s
    one.1 = other.1 ∧
      (one.1.isSome → one.2.context = other.2.context ∧ one.2.store = other.2.store) := by
  intro reach one other
  have start : Twin s.context.settings Eq s s := ⟨.refl s.context, rfl, rfl⟩
  have met : Met _ _ one other := Env.reach_lockstep source depth b c c'
    (entry.block block) (entry'.block block') receiver s s start
  have balanced : ∀ c block, Keeps Balance (b.invoke reach c block) :=
    fun c block => b.invoke_keeps Balance.guarded (Balance.reach source depth) c block
  have left : Balance s one.1.isSome one.2 := balanced c _ s
  have right : Balance s other.1.isSome other.2 := balanced c' _ s
  generalize one = p at met left ⊢
  generalize other = q at met right ⊢
  cases met with
  | cut s₁ t₁ => exact ⟨rfl, nofun⟩
  | ended like twin =>
    -- of the frames twins only have the number in common, but neither run has left any
    have context := (left.context right twin.settings twin.line).symm
    exact ⟨congrArg some like.eq.symm, fun _ => ⟨context, twin.store⟩⟩

/-- A class body is called by its name, and then with three arguments and a block, through another
class and by no name. -/
theorem Method.widget_call_by_receiver :
    let m : Module := .top 0 "Widget" .classLike
    let widget : Method := .body ⟨0, Program.widgetClass, m, ⟨0, true⟩⟩
    let s : State := ⟨⟨{}, 1, [], []⟩, { nextModule := 1, nextBody := 1 }, []⟩
    let reach := (Env.interpreting Program.widget.source).reach 2
    let c : Call := ⟨none, .object m, m, "Widget"⟩
    let c' : Call := ⟨some ⟨"reopen", 3⟩, .object m, .top 5 "Gadget" .plain, ""⟩
    c.receiver = c'.receiver ∧
      (widget.call reach (.fixed 0) c [] .absent s).1 = some (.ok (.object m)) ∧
      (widget.call reach (.fixedWithBlock 3) c' [.nil, .int 1, .int 2] (.given .nil) s).1 =
        some (.ok (.object m)) := by
  intro m widget s reach c c'
  have ended : (widget.call reach (.fixed 0) c [] .absent s).1 = some (.ok (.object m)) := by
    decide +kernel
  have same := Method.call_by_receiver Program.widget.source 2
    ⟨0, Program.widgetClass, m, ⟨0, true⟩⟩ (.fixed 0) (.fixedWithBlock 3) c c' []
    [.nil, .int 1, .int 2] .absent (.given .nil) s rfl
  exact ⟨rfl, ended, same.1.symm.trans ended⟩

end BodyCall
