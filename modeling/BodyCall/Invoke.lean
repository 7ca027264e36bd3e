import BodyCall.Readiness

/-!
# Running a body

One invocation of a body: it is logged, made ready, given a frame unless its instructions push one,
and handed to its engine under a backtrace entry. The name it was called by goes into the frame; the
engine gets the label of the body in its place. The arguments of a call never reach a body.
-/

namespace BodyCall

/-- What running a body needs from the rest of the system. -/
structure Reach where
  ready : Body → Settings → Eval Sequence
  interpret : Handle → Invocation → Sequence → Eval Value

namespace Body

def shownName (b : Body) (called : String) : String := if called = "" then b.scope.name else called

/-- The frame of a call that pushes it on behalf of the body. -/
def frame (b : Body) (c : Call) (block : Block) : Frame :=
  ⟨b.implementationClass, c.name, c.receiver, block⟩

/-- Hands a body that is ready and framed to its engine. -/
def dispatch (r : Reach) (b : Body) (c : Call) (seq : Sequence) (block : Block) : Eval Value := do
  match b.scope.label? with
  | none => Eval.panic ("invalid body method type: " ++ b.scope.text)
  | some label =>
    let entry : Entry := ⟨label, seq.file, (← Eval.context).line⟩
    let invocation : Invocation := ⟨{ c with name := label }, c.via, none, block⟩
    Eval.withBacktrace entry (r.interpret seq.handle invocation seq)

def announce (b : Body) (c : Call) : Eval Unit := do
  if (← Eval.context).settings.debug.execution then
    Eval.log (.executing b.scope (b.shownName c.name))

def sequence (r : Reach) (b : Body) : Eval Sequence := do
  r.ready b (← Eval.context).settings

def invoke (r : Reach) (b : Body) (c : Call) (block : Block) : Eval Value := do
  announce b c
  let seq ← sequence r b
  Eval.withProtocol seq.explicit (b.frame c block) (b.dispatch r c seq block)

end Body

namespace Method

/-- Calls a method through one of its entry points. An ordinary method answers with its last
argument. -/
def call (r : Reach) (m : Method) (entry : EntryPoint) (c : Call) (args : List Value)
    (block : Block) : Eval Value := do
  match m with
  | body b => b.invoke r c (entry.block block)
  | ordinary _ =>
    Eval.tell (.called c (entry.arguments args) (entry.block block) (← Eval.point))
    return (entry.arguments args).getLast?.getD .nil

end Method

end BodyCall
