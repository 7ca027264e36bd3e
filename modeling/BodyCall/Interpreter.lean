import BodyCall.Invoke

/-!
# The interpreter

Runs a sequence instruction by instruction. It counts the frames that the sequence has pushed for
itself, and pops what is left of them on every way out. A definition runs the body of its scope; the
body is made when the definition is first reached, and the same one is run from then on.
-/

namespace BodyCall

namespace Interpreter

/-- The body of a scope in an engine, defined now if it has not been. Its module lies inside
`parent`, and its handle does not keep the engine of the sequence alive. -/
def bodyFor (engine : Nat) (scope : Scope) (parent : Option Module) (handle : Handle) :
    Eval Body := do
  match (← Eval.store).definition? engine scope with
  | some b => return b
  | none =>
    let m := Module.nested parent (← Eval.freshModule) scope.name scope.kind.moduleKind
    Eval.log (.definedBody m)
    let b : Body := ⟨← Eval.freshBody, scope, m, handle.downgrade⟩
    Eval.updateStore fun s => s.define engine scope b
    return b

/-- The call that runs the body of a definition: its module is the receiver. -/
def definitionCall (b : Body) : Call :=
  ⟨none, .object b.implementationClass, b.implementationClass, b.scope.name⟩

def define (r : Reach) (engine : Nat) (i : Invocation) (seq : Sequence) (scope : Scope) :
    Eval Value := do
  Eval.emit (.defining engine scope)
  let b ← bodyFor engine scope i.call.receiver.module? seq.handle
  b.invoke r (definitionCall b) .absent

def ownFrame (i : Invocation) : Frame := ⟨i.tokenClass, i.call.name, i.call.receiver, i.block⟩

/-- Runs one instruction, given how many frames the sequence has pushed and the last value. -/
def execute (r : Reach) (engine : Nat) (i : Invocation) (seq : Sequence) (own : Nat)
    (last : Value) : Instr → Eval (Nat × Value)
  | .line n => do
    Eval.setLine n
    return (own, last)
  | .put v => return (own, v)
  | .putSelf => return (own, i.call.receiver)
  | .pushFrame => do
    Eval.pushFrame (ownFrame i)
    return (own + 1, last)
  | .popFrame =>
    match own with
    | 0 => Eval.failHere .frameUnderflow
    | own + 1 => do
      Eval.popFrame
      return (own, last)
  | .define scope => return (own, ← define r engine i seq scope)
  | .raise message => Eval.failHere (.raised message)

/-- Runs instructions to the end or to the first that stops, and tells how many frames the sequence
has left. -/
def run (r : Reach) (engine : Nat) (i : Invocation) (seq : Sequence) :
    Nat → Value → List Instr → Eval (Outcome Value × Nat)
  | own, last, [] => return (.ok last, own)
  | own, last, instr :: rest => do
    match ← Eval.attempt (execute r engine i seq own last instr) with
    | .ok (own', last') => run r engine i seq own' last' rest
    | .failed f => return (.failed f, own)
    | .panicked t => return (.panicked t, own)

def report : Outcome Value → Eval Unit
  | .failed f => Eval.log (.bodyFailed f.cause)
  | .ok _ | .panicked _ => pure ()

def interpret (r : Reach) (engine : Nat) (i : Invocation) (seq : Sequence) : Eval Value := do
  let (o, own) ← run r engine i seq 0 .nil seq.instrs
  report o
  Eval.ensuring (Eval.ofOutcome o) (Eval.popFrames own)

end Interpreter

end BodyCall
