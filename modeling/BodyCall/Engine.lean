import BodyCall.Interpreter

/-!
# Engines

A system is given by its sources and its engines. Running a body and running a sequence call each
other through the engines; the depth of calls bounds how far.
-/

namespace BodyCall

structure Env where
  /-- How the source of a scope answers the n-th request. -/
  source : Scope → Nat → Store → Lowering
  engine : Reach → Nat → Invocation → Sequence → Eval Value

namespace Env

/-- The system in which every engine is an interpreter. -/
def interpreting (source : Scope → Nat → Store → Lowering) : Env := ⟨source, Interpreter.interpret⟩

/-- Runs a sequence on the engine behind a handle. An engine that is gone runs nothing. -/
def interpretAt (env : Env) : Nat → Handle → Invocation → Sequence → Eval Value
  | 0, _, _, _ => Eval.exhausted
  | depth + 1, h, i, seq => do
    if h.owning || (← Eval.store).alive h.engine then
      Eval.holding h.engine
        (env.engine ⟨Eval.readyAt env.source depth, interpretAt env depth⟩ h.engine i seq)
    else Eval.failHere .engineDropped

def reach (env : Env) (depth : Nat) : Reach :=
  ⟨Eval.readyAt env.source depth, env.interpretAt depth⟩

end Env

end BodyCall
