import BodyCall.Engine
import BodyCall.Session.Plain

/-!
# Performing scripts
-/

namespace BodyCall

def Answer.ofOutcome : Outcome Answer → Answer
  | .ok a => a
  | .failed f => failed f
  | .panicked message => panicked message

namespace Eval

variable {α : Type}

/-- Runs the computation of a step. Whatever its end, it is an answer, and the modules in it have
names. -/
def answered (x : Eval Answer) : Eval Answer := do
  let answer := Answer.ofOutcome (← attempt x)
  updateRegistry fun g => answer.modules.foldl Registry.noteModule g
  return answer

/-- Keeps the engine of an owning handle alive while a computation runs. -/
def holdingHandle (h : Handle) (x : Eval α) : Eval α :=
  if h.owning then holding h.engine x else x

end Eval

namespace CallLiteral

def run (r : Reach) (c : CallLiteral) : Eval Value := do
  let m ← Eval.resolve (·.methods.find c.method)
  let via ←
    match c.via with
    | none => pure m.implementationClass
    | some name => Eval.resolve (·.modules.find name)
  let receiver ←
    match c.receiver with
    | none => pure (.object via)
    | some v => Eval.resolve (·.value v)
  let args ← Eval.resolve fun g => c.args.mapM g.value
  let block ← Eval.resolve (·.block c.block)
  m.call r c.entry ⟨c.site, receiver, via, c.name⟩ args block

end CallLiteral

namespace InterpretLiteral

def run (r : Reach) (i : InterpretLiteral) : Eval Value := do
  let seq ← Eval.resolve (·.sequences.find i.seq)
  let handle ←
    match i.engine with
    | none => pure seq.handle
    | some name => Eval.resolve (·.handles.find name)
  let via ← Eval.resolve (·.modules.find i.via)
  let tokenClass ← Eval.resolve (·.modules.find i.tokenClass)
  let receiver ← Eval.resolve (·.value i.receiver)
  let implicitSelf ←
    match i.implicitSelf with
    | none => pure none
    | some v => some <$> Eval.resolve (·.value v)
  let block ← Eval.resolve (·.block i.block)
  Eval.holdingHandle seq.handle
    (r.interpret handle ⟨⟨i.site, receiver, via, i.name⟩, tokenClass, implicitSelf, block⟩ seq)

end InterpretLiteral

mutual

def Act.run (r : Reach) : Act → Eval Value
  | .ret v => Eval.resolve (·.value v)
  | .fail f => Eval.fail f
  | .panic message => Eval.panic message
  | .call c => c.run r
  | .interpret i => i.run r
  | .withBacktrace e script => Eval.withBacktrace e (script.run r)
  | .backtraced e script =>
    Eval.underEntry e do
      Eval.emit (.backtraced (← Eval.point))
      script.run r
  | .protocol explicit f script => do
    match ← Eval.attempt (Eval.enterProtocol explicit (← Eval.resolve (·.frame f))) with
    | .ok pushed =>
      Eval.insideProtocol pushed do
        Eval.emit (.enteredProtocol pushed (← Eval.point))
        script.run r
    | .failed f =>
      Eval.emit .refusedProtocol
      Eval.fail f
    | .panicked message => Eval.panic message
  | .withContext setup script => do
    let settings ← Eval.settle setup
    Eval.onContext ⟨settings, 0, [], []⟩
      (Eval.ensuring (script.run r) do Eval.emit (.contextEnded (← Eval.point)))

def Step.run (r : Reach) : Step → Eval Answer
  | .act a => do return .ended (← a.run r)
  | .plain p => p.run r
  | .scriptedEngine name acts => PlainStep.makeScripted name acts

def Script.run (r : Reach) : Script → Eval Value
  | .stop => return .nil
  | .result a => a.run r
  | .step s rest => do
    let answer ← Eval.answered (s.run r)
    Eval.emit (.stepped s.word answer (← Eval.point))
    rest.run r

end

def Script.serve (scripts : List Script) (r : Reach) (engine : Nat) (i : Invocation)
    (seq : Sequence) : Eval Value := do
  let n := ((← Eval.registry).served.get? engine).getD 0
  Eval.updateRegistry fun g => { g with served := g.served.set engine (n + 1) }
  let c ← Eval.context
  Eval.tell (.interpreting n i seq c.backtrace.head? c.frames.head? c.point)
  match nthOrLast? n scripts with
  | some script => script.run r
  | none => return .nil

/-- A system of interpreters and scripted engines. -/
def Env.session : Env where
  source := Registry.lowering
  engine r engine i seq := do
    match (← Eval.registry).scripts.get? engine with
    | some scripts => Script.serve scripts r engine i seq
    | none => Interpreter.interpret r engine i seq

end BodyCall
