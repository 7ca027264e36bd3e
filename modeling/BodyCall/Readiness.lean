import BodyCall.Stacks

/-!
# Readiness

A body has no instructions until it is first needed. Making it ready has three steps: a look at what
is installed, the lowering of its scope, and the installation. Another request can come in between,
from inside the lowering, so the installation looks again: the first sequence to be installed stays,
and every request gets it.
-/

namespace BodyCall

/-- How the work of a source ends. A refusal is an answer, and a source has no other failures. -/
inductive SourceEnd where
  | answered (l : Except String Lowered)
  | panicked (message : String)

def SourceEnd.outcome : SourceEnd → Outcome (Except String Lowered)
  | answered l => .ok l
  | panicked t => .panicked t

/-- What a source does: the bodies it asks for first, each with the settings for that, and how it
ends. All it can do with a body is to have it made ready: a source here invokes none, in a context of
its own or otherwise. -/
structure Lowering where
  reentries : List (Body × Setup) := []
  result : SourceEnd

/-- The answer of a source that has its instructions from the start. -/
def Lowering.prepared (l : Lowered) : Lowering := ⟨[], .answered l.checked⟩

namespace Eval

/-- Asks for a body on behalf of a source. A panic goes through the source. -/
def reenter (ready : Body → Settings → Eval Sequence) (b : Body) (setup : Setup) : Eval Unit := do
  let reading := setup.read
  logAll reading.records
  match ← attempt (ready b reading.settings) with
  | .ok seq => emit (.reentered (.ok seq))
  | .failed f => emit (.reentered (.error f))
  | .panicked t => panic t

def reenterAll (ready : Body → Settings → Eval Sequence) : List (Body × Setup) → Eval Unit
  | [] => pure ()
  | (b, setup) :: rest => do
    reenter ready b setup
    reenterAll ready rest

/-- Asks the source of a scope for its instructions. -/
def lower (source : Scope → Nat → Store → Lowering) (ready : Body → Settings → Eval Sequence)
    (scope : Scope) : Eval (Except String Lowered) := do
  let before ← store
  let n := before.loweringCount scope
  updateStore fun s => s.noteLowering scope
  emit (.lowering scope n)
  let lowering := source scope n before
  reenterAll ready lowering.reentries
  ofOutcome lowering.result.outcome

/-- Lowers a scope and binds the result to an engine. -/
def prepare (source : Scope → Nat → Store → Lowering) (ready : Body → Settings → Eval Sequence)
    (scope : Scope) (handle : Handle) : Eval Sequence := do
  match ← lower source ready scope with
  | .error reason => fail ⟨.materialization scope.text reason, none⟩
  | .ok l => return ⟨← freshSequence, scope.file, scope.line, l.explicit, l.instrs, handle⟩

/-- Installs a sequence, or hands over the one that is installed already. -/
def install (b : Body) (seq : Sequence) (settings : Settings) : Eval Sequence := do
  match (← store).sequence? b with
  | some winner =>
    log (.lostRace b.scope)
    return winner
  | none =>
    updateStore fun s => s.install b seq
    log (.materialized b.scope seq)
    if settings.debug.ir then log (.listed b.scope seq)
    return seq

/-- The sequence of a body, which is made ready if it is not. `depth` bounds the requests that are
made from inside one another. -/
def readyAt (source : Scope → Nat → Store → Lowering) : Nat → Body → Settings → Eval Sequence
  | 0, _, _ => exhausted
  | depth + 1, b, settings => do
    match (← store).sequence? b with
    | some seq => return seq
    | none => install b (← prepare source (readyAt source depth) b.scope b.handle) settings

end Eval

end BodyCall
