import BodyCall.Event
import BodyCall.Outcome
import BodyCall.Store

/-!
# Computations

A computation runs on a state and ends in an outcome, or runs out of the depth of calls it was
given and has no end. Failures and panics stop a computation; what they leave of the state is kept.
A computation without an end leaves the state in which it was cut off.
-/

namespace BodyCall

structure State where
  context : Context
  store : Store
  /-- What has happened, newest first. -/
  trace : List Event := []

def Eval (α : Type) : Type := State → Option (Outcome α) × State

namespace Eval

variable {α β : Type}

def ofOutcome (o : Outcome α) : Eval α := fun s => (some o, s)

/-- The computation for which the depth of calls was not enough. -/
def exhausted : Eval α := fun s => (none, s)

def andThen (x : Eval α) (k : α → Eval β) : Eval β := fun s =>
  match x s with
  | (none, s') => (none, s')
  | (some (.ok a), s') => k a s'
  | (some (.failed f), s') => (some (.failed f), s')
  | (some (.panicked t), s') => (some (.panicked t), s')

instance : Monad Eval where
  pure a := ofOutcome (.ok a)
  bind := andThen

def fail (f : Failure) : Eval α := ofOutcome (.failed f)

def panic (message : String) : Eval α := ofOutcome (.panicked message)

/-- Runs a computation and hands over its outcome, whatever it is. -/
def attempt (x : Eval α) : Eval (Outcome α) := fun s =>
  match x s with
  | (o, s') => (o.map .ok, s')

/-- Runs a cleanup after a computation, whatever the outcome. -/
def ensuring (x : Eval α) (cleanup : Eval Unit) : Eval α := do
  let o ← attempt x
  let c ← attempt cleanup
  ofOutcome (o.afterCleanup c)

def read (g : State → α) : Eval α := fun s => (some (.ok (g s)), s)

def update (g : State → State) : Eval Unit := fun s => (some (.ok ()), g s)

def context : Eval Context := read (·.context)

def store : Eval Store := read (·.store)

def registry : Eval Registry := read (·.store.registry)

def point : Eval Point := read (·.context.point)

def emit (e : Event) : Eval Unit := update fun s => { s with trace := e :: s.trace }

def log (r : LogRecord) : Eval Unit := emit (.logged r)

def logAll : List LogRecord → Eval Unit
  | [] => pure ()
  | r :: rest => do
    log r
    logAll rest

def updateContext (g : Context → Context) : Eval Unit :=
  update fun s => { s with context := g s.context }

def updateStore (g : Store → Store) : Eval Unit :=
  update fun s => { s with store := g s.store }

def updateRegistry (g : Registry → Registry) : Eval Unit :=
  updateStore fun s => { s with registry := g s.registry }

def freshModule : Eval Nat := fun s =>
  (some (.ok s.store.nextModule), { s with store.nextModule := s.store.nextModule + 1 })

def freshScope : Eval Nat := fun s =>
  (some (.ok s.store.nextScope), { s with store.nextScope := s.store.nextScope + 1 })

def freshBody : Eval Nat := fun s =>
  (some (.ok s.store.nextBody), { s with store.nextBody := s.store.nextBody + 1 })

def freshSequence : Eval Nat := fun s =>
  (some (.ok s.store.nextSequence), { s with store.nextSequence := s.store.nextSequence + 1 })

def freshEngine : Eval Nat := fun s =>
  (some (.ok s.store.nextEngine), { s with store.nextEngine := s.store.nextEngine + 1 })

/-- Keeps an engine alive while a computation runs. -/
def holding (engine : Nat) (x : Eval α) : Eval α :=
  ensuring
    (do updateStore fun s => { s with running := engine :: s.running }
        x)
    (updateStore fun s => { s with running := s.running.erase engine })

/-- What the registry has for a name. A name without a meaning breaks the session. -/
def resolve (g : Registry → Except String α) : Eval α := do
  match g (← registry) with
  | .ok a => pure a
  | .error name => panic ("nothing is named " ++ Text.quote name)

/-- Emits an event after the modules in it have names. -/
def tell (e : Event) : Eval Unit := do
  updateRegistry fun g => e.modules.foldl Registry.noteModule g
  emit e

end Eval

end BodyCall
