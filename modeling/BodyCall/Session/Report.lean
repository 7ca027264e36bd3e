import BodyCall.Session.Perform

/-!
# Sessions and their reports

A session performs its steps one after the other on one context and reports on each: its answer,
where the context stands, and what happened. No step can stop a session.
-/

namespace BodyCall

structure Report where
  /-- There is none for the opening of the session. -/
  answer : Option Answer
  point : Point
  /-- What happened, oldest first. -/
  events : List Event

namespace Session

/-- How deep the calls of a session can go. -/
def maxCalls : Nat := 65536

/-- Performs a computation on a state whose trace is empty, and leaves it empty. -/
def report (x : Eval Answer) (s : State) : Report × State :=
  match Eval.answered x s with
  | (some o, s') =>
    (⟨some (.ofOutcome o), s'.context.point, s'.trace.reverse⟩, { s' with trace := [] })
  | (none, _) => (⟨some (.panicked "calls nested too deep"), s.context.point, []⟩, s)

def performAll : List Step → State → List Report × State
  | [], s => ([], s)
  | step :: rest, s =>
    let (first, s') := report (step.run (Env.session.reach maxCalls)) s
    let (others, s'') := performAll rest s'
    (first :: others, s'')

def openWith (setup : Setup) : Report × State :=
  let reading := setup.read
  let context : Context := ⟨reading.settings, 0, [], []⟩
  (⟨none, context.point, reading.records.map .logged⟩, ⟨context, {}, []⟩)

def perform (setup : Setup) (steps : List Step) : List Report × Registry :=
  let (opening, s) := openWith setup
  let (reports, s') := performAll steps s
  (opening :: reports, s'.store.registry)

end Session

namespace Event

def isReported (g : Registry) (logging : Bool) : Event → Bool
  | logged _ => logging
  | lowering scope _ =>
    match g.sources.get? scope.id with
    | some (.scripted _) => true
    | some (.prepared _) | none => false
  | moved .. | defining .. => false
  | _ => true

def ready? : Event → Option Sequence
  | reentered (.ok seq) => some seq
  | stepped _ (.ready seq) _ => some seq
  | _ => none

end Event

namespace Report

/-- The sequences that a report tells to be ready, in order. -/
def ready (r : Report) : List Sequence :=
  r.events.filterMap Event.ready? ++
    match r.answer with
    | some (.ready seq) => [seq]
    | _ => []

/-- The identities of the sequences that reports tell to be ready, by first mention. -/
def readyOrder (reports : List Report) : List Nat :=
  ((reports.flatMap ready).map (·.id)).eraseDups

/-- The number of a sequence among those that were ready. -/
def number (order : List Nat) (seq : Sequence) : Nat := order.idxOf seq.id

end Report

end BodyCall
