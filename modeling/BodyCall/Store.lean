import BodyCall.Registry

/-!
# The store

What outlives a call: which bodies are ready, what each engine has defined, how often each scope was
lowered, and what the session holds. The identities of all objects come from here.

An engine is alive while a call on it is in progress or an owning handle to it exists. Handles lie
in the registry, in the bodies that engines have defined, and in the sequences of both.
-/

namespace BodyCall

structure Store where
  nextModule : Nat := 0
  nextScope : Nat := 0
  nextBody : Nat := 0
  nextSequence : Nat := 0
  nextEngine : Nat := 0
  /-- How often each scope was asked for its instructions. -/
  lowerings : Table Nat Nat := {}
  /-- The sequences of the bodies that are ready. -/
  installed : Table Nat Sequence := {}
  /-- The bodies that each engine has defined, by scope. -/
  definitions : Table Nat (Table Nat Body) := {}
  /-- The engines with a call in progress, once for each call. -/
  running : List Nat := []
  registry : Registry := {}

namespace Store

def loweringCount (s : Store) (scope : Scope) : Nat := (s.lowerings.get? scope.id).getD 0

def noteLowering (s : Store) (scope : Scope) : Store :=
  { s with lowerings := s.lowerings.set scope.id (s.loweringCount scope + 1) }

def sequence? (s : Store) (b : Body) : Option Sequence := s.installed.get? b.id

def install (s : Store) (b : Body) (seq : Sequence) : Store :=
  { s with installed := s.installed.set b.id seq }

def defined (s : Store) (engine : Nat) : Table Nat Body := (s.definitions.get? engine).getD .empty

def definition? (s : Store) (engine : Nat) (scope : Scope) : Option Body :=
  (s.defined engine).get? scope.id

def define (s : Store) (engine : Nat) (scope : Scope) (b : Body) : Store :=
  { s with definitions := s.definitions.set engine ((s.defined engine).set scope.id b) }

def handlesOf (s : Store) (b : Body) : List Handle :=
  b.handle :: ((s.sequence? b).map (·.handle)).toList

/-- The handles that can be reached from what engines have defined. -/
def cached (s : Store) : List Handle :=
  s.definitions.values.flatMap fun bodies => bodies.values.flatMap s.handlesOf

/-- The handles that can be reached from what the session holds. -/
def held (s : Store) : List Handle :=
  s.registry.held ++
    s.registry.methods.values.flatMap fun
      | .body b => s.handlesOf b
      | .ordinary _ => []

def alive (s : Store) (engine : Nat) : Bool :=
  s.running.contains engine ||
    (s.held ++ s.cached).any fun h => h.owning && h.engine == engine

end Store

end BodyCall
