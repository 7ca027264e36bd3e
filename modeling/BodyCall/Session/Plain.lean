import BodyCall.Invoke
import BodyCall.Session.Sources

/-!
# The steps that run no body
-/

namespace BodyCall

namespace Eval

/-- Reads settings that are written down, and logs what could not be understood. -/
def settle (setup : Setup) : Eval Settings := do
  let reading := setup.read
  logAll reading.records
  return reading.settings

end Eval

namespace PlainStep

def makeModule (name : String) (kind : ModuleKind) (shownAs : String) (parent : Option String) :
    Eval Answer := do
  let parent ←
    match parent with
    | none => pure none
    | some parent => some <$> Eval.resolve (·.modules.find parent)
  let m := Module.nested parent (← Eval.freshModule) shownAs kind
  Eval.updateRegistry (·.nameModule name m)
  return .nothing

def makeScope (name : String) (l : ScopeLiteral) : Eval Answer := do
  let source ← Eval.resolve (·.source l.source)
  let scope : Scope := ⟨← Eval.freshScope, l.kind, l.name, l.file, l.line⟩
  Eval.updateRegistry fun g =>
    { g with scopes := g.scopes.set name scope, sources := g.sources.set scope.id source }
  return .nothing

def makeInterpreter (name : String) (observed : Bool) : Eval Answer := do
  let engine ← Eval.freshEngine
  Eval.updateRegistry fun g =>
    { g with
      handles := g.handles.set name ⟨engine, true⟩
      interpreters := if observed then g.interpreters.set name engine else g.interpreters }
  return .nothing

def makeScripted (name : String) (acts : List Script) : Eval Answer := do
  let engine ← Eval.freshEngine
  Eval.updateRegistry fun g =>
    { g with
      handles := g.handles.set name ⟨engine, true⟩
      scripts := g.scripts.set engine acts }
  return .nothing

def makeBody (name scope implementationClass engine : String) : Eval Answer := do
  let scope ← Eval.resolve (·.scopes.find scope)
  let m ← Eval.resolve (·.modules.find implementationClass)
  let handle ← Eval.resolve (·.handles.find engine)
  let b : Body := ⟨← Eval.freshBody, scope, m, handle⟩
  Eval.updateRegistry fun g => { g with methods := g.methods.set name (.body b) }
  return .nothing

def makeOrdinary (name : String) (l : OrdinaryLiteral) : Eval Answer := do
  let m ← Eval.resolve (·.modules.find l.implementationClass)
  let method : OrdinaryMethod := ⟨m, l.visibility, l.signature, l.parameters⟩
  Eval.updateRegistry fun g => { g with methods := g.methods.set name (.ordinary method) }
  return .nothing

def lowerScope (r : Reach) (scope : String) : Eval Answer := do
  let scope ← Eval.resolve (·.scopes.find scope)
  match ← Eval.lower Registry.lowering r.ready scope with
  | .ok l => return .lowered l
  | .error reason => return .refused reason

/-- The number of requests is kept for scripted sources only. -/
def countLowerings (scope : String) : Eval Answer := do
  let scope ← Eval.resolve (·.scopes.find scope)
  let s ← Eval.store
  match s.registry.sources.get? scope.id with
  | some (.scripted _) => return .count (some (s.loweringCount scope))
  | some (.prepared _) | none => return .count none

/-- An interpreter that is gone has no count. -/
def countDefined (engine : String) : Eval Answer := do
  let s ← Eval.store
  match s.registry.interpreters.get? engine with
  | some e => return .count (if s.alive e then some (s.defined e).size else none)
  | none => return .count none

def forget (what : Holding) (name : String) (g : Registry) : Registry :=
  match what with
  | .engine => { g with handles := g.handles.erase name }
  | .method => { g with methods := g.methods.erase name }
  | .sequence => { g with sequences := g.sequences.erase name }

def reflection (name : String) : Eval Answer := do
  let method ← Eval.resolve (·.methods.find name)
  match method with
  | .body b => return .reflected method ((← Eval.store).sequence? b).isSome
  | .ordinary _ => return .reflected method false

def makeReady (r : Reach) (name : String) (setup : Setup) : Eval Answer := do
  let b ← Eval.resolve (·.body name)
  return .ready (← r.ready b (← Eval.settle setup))

def makeSequence (r : Reach) (name scope engine : String) : Eval Answer := do
  let scope ← Eval.resolve (·.scopes.find scope)
  let handle ← Eval.resolve (·.handles.find engine)
  let seq ← Eval.prepare Registry.lowering r.ready scope handle
  Eval.updateRegistry fun g => { g with sequences := g.sequences.set name seq }
  return .sequence seq

def run (r : Reach) : PlainStep → Eval Answer
  | module name kind shownAs parent => makeModule name kind shownAs parent
  | describe m => return .described (← Eval.resolve (·.modules.find m))
  | showValue v => return .shown (← Eval.resolve (·.value v))
  | showInstr i => return .text (← Eval.resolve (·.instr i)).text
  | same a b => return .truth ((← Eval.resolve (·.value a)).same (← Eval.resolve (·.value b)))
  | scope name l => makeScope name l
  | scopeInfo s none => return .scopeInfo (← Eval.resolve (·.scopes.find s)) none
  | scopeInfo s (some other) => do
    let s ← Eval.resolve (·.scopes.find s)
    return .scopeInfo s (some (s.id == (← Eval.resolve (·.scopes.find other)).id))
  | lower s => lowerScope r s
  | lowered s => countLowerings s
  | interpreter name observed => makeInterpreter name observed
  | downgrade engine name => do
    let h ← Eval.resolve (·.handles.find engine)
    Eval.updateRegistry fun g => { g with handles := g.handles.set name h.downgrade }
    return .nothing
  | describeEngine engine => return .text (← Eval.resolve (·.handles.find engine)).description
  | drop what name => do
    Eval.updateRegistry (forget what name)
    return .nothing
  | definedBodies engine => countDefined engine
  | method name s m engine => makeBody name s m engine
  | ordinary name l => makeOrdinary name l
  | reflect name => reflection name
  | ensure name setup => makeReady r name setup
  | sequence name s engine => makeSequence r name s engine
  | setLine n => do
    Eval.setLine n
    return .nothing
  | pushEntry e => do
    Eval.pushEntry e
    return .nothing
  | popEntry => return .entry (← Eval.popEntry)
  | capture => return .captured (← Eval.context).backtrace
  | attach f => return .failed (← Eval.attached f)
  | pushFrame f => do
    Eval.pushFrame (← Eval.resolve (·.frame f))
    return .nothing
  | popFrame => do
    Eval.popFrame
    return .nothing
  | state => return .state (← Eval.context)

end PlainStep

end BodyCall
