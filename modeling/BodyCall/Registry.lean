import BodyCall.Context
import BodyCall.Method
import BodyCall.Script
import BodyCall.Table

/-!
# The names of a session

What a session has made so far and can name. Reading a literal fails with the first name that means
nothing.
-/

namespace BodyCall

inductive Source where
  | prepared (l : Lowered)
  | scripted (lowerings : List LoweringScript)
  deriving DecidableEq

structure Registry where
  modules : Table String Module := {}
  /-- The names that answers show modules under, by identity. -/
  moduleNames : Table Nat String := {}
  /-- How many modules had to be shown that no step has named. -/
  unnamed : Nat := 0
  scopes : Table String Scope := {}
  sources : Table Nat Source := {}
  handles : Table String Handle := {}
  /-- The observed interpreters. A name stays when the handle is dropped. -/
  interpreters : Table String Nat := {}
  /-- The scripts of the scripted engines, by identity of the engine. -/
  scripts : Table Nat (List Script) := {}
  /-- How many invocations each scripted engine has served. -/
  served : Table Nat Nat := {}
  methods : Table String Method := {}
  sequences : Table String Sequence := {}

/-- The entry under a name, or the name. -/
def Table.find {α : Type} (t : Table String α) (name : String) : Except String α :=
  match t.get? name with
  | some a => .ok a
  | none => .error name

theorem Table.find_ok {α : Type} {t : Table String α} {name : String} {a : α}
    (found : t.find name = .ok a) : t.get? name = some a := by
  unfold find at found
  split at found
  next a' there =>
    cases found
    exact there
  next => cases found

namespace Registry

def nameModule (g : Registry) (name : String) (m : Module) : Registry :=
  { g with modules := g.modules.set name m, moduleNames := g.moduleNames.set m.id name }

/-- Makes sure that a module has a name: `#0`, `#1`, … for those that no step has made. -/
def noteModule (g : Registry) (m : Module) : Registry :=
  match g.moduleNames.get? m.id with
  | some _ => g
  | none => { g.nameModule ("#" ++ toString g.unnamed) m with unnamed := g.unnamed + 1 }

def moduleName (g : Registry) (m : Module) : String := (g.moduleNames.get? m.id).getD ""

def value (g : Registry) : Literal → Except String Value
  | .nil => .ok .nil
  | .bool b => .ok (.bool b)
  | .int n => .ok (.int n)
  | .str s => .ok (.str s)
  | .object name => (g.modules.find name).map .object

def block (g : Registry) : BlockLiteral → Except String Block
  | .absent => .ok .absent
  | .given v => (g.value v).map .given

def frame (g : Registry) (f : FrameLiteral) : Except String Frame := do
  return ⟨← g.modules.find f.implementationClass, f.name, ← g.value f.receiver, ← g.block f.block⟩

def instr (g : Registry) : InstrLiteral → Except String Instr
  | .line n => .ok (.line n)
  | .put v => (g.value v).map .put
  | .putSelf => .ok .putSelf
  | .pushFrame => .ok .pushFrame
  | .popFrame => .ok .popFrame
  | .define scope => (g.scopes.find scope).map .define
  | .raise message => .ok (.raise message)

def lowered (g : Registry) (explicit : Bool) (instrs : List InstrLiteral) :
    Except String Lowered :=
  (instrs.mapM g.instr).map (⟨·, explicit⟩)

def source (g : Registry) : SourceLiteral → Except String Source
  | .prepared explicit instrs => (g.lowered explicit instrs).map .prepared
  | .scripted lowerings => .ok (.scripted lowerings)

def body (g : Registry) (name : String) : Except String Body :=
  match g.methods.get? name with
  | some (.body b) => .ok b
  | some (.ordinary _) | none => .error name

theorem body_registered {g : Registry} {name : String} {b : Body}
    (found : g.body name = .ok b) : g.methods.get? name = some (.body b) := by
  unfold body at found
  split at found
  next b' registered =>
    cases found
    exact registered
  next => cases found
  next => cases found

/-- The handles that the session itself holds. -/
def held (g : Registry) : List Handle :=
  g.handles.values ++ g.methods.values.filterMap Method.handle? ++
    g.sequences.values.map (·.handle)

end Registry

end BodyCall
