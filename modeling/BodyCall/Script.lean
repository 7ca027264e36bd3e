import BodyCall.Call
import BodyCall.Failure
import BodyCall.Instr
import BodyCall.Settings
import BodyCall.Signature

/-!
# Scripts

What a session is told to do. A script speaks of modules, scopes, engines, methods and sequences by
the names that were given to them. The names are looked up when a step runs.
-/

namespace BodyCall

inductive Literal where
  | nil
  | bool (b : Bool)
  | int (n : Int)
  | str (s : String)
  | object (name : String)
  deriving DecidableEq

inductive BlockLiteral where
  | absent
  | given (v : Literal)
  deriving DecidableEq

structure FrameLiteral where
  implementationClass : String
  name : String
  receiver : Literal
  block : BlockLiteral
  deriving DecidableEq

inductive InstrLiteral where
  | line (n : Nat)
  | put (v : Literal)
  | putSelf
  | pushFrame
  | popFrame
  | define (scope : String)
  | raise (message : String)
  deriving DecidableEq

/-- Settings as they are written down: the debug switches are still text. -/
structure Setup where
  debug : Option String := none
  maxDepth : Option Nat := none
  deriving DecidableEq

def Setup.read (s : Setup) : Reading := .ofDebug s.debug s.maxDepth

inductive LoweringEnd where
  | lowered (explicit : Bool) (instrs : List InstrLiteral)
  | refused (reason : String)
  | panicked (message : String)
  deriving DecidableEq

/-- How a scripted source answers one request to lower its scope. -/
structure LoweringScript where
  /-- A body that is made ready first, and the settings for that. -/
  reentry : Option (String × Setup) := none
  result : LoweringEnd
  deriving DecidableEq

inductive SourceLiteral where
  /-- One list of instructions, whose frames are checked. -/
  | prepared (explicit : Bool) (instrs : List InstrLiteral)
  /-- The n-th answer is for the n-th request, and the last is repeated. Nothing is checked. -/
  | scripted (lowerings : List LoweringScript)
  deriving DecidableEq

structure ScopeLiteral where
  kind : ScopeKind
  name : String
  file : String
  line : Nat
  source : SourceLiteral
  deriving DecidableEq

structure CallLiteral where
  method : String
  entry : EntryPoint
  args : List Literal
  block : BlockLiteral
  name : String
  /-- The class of the method if none is given. -/
  via : Option String
  /-- The class that the call goes by if none is given. -/
  receiver : Option Literal
  site : Option Site
  deriving DecidableEq

structure InterpretLiteral where
  seq : String
  /-- The handle of the sequence itself if none is given. -/
  engine : Option String
  via : String
  tokenClass : String
  receiver : Literal
  name : String
  site : Option Site
  block : BlockLiteral
  implicitSelf : Option Literal
  deriving DecidableEq

structure OrdinaryLiteral where
  implementationClass : String
  visibility : Visibility
  signature : Signature
  parameters : List Parameter
  deriving DecidableEq

inductive Holding where
  | engine
  | method
  | sequence
  deriving DecidableEq

inductive PlainStep where
  | module (name : String) (kind : ModuleKind) (shownAs : String) (parent : Option String)
  | describe (module : String)
  | showValue (v : Literal)
  | showInstr (i : InstrLiteral)
  | same (a b : Literal)
  | scope (name : String) (s : ScopeLiteral)
  | scopeInfo (scope : String) (other : Option String)
  | lower (scope : String)
  | lowered (scope : String)
  /-- A new interpreter. How many bodies it has defined can be asked for if it is observed. -/
  | interpreter (name : String) (observed : Bool)
  | downgrade (engine name : String)
  | describeEngine (engine : String)
  | drop (what : Holding) (name : String)
  | definedBodies (engine : String)
  | method (name scope implementationClass engine : String)
  | ordinary (name : String) (m : OrdinaryLiteral)
  | reflect (method : String)
  | ensure (method : String) (setup : Setup)
  | sequence (name scope engine : String)
  | setLine (n : Nat)
  | pushEntry (e : Entry)
  | popEntry
  | capture
  | attach (f : Failure)
  | pushFrame (f : FrameLiteral)
  | popFrame
  | state
  deriving DecidableEq

def PlainStep.word : PlainStep → String
  | module .. => "module"
  | describe _ => "describe"
  | showValue _ => "show"
  | showInstr _ => "show_instr"
  | same .. => "eq"
  | scope .. => "scope"
  | scopeInfo .. => "scope_info"
  | lower _ => "lower"
  | lowered _ => "lowered"
  | interpreter .. => "engine"
  | downgrade .. => "downgrade"
  | describeEngine _ => "engine_debug"
  | drop .. => "drop"
  | definedBodies _ => "defined_bodies"
  | method .. => "method"
  | ordinary .. => "ordinary"
  | reflect _ => "reflect"
  | ensure .. => "ensure"
  | sequence .. => "sequence"
  | setLine _ => "set_line"
  | pushEntry _ => "push_backtrace"
  | popEntry => "pop_backtrace"
  | capture => "capture"
  | attach _ => "attach"
  | pushFrame _ => "pre_frame"
  | popFrame => "post_frame"
  | state => "state"

mutual

/-- The steps that end as a body can: with a value, a failure or a panic. -/
inductive Act where
  | ret (v : Literal)
  | fail (f : Failure)
  | panic (message : String)
  | call (c : CallLiteral)
  | interpret (i : InterpretLiteral)
  /-- Runs a script under a backtrace entry that its failures are given. -/
  | withBacktrace (e : Entry) (script : Script)
  /-- Runs a script under a backtrace entry and leaves its failures alone. -/
  | backtraced (e : Entry) (script : Script)
  | protocol (explicit : Bool) (frame : FrameLiteral) (script : Script)
  | withContext (setup : Setup) (script : Script)

inductive Step where
  | act (a : Act)
  | plain (p : PlainStep)
  /-- A new engine that runs the n-th script for the n-th invocation, and repeats the last. -/
  | scriptedEngine (name : String) (acts : List Script)

/-- Steps one after the other, and an act whose end is the end of all. -/
inductive Script where
  | stop
  | result (a : Act)
  | step (s : Step) (rest : Script)

end

def Act.word : Act → String
  | ret _ => "return"
  | fail _ => "fail"
  | panic _ => "panic"
  | call _ => "call"
  | interpret _ => "interpret"
  | withBacktrace .. => "with_backtrace"
  | backtraced .. => "backtraced"
  | protocol .. => "protocol"
  | withContext .. => "with_ctx"

def Step.word : Step → String
  | act a => a.word
  | plain p => p.word
  | scriptedEngine .. => "engine"

end BodyCall
