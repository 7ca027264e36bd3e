import BodyCall.Context
import BodyCall.Method

/-!
# Answers

What a step has to say when it has run. Module objects are told by name, so an answer also lists
the modules in it, in the order in which a reader comes upon them.
-/

namespace BodyCall

inductive Answer where
  | nothing
  | ended (v : Value)
  | failed (f : Failure)
  | panicked (message : String)
  | described (m : Module)
  | shown (v : Value)
  | text (s : String)
  | truth (b : Bool)
  /-- A scope, and whether another one is the same. -/
  | scopeInfo (s : Scope) (sameId : Option Bool)
  | lowered (l : Lowered)
  | refused (reason : String)
  | count (n : Option Nat)
  | reflected (m : Method) (materialized : Bool)
  | sequence (seq : Sequence)
  | ready (seq : Sequence)
  | entry (e : Entry)
  | captured (b : Backtrace)
  | state (c : Context)
  deriving DecidableEq

def Value.modules (v : Value) : List Module := v.module?.toList

def Block.modules : Block → List Module
  | .absent => []
  | .given v => v.modules

def Frame.modules (f : Frame) : List Module :=
  f.implementationClass :: (f.receiver.modules ++ f.block.modules)

def Answer.modules : Answer → List Module
  | ended v | shown v => v.modules
  | described m => m.parent?.toList
  | reflected m _ => [m.implementationClass]
  | state c => (c.frames.head?.map Frame.modules).getD []
  | _ => []

end BodyCall
