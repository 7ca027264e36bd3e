import BodyCall.Call
import BodyCall.LogRecord
import BodyCall.Answer

/-!
# Events

What happens while a step runs. Some events are only kept to reason about: each motion of a stack is
recorded with both stacks as they are after it.
-/

namespace BodyCall

inductive Motion where
  | entered
  | left
  | framePushed
  | framePopped
  /-- A frame that would have gone beyond the limit. -/
  | frameRefused
  deriving DecidableEq

inductive Event where
  | logged (r : LogRecord)
  | moved (m : Motion) (backtrace : Backtrace) (frames : List Frame)
  /-- A scope is asked for its instructions for the n-th time. -/
  | lowering (scope : Scope) (n : Nat)
  /-- A source has asked for a body to be ready, and how that ended. -/
  | reentered (result : Except Failure Sequence)
  /-- An engine comes to the definition of a scope. -/
  | defining (engine : Nat) (scope : Scope)
  | called (call : Call) (args : List Value) (block : Block) (point : Point)
  /-- A scripted engine starts its n-th invocation. -/
  | interpreting (n : Nat) (invocation : Invocation) (seq : Sequence) (top : Option Entry)
      (frame : Option Frame) (point : Point)
  | enteredProtocol (pushed : Bool) (point : Point)
  | refusedProtocol
  | backtraced (point : Point)
  | stepped (word : String) (answer : Answer) (point : Point)
  | contextEnded (point : Point)

/-- The modules that an event tells of, in the order of telling. -/
def Event.modules : Event → List Module
  | called call args block _ =>
    call.receiver.modules ++ call.via :: (args.flatMap Value.modules ++ block.modules)
  | interpreting _ i _ _ frame _ =>
    i.call.receiver.modules ++ i.call.via :: i.tokenClass ::
      ((i.implicitSelf.map Value.modules).getD [] ++ i.block.modules ++
        (frame.map Frame.modules).getD [])
  | stepped _ answer _ => answer.modules
  | _ => []

end BodyCall
