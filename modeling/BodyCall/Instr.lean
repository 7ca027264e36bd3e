import BodyCall.Scope
import BodyCall.Value

/-!
# Instructions
-/

namespace BodyCall

inductive Instr where
  | line (n : Nat)
  | put (v : Value)
  | putSelf
  /-- Pushes the frame of the running body. -/
  | pushFrame
  | popFrame
  /-- Opens the body of a nested scope and runs it. -/
  | define (scope : Scope)
  | raise (message : String)
  deriving DecidableEq

namespace Instr

def text : Instr → String
  | line n => "line " ++ toString n
  | put v => "put_object " ++ v.text
  | putSelf => "put_self"
  | pushFrame => "push_frame"
  | popFrame => "pop_frame"
  | define scope => "define_body " ++ scope.text
  | raise message => "raise " ++ Text.quote message

def isFrame : Instr → Bool
  | pushFrame | popFrame => true
  | _ => false

end Instr

end BodyCall
