import BodyCall.Value

/-!
# Calls and invocations

A call names its receiver and says how the method was reached. An invocation is a call on its way
into an engine.
-/

namespace BodyCall

structure Site where
  methodName : String
  index : Nat
  deriving DecidableEq

structure Call where
  site : Option Site := none
  receiver : Value
  /-- The class that the method was found in. -/
  via : Module
  name : String
  deriving DecidableEq

structure Invocation where
  call : Call
  /-- The class that frames pushed by the sequence belong to. Such a call is never compiled. -/
  tokenClass : Module
  implicitSelf : Option Value := none
  block : Block
  deriving DecidableEq

end BodyCall
