import BodyCall.Sequence
import BodyCall.Signature

/-!
# Methods

The entries of a method table: the bodies of scopes, which take no arguments, and ordinary methods.
-/

namespace BodyCall

/-- The method that runs the body of a scope. Its sequence is made ready on first use. -/
structure Body where
  id : Nat
  scope : Scope
  implementationClass : Module
  handle : Handle
  deriving DecidableEq

def Body.description (b : Body) (materialized : Bool) : String :=
  "BodyMethod \x7b scope: " ++ b.scope.description ++ ", implementation_class: " ++
    b.implementationClass.description ++ ", materialized: " ++
    (if materialized then "true" else "false") ++ ", .. \x7d"

/-- A method that answers with the last of its arguments. -/
structure OrdinaryMethod where
  implementationClass : Module
  visibility : Visibility
  signature : Signature
  parameters : List Parameter
  deriving DecidableEq

inductive Method where
  | body (b : Body)
  | ordinary (m : OrdinaryMethod)
  deriving DecidableEq

namespace Method

def implementationClass : Method → Module
  | body b => b.implementationClass
  | ordinary m => m.implementationClass

def visibility : Method → Visibility
  | body _ => .everyone
  | ordinary m => m.visibility

def signature : Method → Signature
  | body _ => .noArguments
  | ordinary m => m.signature

def parameters : Method → List Parameter
  | body _ => []
  | ordinary m => m.parameters

/-- Bodies are never counted. -/
def callCount : CallCount := .neverProfile

def handle? : Method → Option Handle
  | body b => some b.handle
  | ordinary _ => none

end Method

end BodyCall
