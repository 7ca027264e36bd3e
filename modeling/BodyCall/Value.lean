import BodyCall.Module
import BodyCall.Text.Quoted

/-!
# Values

What a body can receive and return.
-/

namespace BodyCall

inductive Value where
  | nil
  | bool (b : Bool)
  | int (n : Int)
  | str (s : String)
  | object (m : Module)
  deriving DecidableEq

instance : Inhabited Value := ⟨.nil⟩

namespace Value

/-- Equality as bodies see it: modules by identity, all else by content. -/
def same : Value → Value → Bool
  | nil, nil => true
  | bool a, bool b => a == b
  | int a, int b => a == b
  | str a, str b => a == b
  | object a, object b => a.same b
  | _, _ => false

def text : Value → String
  | nil => "nil"
  | bool true => "true"
  | bool false => "false"
  | int n => toString n
  | str s => Text.quote s
  | object m => m.text

def module? : Value → Option Module
  | object m => some m
  | _ => none

end Value

/-- The block that a call passes on. Nothing on the way looks inside. -/
inductive Block where
  | absent
  | given (v : Value)
  deriving DecidableEq

end BodyCall
