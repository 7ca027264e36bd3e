import BodyCall.Value

/-!
# Method signatures and entry points

A call site is made for one arity, with or without a block, and enters a method through the entry
point of that shape.
-/

namespace BodyCall

inductive Visibility where
  | everyone
  | protectedOnly
  | privateOnly
  | moduleFunction
  deriving DecidableEq

def Visibility.word : Visibility → String
  | everyone => "Public"
  | protectedOnly => "Protected"
  | privateOnly => "Private"
  | moduleFunction => "ModuleFunction"

/-- How calls are counted to choose methods for recompilation. -/
inductive CallCount where
  | neverProfile
  | counted (n : Nat)
  deriving DecidableEq

namespace CallCount

def isProfiled : CallCount → Bool
  | neverProfile => false
  | counted _ => true

def text : CallCount → String
  | neverProfile => "NeverProfile"
  | counted n => "Counted(" ++ toString n ++ ")"

end CallCount

inductive ParameterKind where
  | required
  | optional
  | rest
  | keyword
  | block
  deriving DecidableEq

def ParameterKind.word : ParameterKind → String
  | required => "Required"
  | optional => "Optional"
  | rest => "Rest"
  | keyword => "Keyword"
  | block => "Block"

structure Parameter where
  kind : ParameterKind
  name : String
  deriving DecidableEq

structure Signature where
  required : Nat
  optional : Nat
  rest : Bool
  deriving DecidableEq

namespace Signature

def noArguments : Signature := ⟨0, 0, false⟩

/-- The number of arguments if it is fixed, and one below minus the required ones otherwise. -/
def arity (s : Signature) : Int :=
  if s.optional > 0 ∨ s.rest then -(s.required + 1 : Int) else s.required

end Signature

inductive EntryPoint where
  /-- Any arguments and a block. -/
  | call
  /-- Any arguments, no block. -/
  | callN
  | fixed (arity : Fin 4)
  | fixedWithBlock (arity : Fin 4)
  deriving DecidableEq

namespace EntryPoint

def arguments (e : EntryPoint) (args : List Value) : List Value :=
  match e with
  | call | callN => args
  | fixed arity | fixedWithBlock arity => args.take arity

def block (e : EntryPoint) (b : Block) : Block :=
  match e with
  | call | fixedWithBlock _ => b
  | callN | fixed _ => .absent

end EntryPoint

end BodyCall
