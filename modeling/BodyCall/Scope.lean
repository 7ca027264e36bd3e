import BodyCall.Module
import BodyCall.Text.Quoted

/-!
# Scopes

A scope is one lexical unit of code. Only module, class and metaclass bodies can be run as bodies.
-/

namespace BodyCall

inductive ScopeKind where
  | moduleBody
  | classBody
  | metaclassBody
  | method
  | closure
  | scriptBody
  | evalCode
  deriving DecidableEq

namespace ScopeKind

def isBody : ScopeKind → Bool
  | moduleBody | classBody | metaclassBody => true
  | method | closure | scriptBody | evalCode => false

def text : ScopeKind → String
  | moduleBody => "module body"
  | classBody => "class body"
  | metaclassBody => "metaclass body"
  | method => "method"
  | closure => "closure"
  | scriptBody => "script body"
  | evalCode => "eval"

def word : ScopeKind → String
  | moduleBody => "ModuleBody"
  | classBody => "ClassBody"
  | metaclassBody => "MetaclassBody"
  | method => "Method"
  | closure => "Closure"
  | scriptBody => "ScriptBody"
  | evalCode => "Eval"

/-- The kind of module that running such a scope for the first time opens. -/
def moduleKind : ScopeKind → ModuleKind
  | classBody => .classLike
  | metaclassBody => .singleton
  | _ => .plain

end ScopeKind

structure Scope where
  id : Nat
  kind : ScopeKind
  name : String
  file : String
  /-- The line the scope starts on. -/
  line : Nat
  deriving DecidableEq

namespace Scope

def text (s : Scope) : String :=
  s.kind.text ++ " `" ++ s.name ++ "` (" ++ s.file ++ ":" ++ toString s.line ++ ")"

/-- A scope with its parts named. Its identity is left out. -/
def description (s : Scope) : String :=
  "IrScope \x7b id: ScopeId(_), kind: " ++ s.kind.word ++ ", name: " ++ Text.quote s.name ++
    ", file: " ++ Text.quote s.file ++ ", line: " ++ toString s.line ++ ", .. \x7d"

/-- The name a running body goes by, if the scope can be run as a body. -/
def label? (s : Scope) : Option String :=
  match s.kind with
  | .moduleBody | .classBody => some s.name
  | .metaclassBody => some "singleton class"
  | .method | .closure | .scriptBody | .evalCode => none

theorem label?_isSome (s : Scope) : s.label?.isSome = s.kind.isBody := by
  unfold label? ScopeKind.isBody
  cases s.kind <;> rfl

end Scope

end BodyCall
