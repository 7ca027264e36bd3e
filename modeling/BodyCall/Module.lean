/-!
# Module objects

Modules, classes and singleton classes. A module object is told apart by its identity; two of them
may share a name.
-/

namespace BodyCall

inductive ModuleKind where
  | plain
  | classLike
  | singleton
  deriving DecidableEq

def ModuleKind.word : ModuleKind → String
  | .plain => "Module"
  | .classLike => "Class"
  | .singleton => "Singleton"

inductive Module where
  | top (id : Nat) (name : String) (kind : ModuleKind)
  /-- A module opened inside the body of another. -/
  | inside (parent : Module) (id : Nat) (name : String) (kind : ModuleKind)
  deriving DecidableEq

namespace Module

def id : Module → Nat
  | top id _ _ => id
  | inside _ id _ _ => id

def name : Module → String
  | top _ name _ => name
  | inside _ _ name _ => name

def kind : Module → ModuleKind
  | top _ _ kind => kind
  | inside _ _ _ kind => kind

def parent? : Module → Option Module
  | top .. => none
  | inside parent .. => some parent

/-- The module `name`, inside `parent` if there is one. -/
def nested (parent : Option Module) (id : Nat) (name : String) (kind : ModuleKind) : Module :=
  match parent with
  | some parent => inside parent id name kind
  | none => top id name kind

/-- Whether two references are to one object. -/
def same (a b : Module) : Bool := a.id == b.id

/-- The names from the outermost module inwards. -/
def qualifiedName : Module → String
  | top _ name _ => name
  | inside parent _ name _ => parent.qualifiedName ++ "::" ++ name

def text (m : Module) : String :=
  match m.kind with
  | .singleton => "#<Class:" ++ m.qualifiedName ++ ">"
  | .plain | .classLike => m.qualifiedName

def description (m : Module) : String :=
  "ModuleRef(" ++ m.kind.word ++ ", " ++ m.qualifiedName ++ ")"

end Module

end BodyCall
