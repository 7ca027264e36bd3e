import BodyCall.Readiness

/-!
# The sources of a session
-/

namespace BodyCall

/-- The n-th element, or the last if there are not so many. -/
def nthOrLast? {α : Type} (n : Nat) (as : List α) : Option α :=
  match as[n]? with
  | some a => some a
  | none => as.getLast?

/-- The end of a source that came upon a name without a meaning. -/
def SourceEnd.unnamed (name : String) : SourceEnd :=
  .panicked ("nothing is named " ++ Text.quote name)

/-- The end of a lowering, with the names read at that moment. -/
def LoweringEnd.read (g : Registry) : LoweringEnd → SourceEnd
  | .lowered explicit instrs =>
    match g.lowered explicit instrs with
    | .ok l => .answered (.ok l)
    | .error name => .unnamed name
  | .refused reason => .answered (.error reason)
  | .panicked message => .panicked message

def LoweringScript.lowering (g : Registry) (l : LoweringScript) : Lowering :=
  match l.reentry with
  | none => ⟨[], l.result.read g⟩
  | some (name, setup) =>
    match g.body name with
    | .ok b => ⟨[(b, setup)], l.result.read g⟩
    | .error name => ⟨[], .unnamed name⟩

def Source.lowering (g : Registry) (n : Nat) : Source → Lowering
  | .prepared l => .prepared l
  | .scripted lowerings =>
    match nthOrLast? n lowerings with
    | some l => l.lowering g
    | none => ⟨[], .answered (.ok ⟨[], false⟩)⟩

def Registry.lowering (scope : Scope) (n : Nat) (s : Store) : Lowering :=
  match s.registry.sources.get? scope.id with
  | some source => source.lowering s.registry n
  | none => ⟨[], .unnamed scope.name⟩

end BodyCall
