import BodyCall.Engine

/-!
# Plain evaluation

A program all of whose bodies are there from the start, and what running one of them comes to. The
evaluation goes through the instructions from left to right, into each definition where it stands.
It has no guards, no frames and no caches: it keeps a count of frames, the current line, and the
modules of the scopes that it has come to.
-/

namespace BodyCall

/-- Scopes with their code. A scope may be defined in many places, but not inside itself. -/
structure Program where
  has : Scope → Prop
  code : Scope → Lowered
  /-- A bound on the definitions that are nested inside a scope. -/
  height : Scope → Nat
  closed : ∀ {scope inner : Scope}, has scope → .define inner ∈ (code scope).instrs → has inner
  nested : ∀ {scope inner : Scope},
    .define inner ∈ (code scope).instrs → height inner < height scope
  identified : ∀ {scope scope' : Scope},
    has scope → has scope' → scope.id = scope'.id → scope = scope'

inductive Ending where
  | value (v : Value)
  | failed (c : Cause)
  | panicked (message : String)
  deriving DecidableEq

def Outcome.ending : Outcome Value → Ending
  | ok v => .value v
  | failed f => .failed f.cause
  | panicked t => .panicked t

structure World where
  line : Nat
  modules : Table Nat Module
  nextModule : Nat

/-- The module of a scope, which is made inside `parent` if the scope has none. -/
def World.moduleFor (w : World) (scope : Scope) (parent : Option Module) : Module × World :=
  match w.modules.get? scope.id with
  | some m => (m, w)
  | none =>
    let m := Module.nested parent w.nextModule scope.name scope.kind.moduleKind
    (m, { w with modules := w.modules.set scope.id m, nextModule := w.nextModule + 1 })

/-- The limit on frames, if one more frame would go beyond it. -/
def reachedLimit (limit : Option Nat) (frames : Nat) : Option Nat :=
  limit.filter fun max => max ≤ frames

/-- Follows instructions to the end or to the first that stops, given what the definitions among
them come to. -/
def follow (limit : Option Nat) (receiver : Value) : (instrs : List Instr) →
    (∀ inner, .define inner ∈ instrs → Value → Nat → World → Ending × World) →
    Nat → Value → World → Ending × World
  | [], _, _, last, w => (.value last, w)
  | .line n :: rest, nested, frames, last, w =>
    follow limit receiver rest (fun inner h => nested inner (.tail _ h)) frames last
      { w with line := n }
  | .put v :: rest, nested, frames, _, w =>
    follow limit receiver rest (fun inner h => nested inner (.tail _ h)) frames v w
  | .putSelf :: rest, nested, frames, _, w =>
    follow limit receiver rest (fun inner h => nested inner (.tail _ h)) frames receiver w
  | .pushFrame :: rest, nested, frames, last, w =>
    match reachedLimit limit frames with
    | some max => (.failed (.stackOverflow max), w)
    | none =>
      follow limit receiver rest (fun inner h => nested inner (.tail _ h)) (frames + 1) last w
  | .popFrame :: rest, nested, frames, last, w =>
    follow limit receiver rest (fun inner h => nested inner (.tail _ h)) (frames - 1) last w
  | .define scope :: rest, nested, frames, _, w =>
    let (m, w) := w.moduleFor scope receiver.module?
    match nested scope (.head _) (.object m) frames w with
    | (.value v, w) =>
      follow limit receiver rest (fun inner h => nested inner (.tail _ h)) frames v w
    | stopped => stopped
  | .raise message :: _, _, _, _, w => (.failed (.raised message), w)

theorem follow_congr {limit : Option Nat} {receiver : Value} {instrs instrs' : List Instr}
    (h : instrs = instrs') (nested : Scope → Value → Nat → World → Ending × World) :
    follow limit receiver instrs (fun inner _ => nested inner) =
      follow limit receiver instrs' (fun inner _ => nested inner) := by
  subst h
  rfl

namespace Program

/-- What running the body of a scope comes to: its instructions are checked, a frame is taken unless
they take it, its kind is checked, and the instructions are followed. -/
def evaluate (P : Program) (limit : Option Nat) (scope : Scope) (receiver : Value) (frames : Nat)
    (w : World) : Ending × World :=
  let l := P.code scope
  match l.checked with
  | .error reason => (.failed (.materialization scope.text reason), w)
  | .ok _ =>
    match if l.explicit then none else reachedLimit limit frames with
    | some max => (.failed (.stackOverflow max), w)
    | none =>
      if scope.kind.isBody then
        follow limit receiver l.instrs (fun inner _ => P.evaluate limit inner)
          (if l.explicit then frames else frames + 1) .nil w
      else (.panicked ("invalid body method type: " ++ scope.text), w)
termination_by P.height scope
decreasing_by exact P.nested ‹_›

variable {P : Program} {limit : Option Nat} {scope : Scope} {receiver : Value} {frames : Nat}
  {w : World}

theorem evaluate_refused {reason : String} (h : (P.code scope).checked = .error reason) :
    P.evaluate limit scope receiver frames w =
      (.failed (.materialization scope.text reason), w) := by
  rw [evaluate]
  simp only [h]

theorem evaluate_overflow (h : (P.code scope).checked = .ok (P.code scope))
    (generic : (P.code scope).explicit = false) {max : Nat}
    (full : reachedLimit limit frames = some max) :
    P.evaluate limit scope receiver frames w = (.failed (.stackOverflow max), w) := by
  rw [evaluate]
  simp [h, generic, full]

theorem evaluate_invalid (h : (P.code scope).checked = .ok (P.code scope))
    (room : (P.code scope).explicit = true ∨ reachedLimit limit frames = none)
    (kind : scope.kind.isBody = false) : P.evaluate limit scope receiver frames w =
      (.panicked ("invalid body method type: " ++ scope.text), w) := by
  rw [evaluate]
  rcases room with room | room <;> simp [h, room, kind]

theorem evaluate_body (h : (P.code scope).checked = .ok (P.code scope))
    (room : (P.code scope).explicit = true ∨ reachedLimit limit frames = none)
    (kind : scope.kind.isBody = true) : P.evaluate limit scope receiver frames w =
      follow limit receiver (P.code scope).instrs (fun inner _ => P.evaluate limit inner)
        (if (P.code scope).explicit then frames else frames + 1) .nil w := by
  rw [evaluate]
  rcases room with room | room <;> simp [h, room, kind]

end Program

end BodyCall
