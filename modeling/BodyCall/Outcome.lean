import BodyCall.Failure

/-!
# Outcomes

The ways in which a computation can end. A failure is an answer that callers handle. A panic says
that an invariant was broken; it unwinds through every caller, and cleanups still run.
-/

namespace BodyCall

inductive Outcome (α : Type) where
  | ok (a : α)
  | failed (f : Failure)
  | panicked (message : String)
  deriving DecidableEq

namespace Outcome

variable {α β : Type}

def map (g : α → β) : Outcome α → Outcome β
  | ok a => ok (g a)
  | failed f => failed f
  | panicked t => panicked t

def mapFailure (g : Failure → Failure) : Outcome α → Outcome α
  | ok a => ok a
  | failed f => failed (g f)
  | panicked t => panicked t

/-- The outcome once a cleanup has run. A panic that is already unwinding stays. -/
def afterCleanup (o : Outcome α) : Outcome Unit → Outcome α
  | ok _ => o
  | failed f =>
    match o with
    | panicked t => panicked t
    | _ => failed f
  | panicked t =>
    match o with
    | panicked t' => panicked t'
    | _ => panicked t

@[simp] theorem afterCleanup_ok (o : Outcome α) (u : Unit) : o.afterCleanup (ok u) = o := rfl

end Outcome

end BodyCall
