/-!
# Room for nested levels

Bodies may be nested without end, and each level is a call of an engine inside another one. A level
asks for the room that it takes. There is always enough of it, so a level ends as its computation
does, however deep it lies.
-/

namespace BodyCall

/-- Runs one level, which others may be nested in. -/
abbrev withRoom {α : Type} (level : Unit → α) : α := level ()

/-- Counts the levels of a nest, each of which adds itself to those `counted` outside of it. -/
def countBack (counted : Nat) : Nat → Nat
  | 0 => counted
  | levels + 1 => withRoom fun _ => countBack (counted + 1) levels

theorem countBack_eq (counted levels : Nat) : countBack counted levels = counted + levels := by
  induction levels generalizing counted with
  | zero => rfl
  | succ levels ih => exact (ih (counted + 1)).trans (by omega)

end BodyCall
