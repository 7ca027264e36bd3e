import BodyCall.Failure
import BodyCall.Settings
import BodyCall.Value

/-!
# Call contexts

What one thread of calls carries: its settings, the current line, the bodies that are running and
the method frames. Both stacks have their newest element in front.
-/

namespace BodyCall

structure Frame where
  implementationClass : Module
  name : String
  receiver : Value
  block : Block
  deriving DecidableEq

structure Context where
  settings : Settings
  line : Nat := 0
  backtrace : Backtrace := []
  frames : List Frame := []
  deriving DecidableEq

/-- Line and stack depths, as an observer sees them. -/
structure Point where
  line : Nat
  backtraceDepth : Nat
  frameDepth : Nat
  deriving DecidableEq

def Context.point (c : Context) : Point := ⟨c.line, c.backtrace.length, c.frames.length⟩

/-- Whether one more frame would go beyond the limit, and which limit that is. -/
def Context.exceeded? (c : Context) : Option Nat :=
  c.settings.maxDepth.filter fun max => max ≤ c.frames.length

end BodyCall
