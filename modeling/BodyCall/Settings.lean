import BodyCall.Text.Blank
import BodyCall.Text.Decimal
import BodyCall.Text.Fields
import BodyCall.Text.Lowercase

/-!
# Settings

The debug switches and the frame limit of a context, and how they are read from text.
-/

namespace BodyCall

structure DebugSwitches where
  /-- Log each run of a body. -/
  execution : Bool := false
  /-- List the instructions of a body when they are first ready. -/
  ir : Bool := false
  deriving DecidableEq

namespace DebugSwitches

def off : DebugSwitches := {}

def union (a b : DebugSwitches) : DebugSwitches := ⟨a.execution || b.execution, a.ir || b.ir⟩

def bits (s : DebugSwitches) : Nat := s.execution.toNat + 2 * s.ir.toNat

/-- What a word switches on. The empty word is allowed and switches nothing on. -/
def ofWord? (word : String) : Option DebugSwitches :=
  if word = "exec" ∨ word = "execution" then some ⟨true, false⟩
  else if word = "ir" then some ⟨false, true⟩
  else if word = "all" then some ⟨true, true⟩
  else if word = "" then some off
  else none

/-- The words of a comma-separated list, without blanks around them and in lowercase. -/
def words (s : String) : List String :=
  (Text.fields ',' s.toList).map fun part => String.ofList (Text.lowercase (Text.trim part))

/-- The switches that the known words of a list turn on. -/
def parse (s : String) : DebugSwitches :=
  ((words s).filterMap ofWord?).foldl union off

/-- The words of a list that mean nothing, in order. -/
def unknownWords (s : String) : List String :=
  (words s).filter fun word => (ofWord? word).isNone

end DebugSwitches

structure Settings where
  debug : DebugSwitches := {}
  maxDepth : Option Nat := none
  deriving DecidableEq

/-- Settings that were read from text, with what could not be understood. -/
structure Reading where
  settings : Settings
  badDepth : Option String := none
  unknownWords : List String := []
  deriving DecidableEq

/-- Frame limits lie below this bound. -/
def depthBound : Nat := Nat.pow 2 64

def readDepth (raw : String) : Option Nat :=
  Text.readDecimal depthBound (Text.trim raw.toList)

namespace Reading

/-- Reads the two variables. Neither affects how the other is read. -/
def ofVariables (debug maxDepth : Option String) : Reading where
  settings := ⟨(debug.map DebugSwitches.parse).getD .off, maxDepth.bind readDepth⟩
  badDepth := maxDepth.filter fun raw => (readDepth raw).isNone
  unknownWords := (debug.map DebugSwitches.unknownWords).getD []

/-- Reads the debug switches beside a frame limit that is already known. -/
def ofDebug (debug : Option String) (maxDepth : Option Nat) : Reading where
  settings := ⟨(debug.map DebugSwitches.parse).getD .off, maxDepth⟩
  unknownWords := (debug.map DebugSwitches.unknownWords).getD []

end Reading

end BodyCall
