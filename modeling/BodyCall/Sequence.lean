import BodyCall.Lowered

/-!
# Instruction sequences

The executable form of a scope: its instructions, where they came from, and the engine that runs
them. The engine is reached through a handle, and only an owning handle keeps it alive.
-/

namespace BodyCall

structure Handle where
  engine : Nat
  owning : Bool
  deriving DecidableEq

namespace Handle

/-- A handle to the same engine that does not keep it alive. -/
def downgrade (h : Handle) : Handle := { h with owning := false }

@[simp] theorem downgrade_downgrade (h : Handle) : h.downgrade.downgrade = h.downgrade := rfl

/-- A handle with its address left out. -/
def description (h : Handle) : String :=
  if h.owning then "SharedEngine(Pointer \x7b addr: PTR)"
  else "SharedEngine(detached Pointer \x7b addr: PTR)"

end Handle

structure Sequence where
  /-- The identity of the object. -/
  id : Nat
  file : String
  line : Nat
  explicit : Bool
  instrs : List Instr
  handle : Handle
  deriving DecidableEq

/-- A number in a column at least `width` wide. -/
def padLeft (width : Nat) (n : Nat) : String :=
  let digits := toString n
  String.ofList (List.replicate (width - digits.length) ' ') ++ digits

def listingLine (index : Nat) (i : Instr) : String := padLeft 4 index ++ "  " ++ i.text

def listing (instrs : List Instr) : String :=
  "\n".intercalate (instrs.mapIdx listingLine)

def Sequence.listing (s : Sequence) : String := BodyCall.listing s.instrs

end BodyCall
