import BodyCall.Instr

/-!
# Lowered bodies and the balance of their frames

A body either leaves its frame to the caller, and then must not touch frames, or pushes and pops
frames itself, and then must do so in balanced pairs. `Lowered.frameFault?` finds the first breach.
-/

namespace BodyCall

structure Lowered where
  instrs : List Instr
  /-- The instructions push and pop the frame of the body themselves. -/
  explicit : Bool
  deriving DecidableEq

inductive FrameFault where
  /-- A frame instruction in a body that leaves its frame to the caller. -/
  | unexpected (instr : Instr) (index : Nat)
  | unmatchedPop (index : Nat)
  | neverPopped (count : Nat)
  deriving DecidableEq

def FrameFault.message : FrameFault → String
  | unexpected instr index =>
    "frame instruction `" ++ instr.text ++ "` at " ++ toString index ++
      " without explicit call protocol"
  | unmatchedPop index => "unmatched `pop_frame` at " ++ toString index
  | neverPopped count => toString count ++ " frame(s) never popped"

/-- The first frame instruction, looking from `index` on. -/
def firstFrame? (index : Nat) : List Instr → Option FrameFault
  | [] => none
  | i :: rest => if i.isFrame then some (.unexpected i index) else firstFrame? (index + 1) rest

/-- The first breach of balance after `depth` pushes that still wait for their pop. -/
def imbalance? (index depth : Nat) : List Instr → Option FrameFault
  | [] => if depth = 0 then none else some (.neverPopped depth)
  | .pushFrame :: rest => imbalance? (index + 1) (depth + 1) rest
  | .popFrame :: rest =>
    match depth with
    | 0 => some (.unmatchedPop index)
    | depth + 1 => imbalance? (index + 1) depth rest
  | _ :: rest => imbalance? (index + 1) depth rest

def Lowered.frameFault? (b : Lowered) : Option FrameFault :=
  if b.explicit then imbalance? 0 0 b.instrs else firstFrame? 0 b.instrs

/-- Instructions that are there from the start are refused if they mishandle frames. -/
def Lowered.checked (b : Lowered) : Except String Lowered :=
  match b.frameFault? with
  | some fault => .error fault.message
  | none => .ok b

theorem Lowered.checked_ok {l l' : Lowered} (h : l.checked = .ok l') : l' = l := by
  unfold checked at h
  split at h <;> cases h
  rfl

end BodyCall
