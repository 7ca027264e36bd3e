import BodyCall.Eval
import BodyCall.Nesting

/-!
# The two stacks

Entries and frames are pushed for the time of a computation and popped on every way out of it.
`withBacktrace` also gives a failure its backtrace before the entry goes.
-/

namespace BodyCall

namespace Eval

variable {α : Type}

/-- Records a motion of the stacks as they are now. -/
def moved (m : Motion) : Eval Unit := do
  let c ← context
  emit (.moved m c.backtrace c.frames)

def setLine (n : Nat) : Eval Unit := updateContext fun c => { c with line := n }

def pushEntry (e : Entry) : Eval Unit := do
  updateContext fun c => { c with backtrace := e :: c.backtrace }
  moved .entered

def popEntry : Eval Entry := do
  match (← context).backtrace with
  | [] => panic "CallContext::pop_backtrace() on empty backtrace stack"
  | e :: rest =>
    updateContext fun c => { c with backtrace := rest }
    moved .left
    return e

def attached (f : Failure) : Eval Failure := do
  return f.attach (← context).backtrace

/-- Fails here, with the backtrace of this moment. -/
def failHere (c : Cause) : Eval α := do
  fail (← attached ⟨c, none⟩)

/-- Pushes a frame unless that would go beyond the limit. -/
def pushFrame (f : Frame) : Eval Unit := do
  match (← context).exceeded? with
  | some max =>
    moved .frameRefused
    failHere (.stackOverflow max)
  | none =>
    updateContext fun c => { c with frames := f :: c.frames }
    moved .framePushed

def popFrame : Eval Unit := do
  match (← context).frames with
  | [] => panic "CallContext::post_method_frame() with no frame"
  | _ :: rest =>
    updateContext fun c => { c with frames := rest }
    moved .framePopped

def popFrames : Nat → Eval Unit
  | 0 => pure ()
  | n + 1 => do
    popFrame
    popFrames n

def underEntry (e : Entry) (x : Eval α) : Eval α := do
  pushEntry e
  ensuring x (do let _ ← popEntry)

/-- Gives a failure that leaves a computation the backtrace that it leaves in. -/
def attaching (x : Eval α) : Eval α := do
  match ← attempt x with
  | .failed f => fail (← attached f)
  | o => ofOutcome o

/-- Runs a level of nested bodies under its entry. -/
def withBacktrace (e : Entry) (x : Eval α) : Eval α :=
  underEntry e (attaching (withRoom fun _ => x))

/-- Enters the protocol of one call, and tells whether that has pushed a frame. Instructions that
manage their frames themselves get none. -/
def enterProtocol (explicit : Bool) (f : Frame) : Eval Bool := do
  if explicit then return false
  else
    pushFrame f
    return true

def insideProtocol (pushed : Bool) (x : Eval α) : Eval α :=
  if pushed then ensuring x popFrame else x

def withProtocol (explicit : Bool) (f : Frame) (x : Eval α) : Eval α := do
  insideProtocol (← enterProtocol explicit f) x

/-- Runs a computation on another context, and goes back to this one. -/
def onContext (c : Context) (x : Eval α) : Eval α := do
  let outer ← context
  updateContext fun _ => c
  ensuring x (updateContext fun _ => outer)

end Eval

end BodyCall
