import BodyCall.Scope

/-!
# Failures and backtraces
-/

namespace BodyCall

structure Entry where
  label : String
  file : String
  line : Nat
  deriving DecidableEq

def Entry.text (e : Entry) : String :=
  e.file ++ ":" ++ toString e.line ++ ":in `" ++ e.label ++ "'"

/-- The bodies that were running, innermost first. -/
abbrev Backtrace := List Entry

def Backtrace.text (b : Backtrace) : String := "\n".intercalate (b.map Entry.text)

inductive Cause where
  | materialization (scope reason : String)
  | raised (message : String)
  | stackOverflow (depth : Nat)
  | frameUnderflow
  | engineDropped
  deriving DecidableEq

def Cause.message : Cause → String
  | materialization scope reason => "cannot prepare " ++ scope ++ ": " ++ reason
  | raised message => message
  | stackOverflow depth => "stack level too deep (depth " ++ toString depth ++ ")"
  | frameUnderflow => "pop_frame with no frame pushed by this sequence"
  | engineDropped => "engine dropped while its bodies were still running"

structure Failure where
  cause : Cause
  backtrace : Option Backtrace := none
  deriving DecidableEq

/-- Gives a failure its backtrace unless it has one, be it empty, or nothing was running. -/
def Failure.attach (running : Backtrace) (f : Failure) : Failure :=
  if f.backtrace.isSome || running.isEmpty then f else { f with backtrace := some running }

theorem Failure.attach_new (running : Backtrace) (cause : Cause) :
    Failure.attach running ⟨cause, none⟩ =
      ⟨cause, if running.isEmpty then none else some running⟩ := by
  cases running <;> rfl

@[simp] theorem Failure.attach_cause (running : Backtrace) (f : Failure) :
    (f.attach running).cause = f.cause := by
  unfold attach
  split <;> rfl

end BodyCall
