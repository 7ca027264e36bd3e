import BodyCall.Failure
import BodyCall.Sequence
import BodyCall.Settings

/-!
# Log records
-/

namespace BodyCall

inductive LogRecord where
  | unknownFlag (word : String)
  | badDepth (raw : String)
  | executing (scope : Scope) (name : String)
  | materialized (scope : Scope) (seq : Sequence)
  | lostRace (scope : Scope)
  | listed (scope : Scope) (seq : Sequence)
  | definedBody (m : Module)
  | bodyFailed (cause : Cause)
  deriving DecidableEq

inductive LogLevel where
  | trace
  | debug
  | info
  | warn
  deriving DecidableEq

def LogLevel.word : LogLevel → String
  | trace => "TRACE"
  | debug => "DEBUG"
  | info => "INFO"
  | warn => "WARN"

inductive LogField where
  | text (s : String)
  | number (n : Nat)
  | flag (b : Bool)
  deriving DecidableEq

namespace LogRecord

def level : LogRecord → LogLevel
  | unknownFlag _ | badDepth _ => .warn
  | executing .. | listed .. => .info
  | materialized .. | definedBody _ | bodyFailed _ => .debug
  | lostRace _ => .trace

/-- The channel that a record is written to. -/
def target : LogRecord → String
  | unknownFlag _ | badDepth _ => "garnet_eval::config"
  | executing .. => "garnet::exec"
  | listed .. => "garnet::ir"
  | materialized .. | lostRace _ => "garnet_eval::body_method::readiness"
  | definedBody _ | bodyFailed _ => "garnet_eval::interpreter"

def message : LogRecord → String
  | unknownFlag _ => "unknown GARNET_DEBUG flag"
  | badDepth _ => "ignoring invalid GARNET_MAX_DEPTH"
  | executing _ name => "executing '" ++ name ++ "'"
  | materialized .. => "materialized body"
  | lostRace _ => "lost materialization race"
  | listed _ seq => "\n" ++ seq.listing
  | definedBody _ => "defined body"
  | bodyFailed _ => "body failed"

def fields : LogRecord → List (String × LogField)
  | unknownFlag word => [("flag", .text word)]
  | badDepth raw => [("value", .text raw)]
  | executing scope _ =>
    [("kind", .text scope.kind.text), ("file", .text scope.file), ("line", .number scope.line)]
  | materialized scope seq =>
    [("scope", .text scope.text), ("instrs", .number seq.instrs.length),
      ("explicit_call_protocol", .flag seq.explicit)]
  | lostRace scope => [("scope", .text scope.text)]
  | listed scope _ => [("scope", .text scope.text)]
  | definedBody m => [("module", .text m.text)]
  | bodyFailed cause => [("error", .text cause.message)]

end LogRecord

/-- What reading settings has to say: the frame limit first, then the switches. -/
def Reading.records (r : Reading) : List LogRecord :=
  r.badDepth.toList.map .badDepth ++ r.unknownWords.map .unknownFlag

end BodyCall
