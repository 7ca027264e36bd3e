import BodyCall.Answer
import BodyCall.Call
import BodyCall.Context
import BodyCall.Engine
import BodyCall.Eval
import BodyCall.Event
import BodyCall.Failure
import BodyCall.Instr
import BodyCall.Interpreter
import BodyCall.Invoke
import BodyCall.LogRecord
import BodyCall.Lowered
import BodyCall.Method
import BodyCall.Module
import BodyCall.Nesting
import BodyCall.Outcome
import BodyCall.Proofs.Agreement
import BodyCall.Proofs.Backstage
import BodyCall.Proofs.Balance
import BodyCall.Proofs.Before
import BodyCall.Proofs.Computation
import BodyCall.Proofs.Course
import BodyCall.Proofs.Depth
import BodyCall.Proofs.Evaluation
import BodyCall.Proofs.Interleaved
import BodyCall.Proofs.Keeps
import BodyCall.Proofs.Origins
import BodyCall.Proofs.Panics
import BodyCall.Proofs.Ready
import BodyCall.Proofs.Requests
import BodyCall.Proofs.Sound
import BodyCall.Readiness
import BodyCall.Registry
import BodyCall.Scope
import BodyCall.Script
import BodyCall.Sequence
import BodyCall.Session.Perform
import BodyCall.Session.Plain
import BodyCall.Session.Report
import BodyCall.Session.Sources
import BodyCall.Settings
import BodyCall.Signature
import BodyCall.Stacks
import BodyCall.Store
import BodyCall.Table
import BodyCall.Text.Blank
import BodyCall.Text.Cased
import BodyCall.Text.Decimal
import BodyCall.Text.Fields
import BodyCall.Text.GraphemeExtend
import BodyCall.Text.Lowercase
import BodyCall.Text.Quoted
import BodyCall.Text.Ranges
import BodyCall.Text.SimpleLowercase
import BodyCall.Text.Unprintable
import BodyCall.Value
import BodyCall.Proofs.Lockstep
import BodyCall.Proofs.Receiver
import BodyCall.Proofs.Limits
import BodyCall.Proofs.Overflow
import BodyCall.Proofs.Catalog
import BodyCall.Proofs.Framing
import BodyCall.Proofs.Protocols
import BodyCall.Proofs.Invariants
import BodyCall.Proofs.Sites
import BodyCall.Proofs.FrameChecks
import BodyCall.Proofs.Recursion
import BodyCall.Proofs.Lifetime
import BodyCall.Proofs.Dropped
import BodyCall.Proofs.Owners
import BodyCall.Proofs.Sessions
import BodyCall.Proofs.Replay
import BodyCall.Proofs.DebugOutput
import BodyCall.Proofs.GuardTrees
import BodyCall.Proofs.EngineCalls
import BodyCall.Proofs.FramesPushed
import BodyCall.Proofs.Chronicle
import BodyCall.Proofs.Incidents
import BodyCall.Proofs.Annals
import BodyCall.Proofs.Attempts
import BodyCall.Proofs.Renaming
import BodyCall.Proofs.Guests
import BodyCall.Proofs.Isolation
import BodyCall.Proofs.FrameGrammar
import BodyCall.Proofs.SwitchWords
import BodyCall.Proofs.DepthText
import BodyCall.Proofs.ListingLines
import BodyCall.Proofs.SessionScopes
