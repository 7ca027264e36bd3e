import BodyCall.Proofs.Course
import BodyCall.Proofs.Ready

/-!
# Where failures arise

A failure arises while a chain of bodies is being interpreted, each defined by the one before it, or
before the first of them could be run at all. What fails is described here without backtraces: the
parts of a run before it end well, and then one thing goes wrong. The backtrace of a failure is the
chain on top of the stack that the first invocation found, and its cause is what went wrong.
-/

namespace BodyCall

open Eval

/-- A body that is being interpreted, and the line that it was invoked from. -/
structure Running where
  body : Body
  seq : Sequence
  line : Nat

namespace Running

def label (x : Running) : String :=
  if x.body.scope.kind = .metaclassBody then "singleton class" else x.body.scope.name

def entry (x : Running) : Entry := ⟨x.label, x.seq.file, x.line⟩

end Running

inductive Origin where
  /-- The body that was invoked could not be prepared. -/
  | unprepared
  /-- These bodies were being interpreted, outermost first. -/
  | within (chain : List Running)

namespace Origin

def chain : Origin → List Running
  | unprepared => []
  | within chain => chain

/-- The backtrace of a failure, for the stack of the first invocation with its newest entry in
front. -/
def backtrace (stack : Backtrace) : Origin → Option Backtrace
  | unprepared => none
  | within chain =>
    match (chain.map Running.entry).reverse ++ stack with
    | [] => none
    | entries => some entries

end Origin

/-- How calls of engines fail. -/
abbrev Faults := Handle → Invocation → Sequence → State → Cause → Origin → Prop

namespace Body

/-- The source of a body that is not ready refuses it. -/
def Refused (source : Scope → Nat → Store → Lowering) : Nat → Body → State → String → Prop
  | 0, _, _, _ => False
  | depth + 1, b, s, reason => s.store.sequence? b = none ∧
      ∃ s', lower source (readyAt source depth) b.scope s = (some (.ok (.error reason)), s')

/-- How an invocation fails. -/
inductive Fails (source : Scope → Nat → Store → Lowering) (depth : Nat) (faults : Faults) (b : Body)
    (c : Call) (block : Block) (s : State) : Cause → Origin → Prop where
  | unprepared {reason : String} (refused : Refused source depth b (b.announced c s) reason) :
      Fails source depth faults b c block s (.materialization b.scope.text reason) .unprepared
  | overflow {seq : Sequence} {s₁ : State} {max : Nat}
      (ready : b.sequence ((Env.interpreting source).reach depth) (b.announced c s) =
        (some (.ok seq), s₁))
      (generic : seq.explicit = false) (limit : s₁.context.exceeded? = some max) :
      Fails source depth faults b c block s (.stackOverflow max) (.within [])
  | inside {seq : Sequence} {s₁ : State} {label : String} {cause : Cause} {origin : Origin}
      (ready : b.sequence ((Env.interpreting source).reach depth) (b.announced c s) =
        (some (.ok seq), s₁))
      (room : s₁.Admits seq.explicit) (kind : b.scope.label? = some label)
      (fault : faults seq.handle (invocation label c block) seq (b.opened c block label seq s₁)
        cause origin) :
      Fails source depth faults b c block s cause
        (.within (⟨b, seq, s.context.line⟩ :: origin.chain))

end Body

/-- How a list of instructions stops with a failure. -/
inductive Interpreter.Stops (source : Scope → Nat → Store → Lowering) (depth : Nat)
    (faults : Faults) (engine : Nat) (i : Invocation) (seq : Sequence) :
    Nat → Value → List Instr → State → Cause → Origin → Prop where
  | later {own own' : Nat} {last last' : Value} {instr : Instr} {rest : List Instr} {s s₁ : State}
      {cause : Cause} {origin : Origin}
      (step : execute ((Env.interpreting source).reach depth) engine i seq own last instr s =
        (some (.ok (own', last')), s₁))
      (stops : Stops source depth faults engine i seq own' last' rest s₁ cause origin) :
      Stops source depth faults engine i seq own last (instr :: rest) s cause origin
  | raised (own : Nat) (last : Value) (message : String) (rest : List Instr) (s : State) :
      Stops source depth faults engine i seq own last (.raise message :: rest) s (.raised message)
        (.within [])
  | underflow (last : Value) (rest : List Instr) (s : State) :
      Stops source depth faults engine i seq 0 last (.popFrame :: rest) s .frameUnderflow
        (.within [])
  | overflow {own : Nat} {last : Value} {rest : List Instr} {s : State} {max : Nat}
      (limit : s.context.exceeded? = some max) :
      Stops source depth faults engine i seq own last (.pushFrame :: rest) s (.stackOverflow max)
        (.within [])
  | nested {own : Nat} {last : Value} {scope : Scope} {rest : List Instr} {s s₁ : State} {b : Body}
      {cause : Cause} {origin : Origin}
      (known : bodyFor engine scope i.call.receiver.module? seq.handle
        { s with trace := .defining engine scope :: s.trace } = (some (.ok b), s₁))
      (fails : b.Fails source depth faults (definitionCall b) .absent s₁ cause origin) :
      Stops source depth faults engine i seq own last (.define scope :: rest) s cause origin

/-- How calls of interpreters fail within a depth of calls. -/
def Env.faults (source : Scope → Nat → Store → Lowering) : Nat → Faults
  | 0 => fun _ _ _ _ _ _ => False
  | depth + 1 => fun h i seq s cause origin =>
    (s.store.reaches h = false ∧ cause = .engineDropped ∧ origin = .within []) ∨
    (s.store.reaches h = true ∧
      Interpreter.Stops source depth (faults source depth) h.engine i seq 0 .nil seq.instrs
        (s.held h.engine) cause origin)

/-- The failures of a computation are those described, with the backtraces of their origins. -/
def Explained (x : Eval Value) (fails : State → Cause → Origin → Prop) : Prop :=
  ∀ s f, (∃ s', x s = (some (.failed f), s')) ↔
    ∃ cause origin, fails s cause origin ∧ f = ⟨cause, origin.backtrace s.context.backtrace⟩

/-- Calls of engines within a depth fail as the faults tell. -/
def Faults.Explain (source : Scope → Nat → Store → Lowering) (depth : Nat) (faults : Faults) :
    Prop :=
  ∀ h i seq, Explained ((Env.interpreting source).interpretAt depth h i seq) (faults h i seq)

/-! ## Backtraces -/

namespace Origin

theorem backtrace_nil (stack : Backtrace) (cause : Cause) :
    Failure.attach stack ⟨cause, none⟩ = ⟨cause, (within []).backtrace stack⟩ := by
  cases stack with
  | nil => rfl
  | cons e rest => rfl

theorem backtrace_of_append {chain : List Running} {stack entries : Backtrace} {e : Entry}
    (h : (chain.map Running.entry).reverse ++ stack = e :: entries) :
    (within chain).backtrace stack = some (e :: entries) := by
  rw [backtrace, h]

/-- The entry of an invocation is under those of the bodies inside it, whether the failure comes with
its backtrace or gets it here. -/
theorem attach_backtrace (x : Running) (stack : Backtrace) (cause : Cause) (origin : Origin) :
    Failure.attach (x.entry :: stack) ⟨cause, origin.backtrace (x.entry :: stack)⟩ =
      ⟨cause, (within (x :: origin.chain)).backtrace stack⟩ := by
  cases origin with
  | unprepared => rfl
  | within chain =>
    have shifted : ((x :: chain).map Running.entry).reverse ++ stack =
        (chain.map Running.entry).reverse ++ x.entry :: stack := by simp
    obtain ⟨e, entries, h⟩ : ∃ e entries, (chain.map Running.entry).reverse ++ x.entry :: stack =
        e :: entries := List.exists_cons_of_ne_nil (by simp)
    rw [Origin.chain, backtrace_of_append h, backtrace_of_append (shifted.trans h)]
    rfl

end Origin

theorem Running.entry_eq {b : Body} {label : String} (kind : b.scope.label? = some label)
    (seq : Sequence) {s s₁ : State} (line : s₁.context.line = s.context.line) :
    Body.entry label seq s₁ = Running.entry ⟨b, seq, s.context.line⟩ := by
  have named : label = Running.label ⟨b, seq, s.context.line⟩ := by
    unfold Scope.label? at kind
    unfold Running.label
    cases h : b.scope.kind <;> simp_all
  rw [Body.entry, Running.entry, line, ← named]

/-! ## Runs -/

variable {source : Scope → Nat → Store → Lowering} {depth : Nat}

namespace Body

theorem sequence_failed_iff {b : Body} {s : State} {f : Failure} :
    (∃ s', b.sequence ((Env.interpreting source).reach depth) s = (some (.failed f), s')) ↔
      ∃ reason, Refused source depth b s reason ∧
        f = ⟨.materialization b.scope.text reason, none⟩ := by
  rw [sequence_run]
  cases depth with
  | zero => exact ⟨fun ⟨s', h⟩ => (nomatch h), fun ⟨reason, refused, _⟩ => refused.elim⟩
  | succ depth =>
    cases found : s.store.sequence? b with
    | some seq =>
      rw [readyAt_found found]
      refine ⟨fun ⟨s', h⟩ => (nomatch h), fun ⟨reason, ⟨absent, _⟩, _⟩ => ?_⟩
      rw [found] at absent
      cases absent
    | none =>
      rw [readyAt_absent found]
      constructor
      · rintro ⟨s', h⟩
        rcases bind_failed h with prepared | ⟨seq, s₁, -, h⟩
        · obtain ⟨reason, refusal, rfl⟩ := prepare_failed_iff.mp prepared
          exact ⟨reason, ⟨found, s', refusal⟩, rfl⟩
        · obtain ⟨seq', s₂, installed, -⟩ := install_run b seq s.context.settings s₁
          rw [installed] at h
          cases h
      · rintro ⟨reason, ⟨-, s', refusal⟩, rfl⟩
        exact ⟨s', bind_of_failed (prepare_refused refusal)⟩

theorem invoke_explained {faults : Faults} (hf : faults.Explain source depth) (b : Body) (c : Call)
    (block : Block) :
    Explained (b.invoke ((Env.interpreting source).reach depth) c block)
      (b.Fails source depth faults c block) := by
  have balanced := Balance.reach source depth
  intro s f
  constructor
  · rintro ⟨s', h⟩
    have course := (invoke_ended_iff balanced).mp h
    generalize ended : Outcome.failed f = o at course
    cases course with
    | broken ready => cases ended
    | invalid ready room kind => cases ended
    | @unready f' _ ready =>
      cases ended
      obtain ⟨reason, refused, rfl⟩ := sequence_failed_iff.mp ⟨s', ready⟩
      exact ⟨_, _, .unprepared refused, rfl⟩
    | @refused seq s₁ max ready generic limit =>
      cases ended
      have context := (sequence_context ready).trans (announced_context b c s)
      refine ⟨_, _, .overflow ready generic limit, ?_⟩
      rw [Origin.backtrace_nil, context]
    | @interpreted seq s₁ s₂ label o ready room kind run =>
      have context := (sequence_context ready).trans (announced_context b c s)
      cases o with
      | ok v => cases ended
      | panicked t => cases ended
      | failed f' =>
        cases ended
        obtain ⟨cause, origin, fault, rfl⟩ := (hf _ _ _ _ _).mp ⟨s₂, run⟩
        refine ⟨_, _, .inside ready room kind fault, ?_⟩
        rw [opened_backtrace, Running.entry_eq kind seq (congrArg Context.line context), context]
        exact Origin.attach_backtrace _ _ _ _
  · rintro ⟨cause, origin, fails, rfl⟩
    cases fails with
    | @unprepared reason refused =>
      obtain ⟨s', failed⟩ := sequence_failed_iff.mpr ⟨reason, refused, rfl⟩
      exact ⟨s', (Course.unready failed).run balanced⟩
    | @overflow seq s₁ max ready generic limit =>
      have context := (sequence_context ready).trans (announced_context b c s)
      have ended := (@Course.refused _ b c block s _ _ _ ready generic limit).run balanced
      rw [Origin.backtrace_nil, context] at ended
      exact ⟨_, ended⟩
    | @inside seq s₁ label cause origin ready room kind fault =>
      have context := (sequence_context ready).trans (announced_context b c s)
      obtain ⟨s₂, run⟩ := (hf _ _ _ _ _).mpr ⟨cause, origin, fault, rfl⟩
      have ended := (@Course.interpreted _ b c block s _ _ _ _ _ ready room kind run).run balanced
      rw [opened_backtrace, Running.entry_eq kind seq (congrArg Context.line context), context]
        at ended
      refine ⟨s₂.closed seq.explicit, ended.trans ?_⟩
      rw [← Origin.attach_backtrace]
      rfl

end Body

namespace Interpreter

variable {faults : Faults} {engine : Nat} {i : Invocation} {seq : Sequence} {s s' : State}

theorem define_failed_iff (hf : faults.Explain source depth) {scope : Scope} {f : Failure} :
    (∃ s', define ((Env.interpreting source).reach depth) engine i seq scope s =
      (some (.failed f), s')) ↔
    ∃ cause origin b s₁, bodyFor engine scope i.call.receiver.module? seq.handle
        { s with trace := .defining engine scope :: s.trace } = (some (.ok b), s₁) ∧
      b.Fails source depth faults (definitionCall b) .absent s₁ cause origin ∧
      f = ⟨cause, origin.backtrace s.context.backtrace⟩ := by
  let s₀ : State := { s with trace := .defining engine scope :: s.trace }
  obtain ⟨b, s₁, known, -, context, -⟩ :=
    bodyFor_run engine scope i.call.receiver.module? seq.handle s₀
  have explained := b.invoke_explained hf (definitionCall b) .absent s₁ f
  rw [define_run known, explained, context]
  constructor
  · rintro ⟨cause, origin, fails, same⟩
    exact ⟨cause, origin, b, s₁, known, fails, same⟩
  · rintro ⟨cause, origin, b', s₂, known', fails, same⟩
    have this := known.symm.trans known'
    cases this
    exact ⟨cause, origin, fails, same⟩

theorem execute_failed (hf : faults.Explain source depth) {own : Nat} {last : Value}
    {instr : Instr} (rest : List Instr) {f : Failure}
    (h : execute ((Env.interpreting source).reach depth) engine i seq own last instr s =
      (some (.failed f), s')) :
    ∃ cause origin, Stops source depth faults engine i seq own last (instr :: rest) s cause origin ∧
      f = ⟨cause, origin.backtrace s.context.backtrace⟩ := by
  by_cases definition : ∃ scope, instr = .define scope
  · obtain ⟨scope, rfl⟩ := definition
    rcases bind_failed h with defined | ⟨v, s₁, -, h⟩
    · obtain ⟨cause, origin, b, s₁, known, fails, rfl⟩ := (define_failed_iff hf).mp ⟨s', defined⟩
      exact ⟨cause, origin, .nested known fails, rfl⟩
    · cases h
  · obtain ⟨cause, rfl, reason⟩ := execute_plain_failed (not_exists.mp definition) h
    refine ⟨cause, .within [], ?_, Origin.backtrace_nil _ cause⟩
    rcases reason with ⟨message, rfl, rfl⟩ | ⟨max, rfl, limit, rfl⟩ | ⟨rfl, rfl, rfl⟩
    · exact .raised own last message rest s
    · exact .overflow limit
    · exact .underflow last rest s

theorem run_failed (hf : faults.Explain source depth) {own : Nat} {last : Value}
    {instrs : List Instr} {f : Failure} {pushed base : List Frame}
    (frames : s.context.frames = pushed ++ base)
    (h : run ((Env.interpreting source).reach depth) engine i seq pushed.length last instrs s =
      (some (.ok (.failed f, own)), s')) :
    ∃ cause origin,
      Stops source depth faults engine i seq pushed.length last instrs s cause origin ∧
      f = ⟨cause, origin.backtrace s.context.backtrace⟩ := by
  have balanced := Balance.reach source depth
  induction instrs generalizing s pushed last with
  | nil => cases h
  | cons instr rest ih =>
    have confined := execute_confined balanced engine i seq last instr frames
    rcases step : execute ((Env.interpreting source).reach depth) engine i seq pushed.length last
      instr s with ⟨_ | ⟨own', last'⟩ | f' | t, s₁⟩
    · rw [run_of_none step] at h
      cases h
    · rw [step] at confined
      rw [run_of_ok step] at h
      obtain ⟨pushed', frames', rfl⟩ := confined.frames
      -- an instruction that ends well leaves the backtrace that the rest may fail with
      obtain ⟨cause, origin, stops, rfl⟩ := ih frames' h
      rw [confined.backtrace]
      exact ⟨cause, origin, .later step stops, rfl⟩
    · rw [run_of_failed step] at h
      cases h
      exact execute_failed hf rest step
    · rw [run_of_panicked step] at h
      cases h

theorem run_of_stops (hf : faults.Explain source depth) {own : Nat} {last : Value}
    {instrs : List Instr} {cause : Cause} {origin : Origin}
    (h : Stops source depth faults engine i seq own last instrs s cause origin)
    {pushed base : List Frame} (frames : s.context.frames = pushed ++ base)
    (count : pushed.length = own) :
    ∃ own' s', run ((Env.interpreting source).reach depth) engine i seq own last instrs s =
      (some (.ok (.failed ⟨cause, origin.backtrace s.context.backtrace⟩, own')), s') := by
  -- on how the instructions stop; `pushed` is what the sequence has on the stack by then
  induction h generalizing pushed with
  | @later own own' last last' instr rest s s₁ cause origin step stops ih =>
    have confined :=
      execute_confined (Balance.reach source depth) engine i seq last instr frames
    rw [count, step] at confined
    obtain ⟨pushed', frames', count'⟩ := confined.frames
    obtain ⟨own₂, s₂, ran⟩ := ih frames' count'
    rw [run_of_ok step, ← confined.backtrace]
    exact ⟨own₂, s₂, ran⟩
  | raised own last message rest s =>
    rw [← Origin.backtrace_nil]
    exact ⟨own, s, run_of_failed (execute_raise message) rest⟩
  | underflow last rest s =>
    rw [← Origin.backtrace_nil]
    exact ⟨0, s, run_of_failed execute_underflow rest⟩
  | overflow limit =>
    rw [← Origin.backtrace_nil]
    exact ⟨_, _, run_of_failed (bind_of_failed (pushFrame_refused limit)) _⟩
  | nested known fails =>
    obtain ⟨s', defined⟩ := (define_failed_iff hf).mpr ⟨_, _, _, _, known, fails, rfl⟩
    exact ⟨_, s', run_of_failed (bind_of_failed defined) _⟩

theorem interpret_explained (hf : faults.Explain source depth) (engine : Nat) (i : Invocation)
    (seq : Sequence) :
    Explained (interpret ((Env.interpreting source).reach depth) engine i seq)
      (Stops source depth faults engine i seq 0 .nil seq.instrs) := by
  have balanced := Balance.reach source depth
  intro s f
  constructor
  · rintro ⟨s', ended⟩
    obtain ⟨own, s₁, ran⟩ := run_of_interpret balanced ended
    exact run_failed hf (List.nil_append s.context.frames).symm ran
  · rintro ⟨cause, origin, stops, rfl⟩
    obtain ⟨own, s₁, ran⟩ := run_of_stops hf stops (List.nil_append _).symm rfl
    obtain ⟨s', ended, -⟩ := interpret_of_run balanced ran
    exact ⟨s', ended⟩

end Interpreter

theorem Env.faults_explain (depth : Nat) : (faults source depth).Explain source depth := by
  induction depth with
  | zero =>
    intro h i seq s f
    exact ⟨fun ⟨s', ended⟩ => (nomatch ended), fun ⟨_, _, impossible, _⟩ => impossible.elim⟩
  | succ depth ih =>
    intro h i seq
    have inside := Interpreter.interpret_explained ih h.engine i seq
    intro s f
    constructor
    · rintro ⟨s', ended⟩
      rcases interpretAt_cases ended with ⟨gone, rfl, failed⟩ | ⟨reached, s₁, rfl, run⟩
      · rw [Origin.backtrace_nil] at failed
        cases failed
        exact ⟨_, _, .inl ⟨gone, rfl, rfl⟩, rfl⟩
      · obtain ⟨cause, origin, stops, same⟩ := (inside _ f).mp ⟨s₁, run⟩
        exact ⟨cause, origin, .inr ⟨reached, stops⟩, same⟩
    · rintro ⟨cause, origin, ⟨gone, rfl, rfl⟩ | ⟨reached, stops⟩, same⟩
      · rw [interpretAt_gone gone, same, ← Origin.backtrace_nil]
        exact ⟨s, rfl⟩
      · obtain ⟨s₁, run⟩ := (inside (s.held h.engine) f).mpr ⟨cause, origin, stops, same⟩
        exact ⟨_, interpretAt_ended reached run⟩

/-- An invocation fails as described and in no other way. A body that is not prepared leaves a
failure without a backtrace. Any other failure has the entries of the bodies that were being
interpreted, newest first, on top of the stack that the invocation has found, unless there is no
entry at all. The cause is that of the original failure. -/
theorem Body.invoke_failed_iff (source : Scope → Nat → Store → Lowering) (depth : Nat) (b : Body)
    (c : Call) (block : Block) (s : State) (f : Failure) :
    (∃ s', b.invoke ((Env.interpreting source).reach depth) c block s =
      (some (.failed f), s')) ↔
    ∃ cause origin, b.Fails source depth (Env.faults source depth) c block s cause origin ∧
      f = ⟨cause, origin.backtrace s.context.backtrace⟩ :=
  b.invoke_explained (Env.faults_explain depth) c block s f

end BodyCall
