import BodyCall.Proofs.Incidents

/-!
# What the log accounts for

The log of a history of runs, from empty caches on. It has the records of the incidents of all runs,
one after the other, and the caches have what these bring. So each sequence that is installed, and each
body that an engine has defined, has come with one record. Of each run the log has the executions, in
the order in which the invocations begin, and one record for each interpretation that its failure has
left.
-/

namespace BodyCall

open Eval

namespace LogRecord

def execution : LogRecord → Option (Scope × String)
  | executing scope name => some (scope, name)
  | _ => none

def materialization : LogRecord → Option Sequence
  | materialized _ seq => some seq
  | _ => none

def failure : LogRecord → Option Cause
  | bodyFailed cause => some cause
  | _ => none

end LogRecord

/-! ## The records of incidents -/

namespace Incident

theorem records_reading (r : Reading) (x : LogRecord) (among : x ∈ r.records) :
    x.execution = none ∧ x.materialization = none ∧ x.failure = none := by
  unfold Reading.records at among
  rcases List.mem_append.mp among with depth | flag
  · obtain ⟨raw, -, rfl⟩ := List.mem_map.mp depth
    exact ⟨rfl, rfl, rfl⟩
  · obtain ⟨word, -, rfl⟩ := List.mem_map.mp flag
    exact ⟨rfl, rfl, rfl⟩

def told : Body × Call × Settings → Option (Scope × String)
  | (b, c, settings) =>
    if settings.debug.execution then some (b.scope, b.shownName c.name) else none

theorem records_execution (x : Incident) :
    x.records.filterMap LogRecord.execution = (x.invocation.bind told).toList := by
  cases x with
  | invoked b c settings =>
    cases shown : settings.debug.execution <;>
      simp [records, invocation, told, shown, LogRecord.execution]
  | reading r =>
    exact List.filterMap_eq_nil_iff.mpr fun x among => (records_reading r x among).1
  | installed b seq settings =>
    cases listed : settings.debug.ir <;> simp [records, invocation, listed, LogRecord.execution]
  | _ => rfl

theorem records_materialization (x : Incident) :
    x.records.filterMap LogRecord.materialization = (x.installation.map (·.2)).toList := by
  cases x with
  | invoked b c settings =>
    cases shown : settings.debug.execution <;>
      simp [records, installation, shown, LogRecord.materialization]
  | reading r =>
    exact List.filterMap_eq_nil_iff.mpr fun x among => (records_reading r x among).2.1
  | installed b seq settings =>
    cases listed : settings.debug.ir <;>
      simp [records, installation, listed, LogRecord.materialization]
  | _ => rfl

theorem records_failure (x : Incident) :
    x.records.filterMap LogRecord.failure = (x.leaving.map (·.2)).toList := by
  cases x with
  | invoked b c settings =>
    cases shown : settings.debug.execution <;> simp [records, leaving, shown, LogRecord.failure]
  | reading r =>
    exact List.filterMap_eq_nil_iff.mpr fun x among => (records_reading r x among).2.2
  | installed b seq settings =>
    cases listed : settings.debug.ir <;> simp [records, leaving, listed, LogRecord.failure]
  | _ => rfl

theorem filterMap_records {α : Type} {f : LogRecord → Option α} {g : Incident → Option α}
    (each : ∀ x : Incident, x.records.filterMap f = (g x).toList) (l : List Incident) :
    (l.flatMap records).filterMap f = l.filterMap g := by
  induction l with
  | nil => rfl
  | cons x rest ih =>
    rw [List.flatMap_cons, List.filterMap_append, each, ih]
    cases here : g x with
    | none => rw [List.filterMap_cons_none here]; rfl
    | some a => rw [List.filterMap_cons_some here]; rfl

end Incident

/-! ## One entry for each key -/

structure Store.Distinct (st : Store) : Prop where
  installed : st.installed.keys.Nodup
  defined : ∀ engine, (st.defined engine).keys.Nodup

theorem Store.Step.distinct {st st' : Store} (h : st.Step st') (distinct : st.Distinct) :
    st'.Distinct := by
  cases h with
  | module | sequence | lowering | hold | release => exact ⟨distinct.installed, distinct.defined⟩
  | install absent handle => exact ⟨Table.nodup_keys_set distinct.installed _ _, distinct.defined⟩
  | @define engine scope absent m h =>
    refine ⟨distinct.installed, fun engine' => ?_⟩
    rw [Store.defined_define]
    split
    · exact Table.nodup_keys_set (distinct.defined engine) _ _
    · exact distinct.defined engine'

theorem Store.Distinct.stepwise :
    Stepwise fun s _ s' => s.store.Distinct → s'.store.Distinct where
  refl _ _ := id
  trans h h' := h' ∘ h
  told _ _ _ := id
  line _ _ := id
  stored _ _ step := step.distinct
  moved _ _ _ _ := id

/-! ## Runs in a history -/

def failureOf {α : Type} : Option (Outcome α) → Option Failure
  | some (.failed f) => some f
  | _ => none

theorem failureOf_some {α : Type} {ended : Option (Outcome α)} {f : Failure}
    (failed : failureOf ended = some f) : ended = some (.failed f) := by
  unfold failureOf at failed
  split at failed
  next =>
    cases failed
    rfl
  next => cases failed

inductive Deed where
  | invocation (b : Body) (c : Call) (block : Block)
  | interpretation (h : Handle) (i : Invocation) (seq : Sequence)
  /-- A request for a body to be ready, outside of an invocation. -/
  | request (b : Body) (settings : Settings)

/-- A run with the state that it starts from, up to some depth of calls. -/
structure Episode where
  source : Scope → Nat → Store → Lowering
  depth : Nat
  deed : Deed
  start : State

structure Begun where
  body : Body
  call : Call
  start : State
  after : State

namespace Episode

def reach (e : Episode) : Reach := (Env.interpreting e.source).reach e.depth

def after (e : Episode) : State :=
  match e.deed with
  | .invocation b c block => (b.invoke e.reach c block e.start).2
  | .interpretation h i seq => (e.reach.interpret h i seq e.start).2
  | .request b settings => (e.reach.ready b settings e.start).2

def chronicle (e : Episode) : List Incident :=
  match e.deed with
  | .invocation b c block =>
    b.chronicle e.reach (readyChronicle e.source e.depth) (Env.chronicleAt e.source e.depth) c block
      e.start
  | .interpretation h i seq => Env.chronicleAt e.source e.depth h i seq e.start
  | .request b settings => readyChronicle e.source e.depth b settings e.start

def failure? (e : Episode) : Option Failure :=
  match e.deed with
  | .invocation b c block => failureOf (b.invoke e.reach c block e.start).1
  | .interpretation h i seq => failureOf (e.reach.interpret h i seq e.start).1
  | .request b settings => failureOf (e.reach.ready b settings e.start).1

def visits (e : Episode) : List Visit :=
  match e.deed with
  | .invocation b c block => b.visits e.reach (Env.visitsAt e.source e.depth) c block e.start
  | .interpretation h i seq => Env.visitsAt e.source e.depth h i seq e.start
  | .request _ _ => []

/-- The invocations of a run, in the order in which they begin: its own, if it is one, and those of its
visits. -/
def invocations (e : Episode) : List Begun :=
  let visited := e.visits.map fun v =>
    ⟨v.body, Interpreter.definitionCall v.body, v.opened, v.run.2⟩
  match e.deed with
  | .invocation b c _ => ⟨b, c, e.start, e.after⟩ :: visited
  | .interpretation .. | .request .. => visited

/-- How a run fails, with the sequences that were being interpreted by then, outermost first. -/
def Fails (e : Episode) (cause : Cause) (underway : List Sequence) : Prop :=
  ∃ origin : Origin,
    match e.deed with
    | .invocation b c block =>
      b.Fails e.source e.depth (Env.faults e.source e.depth) c block e.start cause origin ∧
        underway = origin.sequences
    | .interpretation h i seq =>
      Env.faults e.source e.depth h i seq e.start cause origin ∧ underway = seq :: origin.sequences
    | .request .. => underway = []

structure Accounted (e : Episode) : Prop where
  log : logOf (e.after.since e.start) = e.chronicle.flatMap Incident.records
  executions : (logOf (e.after.since e.start)).filterMap LogRecord.execution =
    if e.start.context.settings.debug.execution then
      e.invocations.map fun x => (x.body.scope, x.body.shownName x.call.name)
    else []
  /-- An invocation is told of before it has any other effect. -/
  first : ∀ x ∈ e.invocations, e.start.Before x.start ∧ x.after.Before e.after ∧
    (e.start.context.settings.debug.execution →
      State.Before { x.start with trace := .logged (.executing x.body.scope
        (x.body.shownName x.call.name)) :: x.start.trace } x.after)
  /-- A failure is told of for each interpretation that it leaves. -/
  failed : ∀ f, e.failure? = some f → ∃ underway, e.Fails f.cause underway ∧
    e.chronicle.filterMap Incident.leaving = f.cause.leaves underway ∧
    (logOf (e.after.since e.start)).filterMap LogRecord.failure =
      List.replicate (f.cause.leaves underway).length f.cause
  unfailed : e.failure? = none →
    (logOf (e.after.since e.start)).filterMap LogRecord.failure = []

theorem chronicled (e : Episode) : Chronicled e.start e.chronicle e.after := by
  obtain ⟨source, depth, deed, start⟩ := e
  cases deed with
  | invocation b c block => exact b.invoke_chronicled (Env.chronicleAt_told source depth) c block start
  | interpretation h i seq => exact Env.chronicleAt_told source depth h i seq start
  | request b settings => exact readyAt_chronicled source depth b settings start

theorem keeps {T : State → State → Prop} (w : Stepwise fun s _ s' => T s s') (e : Episode) :
    T e.start e.after := by
  obtain ⟨source, depth, deed, start⟩ := e
  have reach : ((Env.interpreting source).reach depth).Keeps fun s _ s' => T s s' := w.reach depth
  cases deed with
  | invocation b c block => exact b.invoke_keeps w.guarded reach c block start
  | interpretation h i seq => exact reach.interpret h i seq start
  | request b settings => exact reach.ready b settings start

theorem amid (e : Episode) : ∀ v ∈ e.visits, v.Amid e.source e.start e.after := by
  obtain ⟨source, depth, deed, start⟩ := e
  cases deed with
  | invocation b c block => exact b.invoke_amid (Env.interpretAt_amid source depth) c block start
  | interpretation h i seq => exact Env.interpretAt_amid source depth h i seq start
  | request b settings => exact fun v among => nomatch among

theorem invoked (e : Episode) : e.chronicle.filterMap Incident.invocation =
    e.invocations.map fun x => (x.body, x.call, e.start.context.settings) := by
  have settled : e.visits.map Visit.invoked = e.visits.map fun v =>
      (v.body, Interpreter.definitionCall v.body, e.start.context.settings) := by
    refine List.map_congr_left fun v among => ?_
    rw [Visit.invoked, (e.amid v among).opened.settings]
  have mapped : (e.visits.map fun v =>
      (⟨v.body, Interpreter.definitionCall v.body, v.opened, v.run.2⟩ : Begun)).map
        (fun x => (x.body, x.call, e.start.context.settings)) = e.visits.map Visit.invoked := by
    rw [settled, List.map_map]
    rfl
  obtain ⟨source, depth, deed, start⟩ := e
  cases deed with
  | invocation b c block =>
    refine (Body.chronicle_invocations (Env.chronicleAt_invocations source depth) _ b c block
      start).trans ?_
    exact congrArg ((b, c, start.context.settings) :: ·) mapped.symm
  | interpretation h i seq =>
    exact (Env.chronicleAt_invocations source depth h i seq start).trans mapped.symm
  | request b settings => exact ready_invocations source depth b settings start

theorem begins (e : Episode) : ∀ x ∈ e.invocations, e.start.Before x.start ∧
    x.after.Before e.after ∧ (x.body.announced x.call x.start).Before x.after ∧
    x.start.context.settings = e.start.context.settings := by
  have visited : ∀ x ∈ (e.visits.map fun v =>
      (⟨v.body, Interpreter.definitionCall v.body, v.opened, v.run.2⟩ : Begun)),
      e.start.Before x.start ∧ x.after.Before e.after ∧
        (x.body.announced x.call x.start).Before x.after ∧
        x.start.context.settings = e.start.context.settings := by
    intro x among
    obtain ⟨v, within, rfl⟩ := List.mem_map.mp among
    have amid := e.amid v within
    refine ⟨amid.opened, amid.after, ?_, amid.opened.settings⟩
    obtain ⟨depth, reach⟩ := amid.reach
    rw [v.run_eq, reach]
    exact v.body.announced_first _ _ _
  obtain ⟨source, depth, deed, start⟩ := e
  intro x among
  cases deed with
  | invocation b c block =>
    rcases List.mem_cons.mp among with rfl | inside
    · exact ⟨.refl start, .refl _, b.announced_first c block start, rfl⟩
    · exact visited x inside
  | interpretation h i seq => exact visited x among
  | request b settings => exact visited x among

theorem leaves (e : Episode) {f : Failure} (failed : e.failure? = some f) :
    ∃ underway, e.Fails f.cause underway ∧
      e.chronicle.filterMap Incident.leaving = f.cause.leaves underway := by
  obtain ⟨source, depth, deed, start⟩ := e
  cases deed with
  | invocation b c block =>
    obtain ⟨cause, origin, fails, rfl⟩ :=
      (b.invoke_failed_iff source depth c block start f).mp ⟨_, Prod.ext (failureOf_some failed) rfl⟩
    exact ⟨origin.sequences, ⟨origin, fails, rfl⟩, fails.leaves (Env.faults_leave source depth)⟩
  | interpretation h i seq =>
    obtain ⟨cause, origin, fault, rfl⟩ :=
      (Env.faults_explain depth h i seq start f).mp ⟨_, Prod.ext (failureOf_some failed) rfl⟩
    exact ⟨seq :: origin.sequences, ⟨origin, fault, rfl⟩, Env.faults_leave source depth fault⟩
  | request b settings =>
    refine ⟨[], ⟨.unprepared, rfl⟩, ?_⟩
    rw [Cause.leaves_nil]
    exact ready_leavings source depth b settings start

theorem leaves_none (e : Episode) (unfailed : e.failure? = none) :
    e.chronicle.filterMap Incident.leaving = [] := by
  obtain ⟨source, depth, deed, start⟩ := e
  have calls := Env.calls_leavings source depth
  have other {ended : Option (Outcome Value)} (none : failureOf ended = none) :
      ∀ f, ended ≠ some (.failed f) := by
    rintro f rfl
    cases none
  cases deed with
  | invocation b c block => exact Body.invoke_leavings calls b c block start (other unfailed)
  | interpretation h i seq => exact calls h i seq start (other unfailed)
  | request b settings => exact ready_leavings source depth b settings start

theorem accounted (e : Episode) : e.Accounted := by
  have log := e.chronicled.log
  have failures : (logOf (e.after.since e.start)).filterMap LogRecord.failure =
      (e.chronicle.filterMap Incident.leaving).map (·.2) := by
    rw [log, Incident.filterMap_records Incident.records_failure, List.map_filterMap]
  refine ⟨log, ?_, ?_, ?_, ?_⟩
  · rw [log, Incident.filterMap_records Incident.records_execution, ← List.filterMap_filterMap,
      e.invoked, List.filterMap_map]
    cases shown : e.start.context.settings.debug.execution with
    | true => simp [Function.comp_def, Incident.told, shown]
    | false => simp [Function.comp_def, Incident.told, shown]
  · intro x among
    obtain ⟨before, after, announced, settings⟩ := e.begins x among
    refine ⟨before, after, fun shown => ?_⟩
    rw [Body.announced, settings, if_pos shown] at announced
    exact announced
  · intro f failed
    obtain ⟨underway, fails, left⟩ := e.leaves failed
    refine ⟨underway, fails, left, ?_⟩
    rw [failures, left, List.eq_replicate_iff]
    refine ⟨List.length_map _, ?_⟩
    intro cause among
    obtain ⟨entry, within, rfl⟩ := List.mem_map.mp among
    obtain ⟨seq, -, rfl⟩ := List.mem_map.mp (List.mem_reverse.mp within)
    rfl
  · intro unfailed
    rw [failures, e.leaves_none unfailed]
    rfl

end Episode

/-! ## Histories -/

/-- The states that a history of runs leads to, from empty caches and an empty log on. Each run starts
from any context, with any sources, and up to any depth of calls. In between, all of the store may
change but which sequences are installed and what engines have defined. -/
inductive Annals : List Episode → State → Prop where
  | start {s : State} (trace : s.trace = []) (installed : s.store.installed = {})
      (definitions : s.store.definitions = {}) : Annals [] s
  | episode {es : List Episode} {s : State} (annals : Annals es s)
      (source : Scope → Nat → Store → Lowering) (depth : Nat) (deed : Deed) (context : Context) :
      Annals (es ++ [⟨source, depth, deed, { s with context }⟩])
        (Episode.after ⟨source, depth, deed, { s with context }⟩)
  | meanwhile {es : List Episode} {s s' : State} (annals : Annals es s) (trace : s'.trace = s.trace)
      (installed : s'.store.installed = s.store.installed)
      (definitions : s'.store.definitions = s.store.definitions) : Annals es s'

def incidentsOf (es : List Episode) : List Incident := es.flatMap Episode.chronicle

structure Accounts (es : List Episode) (s : State) : Prop where
  log : logOf s.trace = (incidentsOf es).flatMap Incident.records
  installed : s.store.installed.entries = (incidentsOf es).filterMap Incident.installation
  once : ((incidentsOf es).filterMap Incident.installation).Pairwise fun x y => x.1 ≠ y.1
  materialized : (logOf s.trace).filterMap LogRecord.materialization = s.store.installed.values
  defined : ∀ engine, (s.store.defined engine).entries =
    (incidentsOf es).filterMap (Incident.definitionOn engine)
  single : ∀ engine, ((incidentsOf es).filterMap (Incident.definitionOn engine)).Pairwise
    fun x y => x.1 ≠ y.1
  asked : askedScopes s.trace = scopesAsked (incidentsOf es)
  episodes : ∀ e ∈ es, e.Accounted

namespace Annals

variable {es : List Episode} {s : State}

theorem chronicled (annals : Annals es s) : ∃ s₀ : State, s₀.trace = [] ∧
    s₀.store.installed = {} ∧ s₀.store.definitions = {} ∧ Chronicled s₀ (incidentsOf es) s := by
  induction annals with
  | @start s trace installed definitions => exact ⟨s, trace, installed, definitions, .refl s⟩
  | @episode es s annals source depth deed context ih =>
    obtain ⟨s₀, empty, none, nothing, before⟩ := ih
    let e : Episode := ⟨source, depth, deed, { s with context }⟩
    have restarted : Chronicled s [] e.start := .silent [] rfl rfl rfl rfl rfl
    refine ⟨s₀, empty, none, nothing, ?_⟩
    rw [incidentsOf, List.flatMap_append, List.flatMap_singleton]
    exact (before.keep restarted).trans e.chronicled
  | meanwhile annals trace installed definitions ih =>
    obtain ⟨s₀, empty, none, nothing, before⟩ := ih
    exact ⟨s₀, empty, none, nothing, before.keep (.silent [] trace rfl rfl installed definitions)⟩

theorem distinct (annals : Annals es s) : s.store.Distinct := by
  induction annals with
  | start trace installed definitions =>
    refine ⟨by rw [installed]; exact List.nodup_nil, fun engine => ?_⟩
    rw [Store.defined, definitions]
    exact List.nodup_nil
  | episode annals source depth deed context ih => exact Episode.keeps Store.Distinct.stepwise _ ih
  | meanwhile annals trace installed definitions ih =>
    refine ⟨installed ▸ ih.installed, fun engine => ?_⟩
    rw [Store.defined, definitions]
    exact ih.defined engine

/-- After any history the log has the records of its incidents, and no others, in order. Each sequence
that is installed was told of once, and so was each body that an engine has defined. The sources that
were asked are those of the incidents. In each run the executions are told of in the order in which
the invocations begin, and its failure once for each interpretation that it leaves. -/
theorem accounts (annals : Annals es s) : Accounts es s := by
  obtain ⟨s₀, empty, none, nothing, chronicled⟩ := annals.chronicled
  have since : s.since s₀ = s.trace := by
    rw [State.since, empty, List.length_nil, Nat.sub_zero, List.take_length]
  have log : logOf s.trace = (incidentsOf es).flatMap Incident.records := by
    rw [← since]
    exact chronicled.log
  have asked : askedScopes s.trace = scopesAsked (incidentsOf es) := by
    rw [← since]
    exact chronicled.asked
  have installed : s.store.installed.entries =
      (incidentsOf es).filterMap Incident.installation := by
    rw [chronicled.installed, none]
    rfl
  have defined (engine : Nat) : (s.store.defined engine).entries =
      (incidentsOf es).filterMap (Incident.definitionOn engine) := by
    rw [chronicled.defined, Store.defined, nothing]
    rfl
  refine ⟨log, installed, ?_, ?_, defined, ?_, asked, fun e _ => e.accounted⟩
  · rw [← installed, ← List.pairwise_map]
    exact annals.distinct.installed
  · rw [log, Incident.filterMap_records Incident.records_materialization, Table.values, installed,
      List.map_filterMap]
  · intro engine
    rw [← defined, ← List.pairwise_map]
    exact annals.distinct.defined engine

/-- A body whose nested definition fails is called twice, by a name and without one. The second call
finds both bodies ready, and the inner one defined. -/
theorem failing_accounts :
    let outer : Scope := ⟨0, .moduleBody, "Shop", "shop.rb", 1⟩
    let inner : Scope := ⟨1, .classBody, "Widget", "shop.rb", 2⟩
    let m : Module := .top 0 "Shop" .plain
    let b : Body := ⟨0, outer, m, ⟨0, true⟩⟩
    let shop : Sequence := ⟨0, "shop.rb", 1, false, [.define inner], ⟨0, true⟩⟩
    let widget : Sequence := ⟨1, "shop.rb", 2, false, [.raise "boom"], ⟨0, false⟩⟩
    let source : Scope → Nat → Store → Lowering := fun scope _ _ =>
      .prepared ⟨if scope = outer then [.define inner] else [.raise "boom"], false⟩
    let context : Context := ⟨{ debug := ⟨true, true⟩ }, 0, [], []⟩
    let call (name : String) (s : State) : Episode :=
      ⟨source, 3, .invocation b ⟨none, .object m, m, name⟩ .absent, { s with context }⟩
    let s : State := ⟨context, { nextModule := 1, nextBody := 1 }, []⟩
    let first := call "open" s
    let second := call "" first.after
    Annals [first, second] second.after ∧
      logOf second.after.trace =
        [.executing outer "open", .materialized outer shop, .listed outer shop,
          .definedBody (.inside m 1 "Widget" .classLike), .executing inner "Widget",
          .materialized inner widget, .listed inner widget, .bodyFailed (.raised "boom"),
          .bodyFailed (.raised "boom"), .executing outer "Shop", .executing inner "Widget",
          .bodyFailed (.raised "boom"), .bodyFailed (.raised "boom")] := by
  intro outer inner m b shop widget source context call s first second
  have start : Annals [] s := .start rfl rfl rfl
  have once : Annals [first] first.after := start.episode source 3 first.deed context
  have twice : Annals [first, second] second.after := once.episode source 3 second.deed context
  refine ⟨twice, ?_⟩
  rw [twice.accounts.log]
  decide +kernel

end Annals

end BodyCall
