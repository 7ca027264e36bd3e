import BodyCall.Proofs.EngineCalls
import BodyCall.Proofs.Incidents
import Mathlib.Algebra.GroupWithZero.Nat
import Mathlib.Logic.Relation

/-!
# Attempts at a body

A body whose source refuses it, or panics, stays as it is, and the next attempt asks the source again.
The first answer is kept, and from then on the source is not asked any more, whatever comes of the
invocations. One that does not come to its engine leaves its context as it was.
-/

namespace BodyCall

open Eval

/-! ## Which bodies the incidents are about -/

/-- The body that is being made ready when an incident happens. -/
def Incident.subject : Incident → Option Body
  | asked b | installed b _ _ | overtaken b => some b
  | _ => none

theorem Incident.asking_subject {b : Body} {x : Incident} (asks : x.asking = some b) :
    x.subject = some b := by
  cases x with
  | asked b' => exact asks
  | _ => cases asks

theorem Incident.installation_subject {id : Nat} {seq : Sequence} {x : Incident}
    (installs : x.installation = some (id, seq)) (readiness : x.OfReadiness) :
    ∃ b, x.subject = some b ∧ b.id = id := by
  cases x with
  | installed b seq' settings =>
    cases installs
    exact ⟨b, rfl, rfl⟩
  | _ => cases installs

namespace Body

def AsksFor (source : Scope → Nat → Store → Lowering) (b b' : Body) : Prop :=
  ∃ n st setup, (b', setup) ∈ (source b.scope n st).reentries

/-- However far its requests lead, the source of a body does not come back to it. -/
def NeverReturns (source : Scope → Nat → Store → Lowering) (b : Body) : Prop :=
  ∀ b', Relation.TransGen (AsksFor source) b b' → b'.id ≠ b.id

end Body

variable {source : Scope → Nat → Store → Lowering} {depth : Nat}

namespace Eval

theorem readyChronicle_subject {b : Body} {settings : Settings} {s : State} {x : Incident}
    (among : x ∈ readyChronicle source depth b settings s) {b' : Body}
    (subject : x.subject = some b') : Relation.ReflTransGen (Body.AsksFor source) b b' := by
  induction depth generalizing b settings s with
  | zero => cases among
  | succ depth ih =>
    rcases mem_readyChronicle among with (rfl | ⟨r, rfl⟩ | ⟨seq, rfl⟩ | rfl) |
      ⟨n, st, b₁, setup, s₁, asked, inside⟩
    · cases subject
      exact .refl
    · cases subject
    · cases subject
      exact .refl
    · cases subject
      exact .refl
    · exact .head ⟨n, st, setup, asked⟩ (ih inside)

theorem reentries_subject {b : Body} (never : b.NeverReturns source) {n : Nat} {st : Store}
    {s : State} {x : Incident} (among : x ∈ reentriesChronicle (readyAt source depth)
      (readyChronicle source depth) (source b.scope n st).reentries s)
    {b' : Body} (subject : x.subject = some b') : b'.id ≠ b.id := by
  rcases mem_reentriesChronicle among with ⟨r, rfl⟩ | ⟨b₁, setup, s₁, asked, inside⟩
  · cases subject
  · exact never b' (.head' ⟨n, st, setup, asked⟩ (readyChronicle_subject inside subject))

theorem thenChronicle_filterMap {α β : Type} {f : Incident → Option β} {first : Chronicle}
    {x : Eval α} {next : α → Chronicle} {s : State}
    (none : ∀ a s', (next a s').filterMap f = []) :
    (thenChronicle first x next s).filterMap f = (first s).filterMap f := by
  unfold thenChronicle
  rw [List.filterMap_append]
  split
  next => rw [none, List.append_nil]
  next => rw [List.filterMap_nil, List.append_nil]

theorem reentries_of_readiness {n : Nat} {st : Store} {s : State} {scope : Scope} {x : Incident}
    (among : x ∈ reentriesChronicle (readyAt source depth) (readyChronicle source depth)
      (source scope n st).reentries s) : x.OfReadiness := by
  rcases mem_reentriesChronicle among with ⟨r, rfl⟩ | ⟨b, setup, s₁, -, inside⟩
  · trivial
  · exact ready_of_readiness source depth _ _ _ x inside

end Eval

theorem Chronicled.sequence? {s s' : State} {l : List Incident} (h : Chronicled s l s') (b : Body)
    (untouched : ∀ x ∈ l, ∀ seq, x.installation ≠ some (b.id, seq)) :
    s'.store.sequence? b = s.store.sequence? b := by
  have absent : (⟨l.filterMap Incident.installation⟩ : Table Nat Sequence).get? b.id = none := by
    refine (Table.get?_eq_none_iff _ _).mpr fun among => ?_
    obtain ⟨e, within, same⟩ := List.mem_map.mp among
    obtain ⟨x, member, installs⟩ := List.mem_filterMap.mp within
    exact untouched x member e.2 (installs.trans (congrArg some (Prod.ext same rfl)))
  have lookup := congrArg (Table.lookup b.id) h.installed
  rw [Table.lookup_append] at lookup
  have same := lookup.trans (congrArg (Option.or _) absent)
  rw [Option.or_none] at same
  exact same

/-! ## One attempt -/

namespace Body

variable {b : Body} {c : Call} {block : Block} {s s₁ : State} {settings : Settings}

theorem lower_leaves (never : b.NeverReturns source) (absent : s.store.sequence? b = none) :
    (lower source (readyAt source depth) b.scope s).2.store.sequence? b = none := by
  have lowered : Chronicled s
      (askingChronicle source (readyAt source depth) (readyChronicle source depth) b s)
      (lower source (readyAt source depth) b.scope s).2 :=
    lower_chronicled (readyAt_chronicled source depth) b s
  refine (lowered.sequence? b ?_).trans absent
  intro x among seq installs
  rcases List.mem_cons.mp among with rfl | inside
  · cases installs
  · obtain ⟨b', subject, same⟩ :=
      Incident.installation_subject installs (reentries_of_readiness inside)
    exact reentries_subject never inside subject same

/-- The source of a body that is not ready is the first to be asked, and is asked once. -/
theorem asks_once (never : b.NeverReturns source) (absent : s.store.sequence? b = none) :
    ∃ others, (readyChronicle source (depth + 1) b settings s).filterMap Incident.asking =
      b :: others ∧ ∀ b' ∈ others, b'.id ≠ b.id := by
  have installs : ∀ seq s', (installChronicle b seq settings s').filterMap Incident.asking = [] := by
    intro seq s'
    unfold installChronicle
    split <;> rfl
  let others := (reentriesChronicle (readyAt source depth) (readyChronicle source depth)
    (source b.scope (s.store.loweringCount b.scope) s.store).reentries
    (s.asked b.scope)).filterMap Incident.asking
  refine ⟨others, ?_, fun b' asked => ?_⟩
  · unfold readyChronicle
    rw [absent]
    exact thenChronicle_filterMap installs
  · obtain ⟨x, among, asks⟩ := List.mem_filterMap.mp asked
    exact reentries_subject never among (Incident.asking_subject asks)

theorem asks_never {seq : Sequence} (found : s.store.sequence? b = some seq) :
    readyChronicle source (depth + 1) b settings s = [] := by
  unfold readyChronicle
  rw [found]

theorem readyAt_refuses {reason : String} (absent : s.store.sequence? b = none)
    (lowering : lower source (readyAt source depth) b.scope s =
      (some (.ok (.error reason)), s₁)) :
    readyAt source (depth + 1) b settings s =
      (some (.failed ⟨.materialization b.scope.text reason, none⟩), s₁) := by
  rw [readyAt_absent absent, bind_of_failed (prepare_refused lowering)]

theorem readyAt_panics {t : String} (absent : s.store.sequence? b = none)
    (lowering : lower source (readyAt source depth) b.scope s = (some (.panicked t), s₁)) :
    readyAt source (depth + 1) b settings s = (some (.panicked t), s₁) := by
  have prepared : prepare source (readyAt source depth) b.scope b.handle s =
      (some (.panicked t), s₁) := bind_of_panicked lowering
  rw [readyAt_absent absent, bind_of_panicked prepared]

theorem readyAt_cut (absent : s.store.sequence? b = none)
    (lowering : lower source (readyAt source depth) b.scope s = (none, s₁)) :
    readyAt source (depth + 1) b settings s = (none, s₁) := by
  have prepared : prepare source (readyAt source depth) b.scope b.handle s = (none, s₁) :=
    bind_of_none lowering
  rw [readyAt_absent absent, bind_of_none prepared]

theorem readyAt_succeeds {l : Lowered} (absent : s.store.sequence? b = none)
    (lowering : lower source (readyAt source depth) b.scope s = (some (.ok (.ok l)), s₁)) :
    ∃ seq s₂, readyAt source (depth + 1) b settings s = (some (.ok seq), s₂) := by
  obtain ⟨seq, s₂, installed, -⟩ := install_run b (preparedFrom s₁.store b.scope b.handle l)
    settings s₁.numbered
  refine ⟨seq, s₂, ?_⟩
  rw [readyAt_absent absent, bind_of_ok (prepare_answered lowering)]
  exact installed

end Body

/-! ## Invocations that do not come to their engine -/

theorem State.Alike.context {s s' : State} (h : s.Alike s')
    (backtrace : s'.context.backtrace = s.context.backtrace)
    (frames : s'.context.frames = s.context.frames) : s'.context = s.context := by
  obtain ⟨-, line, settings⟩ := h
  obtain ⟨⟨_, _, _, _⟩, _, _⟩ := s
  obtain ⟨⟨_, _, _, _⟩, _, _⟩ := s'
  cases line
  cases settings
  cases backtrace
  cases frames
  rfl

namespace Body

variable {b : Body} {c : Call} {block : Block} {s s₁ : State} {seq : Sequence} {label : String}

theorem under_gone (b : Body) (c : Call) (block : Block) (label : String)
    (room : s.Admits seq.explicit) :
    (b.under c block label seq s (failHere .engineDropped)).2.context = s.context ∧
      (b.under c block label seq s (failHere .engineDropped)).2.store = s.store := by
  have run : (failHere .engineDropped : Eval Value) (b.opened c block label seq s) =
      (some (.failed _), b.opened c block label seq s) := rfl
  obtain ⟨s', ended, backtrace, frames⟩ := under_ended room run rfl rfl
  have closed := under_closed room run rfl rfl
  rw [ended] at closed
  cases closed
  have alike := (b.alike_opened c block label seq s).trans (State.alike_closed _ seq.explicit)
  rw [ended]
  exact ⟨alike.context backtrace frames, alike.store⟩

theorem holds_of_stopped
    (ready : readyAt source (depth + 1) b s.context.settings (b.announced c s) = (some (.ok seq), s₁))
    (never : ¬ ∃ seq label st, b.ComesToEngine source depth s seq label st) :
    ∃ result, b.Holds source depth c block s (.ended result) ∧ result.2.context = s₁.context ∧
      result.2.store = s₁.store := by
  rcases s₁.admits_or_refuses seq.explicit with room | ⟨generic, max, limit⟩
  · cases kind : b.scope.label? with
    | none =>
      let panicking : Eval Value := Eval.panic ("invalid body method type: " ++ b.scope.text)
      have panics : withProtocol seq.explicit (b.frame c block) panicking s₁ = _ :=
        withProtocol_unframed room rfl rfl
      refine ⟨_, holds_of_invalid ready kind, ?_⟩
      rw [panics]
      cases seq.explicit <;> exact ⟨rfl, rfl⟩
    | some label =>
      cases alive : s₁.store.reaches seq.handle with
      | true =>
        have obtains : b.Obtains source depth s seq s₁.store := obtains_iff.mpr ⟨s₁, ready, rfl⟩
        have admits : s.Admits seq.explicit := by
          rw [State.Admits, ← ready_context ready]
          exact room
        exact absurd ⟨seq, label, s₁.store, obtains, alive, kind, admits⟩ never
      | false => exact ⟨_, holds_of_gone ready room kind alive, under_gone b c block label room⟩
  · exact ⟨_, holds_of_refused ready generic limit, rfl, rfl⟩

/-- An invocation that does not come to its engine goes the same way whatever the engines are, and
leaves its context as it was. A sequence that it has obtained stays. -/
theorem invoke_stopped (source : Scope → Nat → Store → Lowering) (depth : Nat) (b : Body) (c : Call)
    (block : Block) (s : State)
    (never : ¬ ∃ seq label st, b.ComesToEngine source depth s seq label st) :
    ∃ result, b.Holds source depth c block s (.ended result) ∧ result.2.context = s.context ∧
      ∀ seq st, b.Obtains source depth s seq st → result.2.store.sequence? b = some seq := by
  rcases ready : readyAt source (depth + 1) b s.context.settings (b.announced c s) with ⟨o, s₁⟩
  have same : s₁.context = s.context := ready_context ready
  by_cases obtained : ∃ seq, o = some (.ok seq)
  · obtain ⟨seq, rfl⟩ := obtained
    obtain ⟨result, holds, context, store⟩ : ∃ result, b.Holds source depth c block s (.ended result) ∧
        result.2.context = s₁.context ∧ result.2.store = s₁.store := holds_of_stopped ready never
    refine ⟨result, holds, context.trans same, fun seq' st obtains => ?_⟩
    obtain ⟨own, -⟩ := obtains.answer ready
    cases own
    rw [store]
    exact readyAt_run ready
  · have unready : ∀ seq, o ≠ some (.ok seq) := fun seq is => obtained ⟨seq, is⟩
    obtain ⟨result, holds⟩ : ∃ result, b.Holds source depth c block s (.ended (result, s₁)) :=
      holds_of_unready ready unready
    refine ⟨(result, s₁), holds, same, fun seq st obtains => ?_⟩
    exact absurd (obtains.answer ready).1 (unready seq)

end Body

/-! ## Histories of attempts -/

/-- What a body can be used for, with the settings of the request if it is only made ready. -/
inductive Use where
  | invocation (c : Call) (block : Block)
  | request (settings : Settings)

/-- A use of a body with the state that it starts from, up to some depth of calls. -/
structure Attempt where
  use : Use
  depth : Nat
  start : State

abbrev Body.Keeping (b : Body) : Passage :=
  fun s _ s' => ∀ seq, s.store.sequence? b = some seq → s'.store.sequence? b = some seq

theorem Body.keeping_stepwise (b : Body) : Stepwise b.Keeping where
  refl _ _ _ found := found
  trans h h' seq found := h' seq (h seq found)
  told _ _ _ _ found := found
  line _ _ _ found := found
  stored _ _ step := step.before.installed b
  moved _ _ _ _ _ found := found

/-- Engines do nothing to the sequence of a body if the calls that they make do not. -/
def Env.Spares (env : Env) (b : Body) : Prop :=
  ∀ r : Reach, r.Keeps b.Keeping → ∀ engine i seq, Eval.Keeps b.Keeping (env.engine r engine i seq)

namespace Attempt

section

variable (env : Env) (b : Body) (a : Attempt)

def settings : Settings :=
  match a.use with
  | .invocation .. => a.start.context.settings
  | .request settings => settings

/-- The state in which the body is made ready. -/
def begun : State :=
  match a.use with
  | .invocation c _ => b.announced c a.start
  | .request _ => a.start

def ready : Option (Outcome Sequence) × State :=
  readyAt env.source (a.depth + 1) b a.settings (a.begun b)

def after : State :=
  match a.use with
  | .invocation c block => (b.invoke (env.reach (a.depth + 1)) c block a.start).2
  | .request _ => (a.ready env b).2

def lowering : Option (Outcome (Except String Lowered)) × State :=
  lower env.source (readyAt env.source a.depth) b.scope (a.begun b)

def succeeds : Bool :=
  match (a.lowering env b).1 with
  | some (.ok (.ok _)) => true
  | _ => false

/-- The bodies whose sources are asked while this one is made ready, in order. -/
def asked : List Body :=
  (readyChronicle env.source (a.depth + 1) b a.settings (a.begun b)).filterMap Incident.asking

def lowerings : Nat := (a.asked env b).countP (·.id = b.id)

/-- The attempt ends without a value, and no engine is called on the way. -/
def EndsUnasked (o : ∀ α : Type, Outcome α) : Prop :=
  match a.use with
  | .invocation c block =>
    ∃ s', b.Holds env.source a.depth c block a.start (.ended (some (o Value), s'))
  | .request _ => ∃ s', a.ready env b = (some (o Sequence), s')

end

variable {env : Env} {b : Body} {a : Attempt}

theorem begun_store (b : Body) (a : Attempt) : (a.begun b).store = a.start.store := by
  unfold begun
  split
  next c block _ => exact b.announced_store c a.start
  next => rfl

theorem ready_invoked {c : Call} {block : Block} (use : a.use = .invocation c block) :
    readyAt env.source (a.depth + 1) b a.start.context.settings (b.announced c a.start) =
      a.ready env b := by
  unfold ready settings begun
  rw [use]

theorem after_ready (spares : env.Spares b) {seq : Sequence} {s' : State}
    (ready : a.ready env b = (some (.ok seq), s')) :
    (a.after env b).store.sequence? b = some seq := by
  have installed : s'.store.sequence? b = some seq := readyAt_run ready
  have w := b.keeping_stepwise
  have reach := Env.reach_keeps w.toQuiet spares (a.depth + 1)
  unfold after
  split
  next c block use =>
    have made : readyAt env.source (a.depth + 1) b a.start.context.settings
        (b.announced c a.start) = (some (.ok seq), s') := (ready_invoked use).trans ready
    have entered : b.invoke (env.reach (a.depth + 1)) c block a.start =
        withProtocol seq.explicit (b.frame c block)
          (b.dispatch (env.reach (a.depth + 1)) c seq block) s' :=
      Body.enter_of_ready made env.engine
    rw [entered]
    exact w.guarded.withProtocol _ _ _ (b.dispatch_keeps w.guarded reach c seq block) s' seq
      installed
  next =>
    rw [ready]
    exact installed

theorem after_unready {o : Option (Outcome Sequence)} {s' : State}
    (ready : a.ready env b = (o, s')) (unready : ∀ seq, o ≠ some (.ok seq)) :
    a.after env b = s' := by
  unfold after
  split
  next c block use =>
    obtain ⟨result, holds⟩ :
        ∃ result, b.Holds env.source a.depth c block a.start (.ended (result, s')) :=
      Body.holds_of_unready ((ready_invoked use).trans ready) unready
    exact congrArg Prod.snd (holds env.engine)
  next => rw [ready]

theorem asked_told (env : Env) (b : Body) (a : Attempt) :
    askedScopes ((a.ready env b).2.since (a.begun b)) =
      ((a.asked env b).map (·.scope)).reverse :=
  (readyAt_chronicled env.source (a.depth + 1) b a.settings (a.begun b)).asked

theorem lowerings_once {others : List Body} (asked : a.asked env b = b :: others)
    (apart : ∀ b' ∈ others, b'.id ≠ b.id) : a.lowerings env b = 1 := by
  have none : others.countP (·.id = b.id) = 0 :=
    List.countP_eq_zero.mpr fun b' among same => apart b' among (of_decide_eq_true same)
  rw [lowerings, asked, List.countP_cons, none]
  simp

theorem found (spares : env.Spares b) {seq : Sequence}
    (found : a.start.store.sequence? b = some seq) :
    a.asked env b = [] ∧ (a.after env b).store.sequence? b = some seq := by
  have begun : (a.begun b).store.sequence? b = some seq := by
    rw [Store.sequence?, begun_store]
    exact found
  have ready : a.ready env b = (some (.ok seq), a.begun b) := readyAt_found begun
  refine ⟨?_, after_ready spares ready⟩
  rw [asked, Body.asks_never begun]
  rfl

theorem absent (never : b.NeverReturns env.source) (spares : env.Spares b)
    (absent : a.start.store.sequence? b = none) :
    (∃ others, a.asked env b = b :: others ∧ ∀ b' ∈ others, b'.id ≠ b.id) ∧
      ((a.after env b).store.sequence? b = none ↔ a.succeeds env b = false) := by
  have begun : (a.begun b).store.sequence? b = none := by
    rw [Store.sequence?, begun_store]
    exact absent
  have left : (lower env.source (readyAt env.source a.depth) b.scope
      (a.begun b)).2.store.sequence? b = none := Body.lower_leaves never begun
  refine ⟨Body.asks_once never begun, ?_⟩
  unfold succeeds lowering
  rcases run : lower env.source (readyAt env.source a.depth) b.scope (a.begun b) with
    ⟨_ | ⟨reason | l⟩ | f | t, s'⟩ <;> rw [run] at left
  · rw [after_unready (Body.readyAt_cut begun run) (by simp)]
    simp [left]
  · rw [after_unready (Body.readyAt_refuses begun run) (by simp)]
    simp [left]
  · obtain ⟨seq, s₂, ready⟩ : ∃ seq s₂, a.ready env b = (some (.ok seq), s₂) :=
      Body.readyAt_succeeds begun run
    simp [after_ready spares ready]
  · exact absurd run (lower_unfailing _ _ _ _)
  · rw [after_unready (Body.readyAt_panics begun run) (by simp)]
    simp [left]

theorem ends_unasked (absent : a.start.store.sequence? b = none) :
    (∀ reason s', a.lowering env b = (some (.ok (.error reason)), s') →
      a.EndsUnasked env b fun _ => .failed ⟨.materialization b.scope.text reason, none⟩) ∧
    ∀ t s', a.lowering env b = (some (.panicked t), s') →
      a.EndsUnasked env b fun _ => .panicked t := by
  have begun : (a.begun b).store.sequence? b = none := by
    rw [Store.sequence?, begun_store]
    exact absent
  constructor
  · intro reason s' lowering
    have refused : a.ready env b =
        (some (.failed ⟨.materialization b.scope.text reason, none⟩), s') :=
      Body.readyAt_refuses begun lowering
    unfold EndsUnasked
    split
    next use => exact ⟨s', Body.holds_of_failed ((ready_invoked use).trans refused)⟩
    next => exact ⟨s', refused⟩
  · intro t s' lowering
    have broken : a.ready env b = (some (.panicked t), s') := Body.readyAt_panics begun lowering
    unfold EndsUnasked
    split
    next use => exact ⟨s', Body.holds_of_panicked ((ready_invoked use).trans broken)⟩
    next => exact ⟨s', broken⟩

end Attempt

/-- The states that a history of attempts at a body leads to, if the body is not ready at first. Each
attempt starts from any context. In between, all may change but whether the body is ready. -/
inductive Attempts (env : Env) (b : Body) : List Attempt → State → Prop where
  | start {s : State} (absent : s.store.sequence? b = none) : Attempts env b [] s
  | attempt {as : List Attempt} {s : State} (attempts : Attempts env b as s) (use : Use)
      (depth : Nat) (context : Context) :
      Attempts env b (as ++ [⟨use, depth, { s with context }⟩])
        (Attempt.after env b ⟨use, depth, { s with context }⟩)
  | meanwhile {as : List Attempt} {s s' : State} (attempts : Attempts env b as s)
      (same : s'.store.sequence? b = s.store.sequence? b) : Attempts env b as s'

/-- The position of the first attempt at which the source of the body answers, or their number if it
never does. -/
def firstSuccess (env : Env) (b : Body) (as : List Attempt) : Nat :=
  as.findIdx (·.succeeds env b)

theorem firstSuccess_concat (env : Env) (b : Body) (as : List Attempt) (a : Attempt) :
    firstSuccess env b (as ++ [a]) =
      if firstSuccess env b as < as.length then firstSuccess env b as
      else (if a.succeeds env b then 0 else 1) + as.length := by
  rw [firstSuccess, List.findIdx_append]
  cases here : a.succeeds env b <;> simp [firstSuccess, List.findIdx_cons, here]

theorem le_firstSuccess_concat (env : Env) (b : Body) (as : List Attempt) (a : Attempt) {i : Nat}
    (within : i ≤ as.length) :
    i ≤ firstSuccess env b (as ++ [a]) ↔ i ≤ firstSuccess env b as := by
  have bounded : firstSuccess env b as ≤ as.length := List.findIdx_le_length
  rw [firstSuccess_concat]
  split <;> omega

structure Retried (env : Env) (b : Body) (as : List Attempt) : Prop where
  total : (as.map (·.lowerings env b)).sum = min as.length (firstSuccess env b as + 1)
  each : ∀ i (h : i < as.length),
    as[i].lowerings env b = if i ≤ firstSuccess env b as then 1 else 0
  /-- Up to the first success the source of the body is asked before any other, and later on no source
  is asked for the body. -/
  asked : ∀ i (h : i < as.length),
    (i ≤ firstSuccess env b as →
      ∃ others, as[i].asked env b = b :: others ∧ ∀ b' ∈ others, b'.id ≠ b.id) ∧
    (firstSuccess env b as < i → as[i].asked env b = [])
  /-- The sources are asked for the scopes of these bodies, one after the other. -/
  told : ∀ a ∈ as, askedScopes ((a.ready env b).2.since (a.begun b)) =
    ((a.asked env b).map (·.scope)).reverse
  unready : ∀ i (h : i < as.length), i ≤ firstSuccess env b as →
    (∀ reason s', as[i].lowering env b = (some (.ok (.error reason)), s') →
      as[i].EndsUnasked env b fun _ => .failed ⟨.materialization b.scope.text reason, none⟩) ∧
    ∀ t s', as[i].lowering env b = (some (.panicked t), s') →
      as[i].EndsUnasked env b fun _ => .panicked t
  /-- Once the body is ready, no request for it does anything any more, from wherever it comes. -/
  ready : ∀ s seq, s.store.sequence? b = some seq → ∀ depth settings,
    readyAt env.source (depth + 1) b settings s = (some (.ok seq), s)
  /-- An invocation that does not come to its engine leaves its context as it was, and what it has
  obtained. -/
  stopped : ∀ a ∈ as, ∀ c block, a.use = .invocation c block →
    (¬ ∃ seq label st, b.ComesToEngine env.source a.depth a.start seq label st) →
    ∃ result, b.Holds env.source a.depth c block a.start (.ended result) ∧
      result.2.context = a.start.context ∧
      ∀ seq st, b.Obtains env.source a.depth a.start seq st →
        result.2.store.sequence? b = some seq

theorem sum_of_ones {l : List Nat} {k : Nat}
    (each : ∀ i (h : i < l.length), l[i] = if i < k then 1 else 0) : l.sum = min l.length k := by
  induction l generalizing k with
  | nil => simp
  | cons x rest ih =>
    have first : x = if 0 < k then 1 else 0 := each 0 (by simp)
    have others : ∀ i (h : i < rest.length), rest[i] = if i < k - 1 then 1 else 0 := by
      intro i h
      have here : rest[i] = if i + 1 < k then 1 else 0 := each (i + 1) (by simpa using h)
      rw [here]
      split <;> split <;> omega
    rw [List.sum_cons, ih others, first, List.length_cons]
    split <;> omega

namespace Attempts

variable {env : Env} {b : Body} {as : List Attempt} {s : State}

theorem started (never : b.NeverReturns env.source) (spares : env.Spares b)
    (attempts : Attempts env b as s) :
    (s.store.sequence? b = none ↔ firstSuccess env b as = as.length) ∧
      ∀ i (h : i < as.length),
        as[i].start.store.sequence? b = none ↔ i ≤ firstSuccess env b as := by
  induction attempts with
  | start absent => exact ⟨by simp [absent, firstSuccess], by simp⟩
  | meanwhile attempts same ih => exact ⟨by rw [same]; exact ih.1, ih.2⟩
  | @attempt as s attempts use depth context ih =>
    let a : Attempt := ⟨use, depth, { s with context }⟩
    have start : a.start.store.sequence? b = s.store.sequence? b := rfl
    have length : (as ++ [a]).length = as.length + 1 := by simp
    have bounded : firstSuccess env b as ≤ as.length := List.findIdx_le_length
    obtain ⟨now, before⟩ := ih
    refine ⟨?_, fun i h => ?_⟩
    · rw [length, firstSuccess_concat]
      cases ready : s.store.sequence? b with
      | none =>
        obtain ⟨-, after⟩ := Attempt.absent never spares (start.trans ready)
        rw [after, now.mp ready, if_neg (Nat.lt_irrefl _)]
        cases a.succeeds env b
        · simp
          omega
        · simp
      | some seq =>
        obtain ⟨-, after⟩ := Attempt.found spares (start.trans ready)
        have earlier : firstSuccess env b as < as.length := by
          refine Nat.lt_of_le_of_ne bounded fun last => ?_
          rw [now.mpr last] at ready
          cases ready
        rw [after, if_pos earlier]
        exact ⟨nofun, fun last => by omega⟩
    · have reached : i ≤ as.length := Nat.le_of_lt_succ (Nat.lt_of_lt_of_eq h length)
      rw [le_firstSuccess_concat env b as a reached]
      rcases Nat.lt_or_eq_of_le reached with earlier | rfl
      · rw [List.getElem_append_left earlier]
        exact before i earlier
      · rw [List.getElem_concat_length rfl, start, now]
        exact ⟨fun last => Nat.le_of_eq last.symm, Nat.le_antisymm bounded⟩

/-- In any history of attempts at a body that no source on the way comes back to, the source of the
body is asked once in each attempt up to the first success, and never again. Each lowering that does
not succeed ends its attempt, and an invocation that does not come to its engine leaves its context
as it was. -/
theorem retried (never : b.NeverReturns env.source) (spares : env.Spares b)
    (attempts : Attempts env b as s) : Retried env b as := by
  obtain ⟨-, started⟩ := attempts.started never spares
  have asked : ∀ i (h : i < as.length),
      (i ≤ firstSuccess env b as →
        ∃ others, as[i].asked env b = b :: others ∧ ∀ b' ∈ others, b'.id ≠ b.id) ∧
      (firstSuccess env b as < i → as[i].asked env b = []) := by
    intro i h
    refine ⟨fun before => (Attempt.absent never spares ((started i h).mpr before)).1, fun after => ?_⟩
    cases ready : as[i].start.store.sequence? b with
    | none =>
      have before := (started i h).mp ready
      omega
    | some seq => exact (Attempt.found spares ready).1
  have each : ∀ i (h : i < as.length),
      as[i].lowerings env b = if i ≤ firstSuccess env b as then 1 else 0 := by
    intro i h
    obtain ⟨first, later⟩ := asked i h
    split
    next before =>
      obtain ⟨others, here, apart⟩ := first before
      exact Attempt.lowerings_once here apart
    next after =>
      rw [Attempt.lowerings, later (Nat.lt_of_not_le after)]
      rfl
  refine ⟨?_, each, asked, fun a _ => a.asked_told env b, ?_,
    fun s seq found depth settings => readyAt_found found, ?_⟩
  · have ones : ∀ i (h : i < (as.map (·.lowerings env b)).length),
        (as.map (·.lowerings env b))[i] = if i < firstSuccess env b as + 1 then 1 else 0 := by
      intro i h
      rw [List.getElem_map, each i (by simpa using h)]
      split <;> split <;> omega
    rw [sum_of_ones ones, List.length_map]
  · intro i h before
    exact Attempt.ends_unasked ((started i h).mpr before)
  · intro a _ c block _ stopped
    exact Body.invoke_stopped env.source a.depth b c block a.start stopped

/-- A source refuses at first, then panics, and then answers. The fourth attempt finds the body
ready. -/
theorem third_answer_retried :
    let m : Module := .top 0 "Widget" .classLike
    let b : Body := ⟨0, ⟨0, .classBody, "Widget", "widget.rb", 2⟩, m, ⟨0, true⟩⟩
    let env : Env :=
      { source := fun _ n _ =>
          ⟨[], if n = 0 then .answered (.error "not yet") else if n = 1 then .panicked "lost"
            else .answered (.ok ⟨[], false⟩)⟩
        engine := fun _ _ _ _ => pure .nil }
    ∃ as s, Attempts env b as s ∧ as.length = 4 ∧ firstSuccess env b as = 2 ∧
      as.map (·.lowerings env b) = [1, 1, 1, 0] ∧ (as.map (·.lowerings env b)).sum = 3 := by
  intro m b env
  let context : Context := ⟨{}, 0, [], []⟩
  let call : Use := .invocation ⟨none, .object m, m, ""⟩ .absent
  have never : b.NeverReturns env.source := by
    intro b' way
    obtain ⟨b₁, first, -⟩ := Relation.TransGen.head'_iff.mp way
    obtain ⟨n, st, setup, among⟩ := first
    cases among
  have spares : env.Spares b := fun _ _ _ _ _ =>
    .pure b.keeping_stepwise.toChained _
  have start : Attempts env b [] ⟨context, {}, []⟩ := .start rfl
  have history := (((start.attempt (.request {}) 0 context).attempt call 0 context).attempt call 0
    context).attempt call 0 context
  obtain ⟨as, s, attempts, length, first, each⟩ : ∃ as s, Attempts env b as s ∧ as.length = 4 ∧
      firstSuccess env b as = 2 ∧ as.map (·.lowerings env b) = [1, 1, 1, 0] :=
    ⟨_, _, history, rfl, by decide +kernel, by decide +kernel⟩
  have retried := attempts.retried never spares
  refine ⟨as, s, attempts, length, first, each, ?_⟩
  rw [retried.total, length, first]
  rfl

end Attempts

end BodyCall
