import BodyCall.Proofs.Backstage
import BodyCall.Proofs.GuardTrees
import BodyCall.Proofs.Ready

/-!
# Calls of engines

What an invocation asks of its engine, whatever the engine is. All that an invocation does can be
written down as a dialogue, which says what it would go on to do for each answer; the engines only
come in when the dialogue is held. So what a dialogue has in it is what an invocation asks.
-/

namespace BodyCall

open Eval

/-- What the engines of a system do with the sequences that they are called with. -/
abbrev Engines : Type := Nat → Invocation → Sequence → Eval Value

structure EngineCall where
  engine : Nat
  invocation : Invocation
  sequence : Sequence
  state : State

def EngineCall.answer (call : EngineCall) (engines : Engines) : Option (Outcome Value) × State :=
  engines call.engine call.invocation call.sequence call.state

inductive Dialogue where
  | ended (result : Option (Outcome Value) × State)
  | calling (call : EngineCall) (next : Option (Outcome Value) × State → Dialogue)

namespace Dialogue

def run (engines : Engines) : Dialogue → Option (Outcome Value) × State
  | ended result => result
  | calling call next => (next (call.answer engines)).run engines

def calls (engines : Engines) : Dialogue → List EngineCall
  | ended _ => []
  | calling call next => call :: (next (call.answer engines)).calls engines

end Dialogue

/-- The engines leave both stacks as they found them, and return, fail or panic. -/
def Engines.Restore (engines : Engines) : Prop :=
  ∀ engine i seq s, ∃ o s', engines engine i seq s = (some o, s') ∧
    s'.context.backtrace = s.context.backtrace ∧ s'.context.frames = s.context.frames

def State.numbered (s : State) : State :=
  { s with store := { s.store with nextSequence := s.store.nextSequence + 1 } }

namespace Body

/-- The sequence that a body comes to have when it is invoked, and the store by then. -/
inductive Obtains (source : Scope → Nat → Store → Lowering) (depth : Nat) (b : Body) (s : State) :
    Sequence → Store → Prop where
  | cached {seq : Sequence} (found : s.store.sequence? b = some seq) :
      Obtains source depth b s seq s.store
  | lowered {l : Lowered} {s' : State} (absent : s.store.sequence? b = none)
      (lowering : lower source (readyAt source depth) b.scope s = (some (.ok (.ok l)), s'))
      (vacant : s'.store.sequence? b = none) :
      Obtains source depth b s (preparedFrom s'.store b.scope b.handle l)
        (s'.numbered.store.install b (preparedFrom s'.store b.scope b.handle l))
  /-- While the scope was lowered, another request for the body was served. -/
  | overtaken {l : Lowered} {s' : State} {winner : Sequence} (absent : s.store.sequence? b = none)
      (lowering : lower source (readyAt source depth) b.scope s = (some (.ok (.ok l)), s'))
      (taken : s'.store.sequence? b = some winner) :
      Obtains source depth b s winner s'.numbered.store

/-- All that it takes for an invocation to come to its engine. -/
structure ComesToEngine (source : Scope → Nat → Store → Lowering) (depth : Nat) (b : Body)
    (s : State) (seq : Sequence) (label : String) (st : Store) : Prop where
  sequence : b.Obtains source depth s seq st
  alive : st.reaches seq.handle = true
  kind : b.scope.label? = some label
  room : s.Admits seq.explicit

/-- How an invocation calls its engine. -/
structure Asks (b : Body) (c : Call) (block : Block) (s : State) (seq : Sequence) (label : String)
    (st : Store) (call : EngineCall) : Prop where
  engine : call.engine = seq.handle.engine
  sequence : call.sequence = seq
  invocation : call.invocation =
    { call := { c with name := label }, tokenClass := c.via, implicitSelf := none, block }
  context : call.state.context = { s.context with
    backtrace := ⟨label, seq.file, s.context.line⟩ :: s.context.backtrace
    frames := if seq.explicit then s.context.frames
      else ⟨b.implementationClass, c.name, c.receiver, block⟩ :: s.context.frames }
  store : call.state.store = { st with running := seq.handle.engine :: st.running }

end Body

/-! ## Where a computation is looked at -/

namespace Eval

variable {α β : Type} {x y : Eval α} {s : State}

theorem bind_congr (k : α → Eval β) (h : x s = y s) : (x >>= k) s = (y >>= k) s := by
  change andThen x k s = andThen y k s
  rw [andThen, andThen, h]

theorem attempt_congr (h : x s = y s) : attempt x s = attempt y s := by
  rw [attempt, attempt, h]

theorem ensuring_congr (cleanup : Eval Unit) (h : x s = y s) :
    ensuring x cleanup s = ensuring y cleanup s := bind_congr _ (attempt_congr h)

theorem holding_congr (engine : Nat) (h : x (s.held engine) = y (s.held engine)) :
    holding engine x s = holding engine y s := ensuring_congr _ h

theorem withBacktrace_congr (e : Entry) (h : x (s.entered e) = y (s.entered e)) :
    withBacktrace e x s = withBacktrace e y s :=
  ensuring_congr _ (bind_congr _ (attempt_congr h))

theorem withProtocol_congr {explicit : Bool} {f : Frame} (room : s.Admits explicit)
    (h : x (s.framed explicit f) = y (s.framed explicit f)) :
    withProtocol explicit f x s = withProtocol explicit f y s := by
  cases explicit with
  | true => exact h
  | false =>
    have room : s.context.exceeded? = none := room.resolve_left nofun
    rw [withProtocol_of_pushed room, withProtocol_of_pushed room]
    exact ensuring_congr _ h

end Eval

namespace Body

variable {source : Scope → Nat → Store → Lowering} {depth : Nat} {b : Body} {c : Call}
  {block : Block} {s s₁ : State} {seq : Sequence} {label : String} {st : Store}

/-! ## Readiness -/

theorem Obtains.of_ready {settings : Settings}
    (ready : readyAt source (depth + 1) b settings s = (some (.ok seq), s₁)) :
    b.Obtains source depth s seq s₁.store := by
  cases found : s.store.sequence? b with
  | some seq' =>
    rw [readyAt_found found] at ready
    cases ready
    exact .cached found
  | none =>
    rw [readyAt_absent found] at ready
    obtain ⟨own, s₂, prepared, -⟩ := bind_ok ready
    obtain ⟨answer, s', lowering, finished⟩ := bind_ok prepared
    cases answer with
    | error reason => cases finished
    | ok l =>
      have prepared : prepare source (readyAt source depth) b.scope b.handle s =
          (some (.ok (preparedFrom s'.store b.scope b.handle l)), s'.numbered) :=
        prepare_answered lowering
      rw [bind_of_ok prepared] at ready
      cases there : s'.numbered.store.sequence? b with
      | some winner =>
        rw [install_found there] at ready
        cases ready
        exact .overtaken found lowering there
      | none =>
        obtain ⟨told, installed⟩ :=
          @install_absent b (preparedFrom s'.store b.scope b.handle l) settings s'.numbered there
        rw [installed] at ready
        cases ready
        exact .lowered found lowering there

theorem Obtains.ready (h : b.Obtains source depth s seq st) (settings : Settings) :
    ∃ s₁, readyAt source (depth + 1) b settings s = (some (.ok seq), s₁) ∧ s₁.store = st := by
  cases h with
  | cached found => exact ⟨s, readyAt_found found, rfl⟩
  | @lowered l s' absent lowering vacant =>
    rw [readyAt_absent absent, bind_of_ok (prepare_answered lowering)]
    have there : s'.numbered.store.sequence? b = none := vacant
    obtain ⟨told, installed⟩ := install_absent there
    exact ⟨_, installed, rfl⟩
  | overtaken absent lowering taken =>
    rw [readyAt_absent absent, bind_of_ok (prepare_answered lowering)]
    exact ⟨_, install_found taken, rfl⟩

theorem obtains_iff : b.Obtains source depth s seq st ↔ ∃ s₁,
    readyAt source (depth + 1) b s.context.settings (b.announced c s) = (some (.ok seq), s₁) ∧
      s₁.store = st := by
  have aside := Backstage.readyAt source (depth + 1) b s.context.settings
  constructor
  · intro h
    obtain ⟨s₁, ready, rfl⟩ := h.ready s.context.settings
    exact aside.elsewhere ready (b.announced_store c s)
  · rintro ⟨s₁, ready, rfl⟩
    obtain ⟨s₂, ready', store⟩ := aside.elsewhere ready (b.announced_store c s).symm
    exact store ▸ .of_ready ready'

theorem Obtains.answer (h : b.Obtains source depth s seq st) {o : Option (Outcome Sequence)}
    (ready : readyAt source (depth + 1) b s.context.settings (b.announced c s) = (o, s₁)) :
    o = some (.ok seq) ∧ st = s₁.store := by
  obtain ⟨s₂, ready', store⟩ := obtains_iff.mp h
  cases ready.symm.trans ready'
  exact ⟨rfl, store.symm⟩

theorem ready_context {o : Option (Outcome Sequence)}
    (ready : readyAt source (depth + 1) b s.context.settings (b.announced c s) = (o, s₁)) :
    s₁.context = s.context := by
  have kept : (readyAt source (depth + 1) b s.context.settings (b.announced c s)).2.context =
      (b.announced c s).context :=
    Keeps.readyAt State.context_aside.preparing (depth + 1) b s.context.settings (b.announced c s)
  rw [ready] at kept
  exact kept.trans (b.announced_context c s)

/-! ## Inside the frame -/

/-- Runs a computation where the engine of a body is called. -/
def under (b : Body) (c : Call) (block : Block) (label : String) (seq : Sequence) (s : State)
    (x : Eval Value) : Option (Outcome Value) × State :=
  withProtocol seq.explicit (b.frame c block) (withBacktrace (entry label seq s) x) s

theorem under_congr (room : s.Admits seq.explicit) {x y : Eval Value}
    (h : x (b.opened c block label seq s) = y (b.opened c block label seq s)) :
    b.under c block label seq s x = b.under c block label seq s y :=
  withProtocol_congr room (withBacktrace_congr _ h)

theorem enter_under (room : s.Admits seq.explicit) (kind : b.scope.label? = some label)
    (r : Reach) : withProtocol seq.explicit (b.frame c block) (b.dispatch r c seq block) s =
      b.under c block label seq s (r.interpret seq.handle (invocation label c block) seq) := by
  refine withProtocol_congr room ?_
  rw [dispatch_run kind, entry_framed]

theorem opened_frames (b : Body) (c : Call) (block : Block) (label : String) (seq : Sequence)
    (s : State) : (b.opened c block label seq s).context.frames =
      if seq.explicit then s.context.frames else b.frame c block :: s.context.frames := by
  unfold opened State.framed
  split <;> rfl

section

variable (room : s.Admits seq.explicit) {x : Eval Value} {o : Outcome Value}
  (run : x (b.opened c block label seq s) = (some o, s₁))
  (backtrace : s₁.context.backtrace = (b.opened c block label seq s).context.backtrace)
  (frames : s₁.context.frames = (b.opened c block label seq s).context.frames)

include room run backtrace frames

theorem under_closed : b.under c block label seq s x = (some (o.mapFailure
    (·.attach (b.opened c block label seq s).context.backtrace)), s₁.closed seq.explicit) :=
  withProtocol_unframed room (withBacktrace_left run backtrace) frames

/-- What comes to an end inside the frame, and leaves both stacks alone, leaves them as they were
outside. -/
theorem under_ended : ∃ s', b.under c block label seq s x = (some (o.mapFailure
      (·.attach (b.opened c block label seq s).context.backtrace)), s') ∧
    s'.context.backtrace = s.context.backtrace ∧ s'.context.frames = s.context.frames := by
  refine ⟨_, under_closed room run backtrace frames, ?_, ?_⟩
  · rw [opened_backtrace] at backtrace
    unfold State.closed State.unframed
    split <;> exact congrArg List.tail backtrace
  · rw [opened_frames] at frames
    unfold State.closed State.unframed
    split
    · next explicit => exact frames.trans (if_pos explicit)
    · next generic => exact congrArg List.tail (frames.trans (if_neg generic))

end

/-! ## The dialogue of an invocation -/

/-- Whatever the engines are, this is the dialogue that the invocation has with them. -/
def Holds (source : Scope → Nat → Store → Lowering) (depth : Nat) (b : Body) (c : Call)
    (block : Block) (s : State) (d : Dialogue) : Prop :=
  ∀ engine : Reach → Engines, b.invoke (Env.reach ⟨source, engine⟩ (depth + 1)) c block s =
    d.run (engine (Env.reach ⟨source, engine⟩ depth))

theorem invoke_from (engine : Reach → Engines) :
    b.invoke (Env.reach ⟨source, engine⟩ depth) c block s =
      (readyAt source depth b s.context.settings >>= fun seq =>
        withProtocol seq.explicit (b.frame c block)
          (b.dispatch (Env.reach ⟨source, engine⟩ depth) c seq block)) (b.announced c s) := by
  have ready : b.sequence (Env.reach ⟨source, engine⟩ depth) (b.announced c s) =
      readyAt source depth b s.context.settings (b.announced c s) := by
    change readyAt source depth b (b.announced c s).context.settings (b.announced c s) = _
    rw [announced_context]
  rw [invoke, bind_of_ok (announce_run b c s)]
  exact bind_congr _ ready

theorem holds_of_failed {f : Failure}
    (ready : readyAt source (depth + 1) b s.context.settings (b.announced c s) =
      (some (.failed f), s₁)) : b.Holds source depth c block s (.ended (some (.failed f), s₁)) :=
  fun engine => (invoke_from engine).trans (bind_of_failed ready)

theorem holds_of_panicked {t : String}
    (ready : readyAt source (depth + 1) b s.context.settings (b.announced c s) =
      (some (.panicked t), s₁)) :
    b.Holds source depth c block s (.ended (some (.panicked t), s₁)) :=
  fun engine => (invoke_from engine).trans (bind_of_panicked ready)

theorem holds_of_cut
    (ready : readyAt source (depth + 1) b s.context.settings (b.announced c s) = (none, s₁)) :
    b.Holds source depth c block s (.ended (none, s₁)) :=
  fun engine => (invoke_from engine).trans (bind_of_none ready)

theorem holds_of_unready {o : Option (Outcome Sequence)}
    (ended : readyAt source (depth + 1) b s.context.settings (b.announced c s) = (o, s₁))
    (unready : ∀ seq, o ≠ some (.ok seq)) :
    ∃ result, b.Holds source depth c block s (.ended (result, s₁)) := by
  rcases o with _ | seq | f | t
  · exact ⟨_, holds_of_cut ended⟩
  · exact absurd rfl (unready seq)
  · exact ⟨_, holds_of_failed ended⟩
  · exact ⟨_, holds_of_panicked ended⟩

section

variable (ready : readyAt source (depth + 1) b s.context.settings (b.announced c s) =
  (some (.ok seq), s₁))

include ready

theorem enter_of_ready (engine : Reach → Engines) :
    b.invoke (Env.reach ⟨source, engine⟩ (depth + 1)) c block s =
      withProtocol seq.explicit (b.frame c block)
        (b.dispatch (Env.reach ⟨source, engine⟩ (depth + 1)) c seq block) s₁ :=
  (invoke_from engine).trans (bind_of_ok ready)

theorem holds_of_refused (generic : seq.explicit = false) {max : Nat}
    (limit : s₁.context.exceeded? = some max) :
    b.Holds source depth c block s (.ended
      (some (.failed (Failure.attach s₁.context.backtrace ⟨.stackOverflow max, none⟩)),
        s₁.move .frameRefused s₁.context.backtrace s₁.context.frames)) := by
  intro engine
  rw [enter_of_ready ready, generic]
  exact withProtocol_refused limit

theorem holds_of_invalid (kind : b.scope.label? = none) :
    b.Holds source depth c block s (.ended (withProtocol seq.explicit (b.frame c block)
      (Eval.panic ("invalid body method type: " ++ b.scope.text)) s₁)) := by
  intro engine
  have panics : b.dispatch (Env.reach ⟨source, engine⟩ (depth + 1)) c seq block =
      Eval.panic ("invalid body method type: " ++ b.scope.text) :=
    funext (dispatch_invalid kind _ c seq block)
  rw [enter_of_ready ready, panics]
  rfl

end

def asking (b : Body) (c : Call) (block : Block) (label : String) (seq : Sequence) (s : State) :
    EngineCall :=
  ⟨seq.handle.engine, invocation label c block, seq,
    (b.opened c block label seq s).held seq.handle.engine⟩

theorem asking_asks (context : s₁.context = s.context) :
    b.Asks c block s seq label s₁.store (b.asking c block label seq s₁) where
  engine := rfl
  sequence := rfl
  invocation := rfl
  context := by
    rw [← context]
    unfold asking opened State.framed
    split <;> rfl
  store := by
    have store := (b.alike_opened c block label seq s₁).store
    exact congrArg (fun st : Store => { st with running := seq.handle.engine :: st.running }) store

section

variable (ready : readyAt source (depth + 1) b s.context.settings (b.announced c s) =
  (some (.ok seq), s₁)) (room : s₁.Admits seq.explicit) (kind : b.scope.label? = some label)

include ready room kind

theorem holds_of_gone (gone : s₁.store.reaches seq.handle = false) :
    b.Holds source depth c block s
      (.ended (b.under c block label seq s₁ (failHere .engineDropped))) := by
  intro engine
  rw [enter_of_ready ready, enter_under room kind]
  refine under_congr room (Env.interpretAt_gone ?_)
  rw [(b.alike_opened c block label seq s₁).store]
  exact gone

theorem holds_of_alive (alive : s₁.store.reaches seq.handle = true) :
    b.Holds source depth c block s (.calling (b.asking c block label seq s₁) fun answer =>
      .ended (b.under c block label seq s₁ (holding seq.handle.engine fun _ => answer))) := by
  intro engine
  rw [enter_of_ready ready, enter_under room kind]
  refine under_congr room ?_
  have reached : (b.opened c block label seq s₁).store.reaches seq.handle = true := by
    rw [(b.alike_opened c block label seq s₁).store]
    exact alive
  exact (Env.interpretAt_runs reached).trans (holding_congr _ rfl)

end

theorem answered (room : s₁.Admits seq.explicit) {engines : Engines} (restore : engines.Restore) :
    ∃ o s₂ s', (b.asking c block label seq s₁).answer engines = (some o, s₂) ∧
      b.under c block label seq s₁ (holding seq.handle.engine fun _ =>
        (b.asking c block label seq s₁).answer engines) = (some (o.mapFailure
          (·.attach (b.asking c block label seq s₁).state.context.backtrace)), s') ∧
      s'.context.backtrace = s₁.context.backtrace ∧ s'.context.frames = s₁.context.frames := by
  let call := b.asking c block label seq s₁
  obtain ⟨o, s₂, ran, backtrace, frames⟩ :=
    restore call.engine call.invocation call.sequence call.state
  have answer : call.answer engines = (some o, s₂) := ran
  have held : holding seq.handle.engine (fun _ => call.answer engines)
      (b.opened c block label seq s₁) = (some o, s₂.released seq.handle.engine) :=
    holding_of_ended answer
  obtain ⟨s', run, restored⟩ := under_ended room held backtrace frames
  exact ⟨o, s₂, s', answer, run, restored⟩

/-- All that an invocation does is a dialogue with the engines, and which one that is does not depend
on them. There is one call in it if the invocation comes to its engine, and else there is none. The
call is made in the context of the entry, under one more entry and, unless the sequence pushes its
own, one more frame. Once engines that leave both stacks alone have answered, the invocation ends
with their answer, and with the stacks of the entry. -/
theorem invoke_dialogue (source : Scope → Nat → Store → Lowering) (depth : Nat) (b : Body)
    (c : Call) (block : Block) (s : State) :
    ∃ d : Dialogue, b.Holds source depth c block s d ∧
      ((∃ seq label st call, b.ComesToEngine source depth s seq label st ∧
          b.Asks c block s seq label st call ∧ (∀ engines, d.calls engines = [call]) ∧
          ∀ engines : Engines, engines.Restore → ∃ o s₁ s', call.answer engines = (some o, s₁) ∧
            d.run engines =
              (some (o.mapFailure (·.attach call.state.context.backtrace)), s') ∧
            s'.context.backtrace = s.context.backtrace ∧ s'.context.frames = s.context.frames) ∨
        (¬ ∃ seq label st, b.ComesToEngine source depth s seq label st) ∧
          ∀ engines, d.calls engines = []) := by
  rcases ready : readyAt source (depth + 1) b s.context.settings (b.announced c s) with ⟨o, s₁⟩
  -- one dialogue for each stage at which an invocation can end; only in the last of them is there
  -- an engine to ask
  by_cases obtained : ∃ seq, o = some (.ok seq)
  · obtain ⟨seq, rfl⟩ := obtained
    have context : s₁.context = s.context := ready_context ready
    rcases s₁.admits_or_refuses seq.explicit with room | ⟨generic, max, limit⟩
    · cases kind : b.scope.label? with
      | none =>
        refine ⟨_, holds_of_invalid ready kind, .inr ⟨?_, fun _ => rfl⟩⟩
        rintro ⟨seq', label, st, comes⟩
        cases kind.symm.trans comes.kind
      | some label =>
        cases alive : s₁.store.reaches seq.handle with
        | true =>
          have obtains : b.Obtains source depth s seq s₁.store := obtains_iff.mpr ⟨s₁, ready, rfl⟩
          have admits : s.Admits seq.explicit := by
            rw [State.Admits, ← context]
            exact room
          refine ⟨_, holds_of_alive ready room kind alive, .inl ⟨seq, label, s₁.store, _,
            ⟨obtains, alive, kind, admits⟩, asking_asks context, fun _ => rfl, ?_⟩⟩
          rw [← context]
          exact fun engines restore => answered room restore
        | false =>
          refine ⟨_, holds_of_gone ready room kind alive, .inr ⟨?_, fun _ => rfl⟩⟩
          rintro ⟨seq', label, st, comes⟩
          obtain ⟨same, rfl⟩ := comes.sequence.answer ready
          cases same
          cases alive.symm.trans comes.alive
    · refine ⟨_, holds_of_refused ready generic limit, .inr ⟨?_, fun _ => rfl⟩⟩
      rintro ⟨seq', label, st, comes⟩
      obtain ⟨same, -⟩ := comes.sequence.answer ready
      cases same
      rw [context] at limit
      rcases comes.room with explicit | free
      · cases generic.symm.trans explicit
      · cases limit.symm.trans free
  · have unready : ∀ seq, o ≠ some (.ok seq) := fun seq is => obtained ⟨seq, is⟩
    obtain ⟨result, holds⟩ : ∃ result, b.Holds source depth c block s (.ended (result, s₁)) :=
      holds_of_unready ready unready
    refine ⟨.ended (result, s₁), holds, .inr ⟨?_, fun _ => rfl⟩⟩
    rintro ⟨seq, label, st, comes⟩
    exact unready seq (comes.sequence.answer ready).1

/-- A metaclass body whose engine fails: the frame has the name that it was called by, the entry has
the label, and the failure has that entry. -/
theorem metaclass_invoke_dialogue :
    let m : Module := .top 0 "Widget" .classLike
    let source : Scope → Nat → Store → Lowering := fun _ _ _ => ⟨[], .answered (.ok ⟨[], false⟩)⟩
    let b : Body := ⟨0, ⟨0, .metaclassBody, "Widget", "widget.rb", 4⟩, m, ⟨0, true⟩⟩
    let c : Call := ⟨none, .object m, m, "reopen"⟩
    let s : State := ⟨⟨{}, 7, [], []⟩, {}, []⟩
    let engines : Engines := fun _ _ _ => Eval.fail ⟨.raised "boom", none⟩
    let stack : Backtrace := [⟨"singleton class", "widget.rb", 7⟩]
    ∃ d call s', b.Holds source 0 c .absent s d ∧ engines.Restore ∧ d.calls engines = [call] ∧
      call.state.context = ⟨{}, 7, stack, [⟨m, "reopen", .object m, .absent⟩]⟩ ∧
      d.run engines = (some (.failed ⟨.raised "boom", some stack⟩), s') ∧
      s'.context.backtrace = [] ∧ s'.context.frames = [] := by
  intro m source b c s engines stack
  have restore : engines.Restore := fun _ _ _ s => ⟨_, s, rfl, rfl, rfl⟩
  obtain ⟨d, holds, asked⟩ := invoke_dialogue source 0 b c .absent s
  rcases asked with ⟨seq, label, st, call, comes, asks, calls, after⟩ | ⟨never, -⟩
  · obtain ⟨o, s₁, s', answer, run, backtrace, frames⟩ := after engines restore
    cases answer
    cases comes.kind
    have context := asks.context
    cases comes.sequence with
    | cached found => cases found
    | overtaken absent lowering taken =>
      cases lowering
      cases taken
    | lowered absent lowering vacant =>
      cases lowering
      rw [context] at run
      exact ⟨d, call, s', holds, restore, calls engines, context, run, backtrace, frames⟩
  · exact absurd ⟨_, _, _, .lowered rfl rfl rfl, rfl, rfl, .inr rfl⟩ never

end Body

end BodyCall
