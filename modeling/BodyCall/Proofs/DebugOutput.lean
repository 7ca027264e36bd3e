import BodyCall.Proofs.Lockstep
import BodyCall.Proofs.Ready

/-!
# Debug output

The debug switches open two channels of the log, and what is told there has no say in anything else.
Two runs whose states differ in their switches, and in what has been told on those channels, stay in
lockstep. To mute a state is to leave both out of it. Most acts do not care whether the state that
they are done on is muted before or after; only the announcement of a run, and the installation of a
sequence, look at the switches.
-/

namespace BodyCall

open Eval

/-- Told on one of the two channels that the debug switches open. -/
def Event.isDebugOutput : Event → Bool
  | .logged r => r.target = "garnet::exec" || r.target = "garnet::ir"
  | _ => false

/-- What has happened besides debug output. -/
def withoutDebugOutput (events : List Event) : List Event :=
  events.filter fun e => !e.isDebugOutput

/-- Sources are not asked on the two channels. -/
theorem askedScopes_withoutDebugOutput (events : List Event) :
    askedScopes (withoutDebugOutput events) = askedScopes events := by
  rw [askedScopes, askedScopes, withoutDebugOutput, List.filterMap_filter]
  congr 1
  funext e
  cases e with
  | logged r => cases h : (Event.logged r).isDebugOutput <;> rfl
  | _ => rfl

def Context.debugging (c : Context) (d : DebugSwitches) : Context :=
  { c with settings := { c.settings with debug := d } }

namespace State

variable {s t u : State}

def debugging (s : State) (d : DebugSwitches) : State :=
  { s with context := s.context.debugging d }

def muted (s : State) : State :=
  { s with context := s.context.debugging .off, trace := withoutDebugOutput s.trace }

/-- The states differ at most in their debug switches and in debug output. -/
structure Hushed (s t : State) : Prop where
  context : s.context.debugging .off = t.context.debugging .off
  store : s.store = t.store
  trace : withoutDebugOutput s.trace = withoutDebugOutput t.trace

theorem hushed_iff : s.Hushed t ↔ s.muted = t.muted := by
  constructor
  · intro h
    rw [muted, muted, h.context, h.store, h.trace]
  · intro same
    exact ⟨congrArg (·.context) same, congrArg (·.store) same, congrArg (·.trace) same⟩

namespace Hushed

theorem symm (h : s.Hushed t) : t.Hushed s := ⟨h.context.symm, h.store.symm, h.trace.symm⟩

theorem trans (h : s.Hushed t) (h' : t.Hushed u) : s.Hushed u :=
  ⟨h.context.trans h'.context, h.store.trans h'.store, h.trace.trans h'.trace⟩

theorem switched (s : State) (d d' : DebugSwitches) : (s.debugging d).Hushed (s.debugging d') :=
  ⟨rfl, rfl, rfl⟩

theorem told (s : State) {e : Event} (h : e.isDebugOutput = true) :
    s.Hushed { s with trace := e :: s.trace } :=
  ⟨rfl, rfl, by simp [withoutDebugOutput, h]⟩

/-- What two runs have told since a state is the same but for debug output. -/
theorem since (h : s.Hushed t) (left : u.trace <:+ s.trace) (right : u.trace <:+ t.trace) :
    withoutDebugOutput (s.since u) = withoutDebugOutput (t.since u) := by
  obtain ⟨earlier, trace₁⟩ := left
  obtain ⟨earlier', trace₂⟩ := right
  have same := h.trace
  rw [← trace₁, ← trace₂, withoutDebugOutput, withoutDebugOutput, List.filter_append,
    List.filter_append] at same
  rw [since_of_append trace₁.symm, since_of_append trace₂.symm]
  exact List.append_cancel_right same

theorem calls : Calls Hushed where
  backtrace h := (congrArg (·.backtrace) h.context).symm
  reaches h hd := (congrArg (·.reaches hd) h.store).symm
  running h g := ⟨h.context, congrArg (fun st => { st with running := g st.running }) h.store,
    h.trace⟩

end Hushed

end State

open State

namespace Eval

variable {α β : Type} {x y : Eval α} {a : α}

/-- The computation only tells debug output on its way to a value. -/
def OnlyTells (x : Eval α) (a : α) : Prop := ∀ s, ∃ s', x s = (some (.ok a), s') ∧ s.Hushed s'

namespace OnlyTells

theorem pure (a : α) : OnlyTells (Pure.pure a : Eval α) a := fun s => ⟨s, rfl, ⟨rfl, rfl, rfl⟩⟩

theorem log {r : LogRecord} (h : (Event.logged r).isDebugOutput = true) (hx : OnlyTells x a) :
    OnlyTells (Eval.log r >>= fun _ => x) a := by
  intro s
  obtain ⟨s', run, hushed⟩ := hx { s with trace := .logged r :: s.trace }
  exact ⟨s', run, (Hushed.told s h).trans hushed⟩

theorem ite {p : Prop} [Decidable p] (hx : OnlyTells x a) (hy : OnlyTells y a) :
    OnlyTells (if p then x else y) a := by
  split
  · exact hx
  · exact hy

end OnlyTells

/-! ## Acts on hushed states -/

namespace Lockstep

theorem of_muting (h : ∀ s : State, x s.muted = ((x s).1, (x s).2.muted)) :
    Lockstep Hushed Eq x x := by
  intro s t hushed
  have same : ((x s).1, (x s).2.muted) = ((x t).1, (x t).2.muted) := by
    rw [← h, ← h, hushed_iff.mp hushed]
  generalize x s = p at same
  generalize x t = q at same
  obtain ⟨o, s'⟩ := p
  obtain ⟨o', t'⟩ := q
  obtain ⟨rfl, muted⟩ := Prod.mk.inj same
  cases o with
  | none => exact .cut s' t'
  | some o => exact .ended (.refl o) (hushed_iff.mpr muted)

theorem of_onlyTells (hx : OnlyTells x a) (hy : OnlyTells y a) : Lockstep Hushed Eq x y := by
  intro s t hushed
  obtain ⟨s', left, first⟩ := hx s
  obtain ⟨t', right, second⟩ := hy t
  rw [left, right]
  exact .ended (.ok rfl) (first.symm.trans (hushed.trans second))

theorem of_backstage (h : Backstage x) : Lockstep Hushed Eq x x := by
  obtain ⟨act, rfl, -⟩ := h
  intro s t hushed
  unfold StoreAct.run
  rw [← hushed.store]
  obtain ⟨o, st, told⟩ := act s.store
  have trace : withoutDebugOutput (told ++ s.trace) = withoutDebugOutput (told ++ t.trace) := by
    have same := hushed.trace
    unfold withoutDebugOutput at same ⊢
    rw [List.filter_append, List.filter_append, same]
  cases o with
  | none => exact .cut _ _
  | some o => exact .ended (.refl o) ⟨hushed.context, rfl, trace⟩

theorem pushFrame_hushed (f : Frame) : Lockstep Hushed Eq (Eval.pushFrame f) (Eval.pushFrame f) := by
  refine of_muting fun s => ?_
  cases room : s.context.exceeded? with
  | none =>
    rw [pushFrame_run room, pushFrame_run (s := s.muted) room]
    rfl
  | some max =>
    rw [pushFrame_refused room, pushFrame_refused (s := s.muted) room]
    rfl

theorem popFrame_hushed : Lockstep Hushed Eq Eval.popFrame Eval.popFrame := by
  refine of_muting fun s => ?_
  cases frames : s.context.frames with
  | nil => rw [popFrame_empty frames, popFrame_empty (s := s.muted) frames]
  | cons f rest =>
    rw [popFrame_run frames, popFrame_run (s := s.muted) frames]
    rfl

theorem popEntry_hushed : Lockstep Hushed Eq Eval.popEntry Eval.popEntry := by
  refine of_muting fun s => ?_
  cases backtrace : s.context.backtrace with
  | nil =>
    have right : s.muted.context.backtrace = [] := backtrace
    rw [Eval.popEntry, context_bind, context_bind, backtrace, right]
    rfl
  | cons e rest =>
    rw [popEntry_run backtrace, popEntry_run (s := s.muted) backtrace]
    rfl

end Lockstep

end Eval

theorem State.Hushed.acts : Acts Hushed Eq where
  line _ _ hushed := .ended (.ok (congrArg (·.line) hushed.context).symm) hushed
  setLine _ := .of_muting fun _ => rfl
  attached _ := .of_muting fun _ => rfl
  pushEntry _ := .of_muting fun _ => rfl
  popEntry := .popEntry_hushed
  pushFrame same := same ▸ .pushFrame_hushed _
  popFrame := .popFrame_hushed

namespace Eval

/-! ## Readiness -/

theorem install_hushed (b : Body) (seq : Sequence) (settings settings' : Settings) :
    Lockstep Hushed Eq (install b seq settings) (install b seq settings') := by
  refine .bind (.of_backstage .store) fun st _ same => ?_
  rw [← same]
  cases st.sequence? b with
  | some winner => exact .bind (.of_backstage (.log _)) fun _ _ _ => .pure rfl
  | none =>
    refine .bind (.of_backstage (.updateStore _)) fun _ _ _ => ?_
    refine .bind (.of_backstage (.log _)) fun _ _ _ => ?_
    have listed : (Event.logged (.listed b.scope seq)).isDebugOutput = true := rfl
    exact .of_onlyTells (.ite (.log listed (.pure seq)) (.pure seq))
      (.ite (.log listed (.pure seq)) (.pure seq))

theorem readyAt_hushed (source : Scope → Nat → Store → Lowering) (depth : Nat) (b : Body)
    (settings settings' : Settings) :
    Lockstep Hushed Eq (readyAt source depth b settings) (readyAt source depth b settings') := by
  cases depth with
  | zero => exact .exhausted
  | succ depth =>
    refine .bind (.of_backstage .store) fun st _ same => ?_
    rw [← same]
    cases st.sequence? b with
    | some seq => exact .pure rfl
    | none =>
      -- a source that asks for bodies has settings of its own for that
      refine .bind (.of_backstage (.prepare (.readyAt source depth) _ _)) fun seq _ same => ?_
      rw [← same]
      exact install_hushed b seq settings settings'

end Eval

/-! ## Runs of bodies and sequences -/

/-- Bodies are made ready, and sequences run, in lockstep on hushed states. -/
structure Reach.Hushed (r : Reach) : Prop where
  ready : ∀ b settings settings',
    Eval.Lockstep State.Hushed Eq (r.ready b settings) (r.ready b settings')
  interpret : ∀ h i seq, Eval.Lockstep State.Hushed Eq (r.interpret h i seq) (r.interpret h i seq)

variable {r : Reach}

namespace Body

theorem announce_hushed (b : Body) (c : Call) :
    Eval.Lockstep State.Hushed Eq (b.announce c) (b.announce c) := by
  have tells : OnlyTells (b.announce c) () := by
    intro s
    refine ⟨_, b.announce_run c s, ?_⟩
    unfold announced
    split
    · exact .told s rfl
    · exact ⟨rfl, rfl, rfl⟩
  exact .of_onlyTells tells tells

theorem invoke_hushed (hr : r.Hushed) (b : Body) (c : Call) (block : Block) :
    Eval.Lockstep State.Hushed Eq (b.invoke r c block) (b.invoke r c block) := by
  have ready : Eval.Lockstep State.Hushed Eq (b.sequence r) (b.sequence r) := by
    intro s t hushed
    exact hr.ready b s.context.settings t.context.settings s t hushed
  refine .bind (b.announce_hushed c) fun _ _ _ => ready.bind fun seq _ same => ?_
  rw [← same]
  have dispatched : Eval.Lockstep State.Hushed Eq (b.dispatch r c seq block)
      (b.dispatch r c seq block) :=
    dispatch_lockstep State.Hushed.acts rfl rfl fun _ => hr.interpret _ _ _
  exact State.Hushed.acts.withProtocol _ rfl dispatched

end Body

namespace Interpreter

theorem execute_hushed (hr : r.Hushed) (engine : Nat) (i : Invocation) (seq : Sequence)
    (instr : Instr) (own : Nat) (last last' : Value) (like : last = last') :
    Eval.Lockstep State.Hushed (Counted Eq) (execute r engine i seq own last instr)
      (execute r engine i seq own last' instr) := by
  refine execute_lockstep_of_define State.Hushed.acts rfl rfl (fun _ _ => rfl) (fun scope _ => ?_)
    own like
  refine .bind (.of_backstage (.emit rfl)) fun _ _ _ => ?_
  refine .bind (.of_backstage (bodyFor_backstage _ _ _ _)) fun b _ same => ?_
  rw [← same]
  exact b.invoke_hushed hr _ _

theorem report_hushed (o o' : Outcome Value) (like : o.Like Eq o') :
    Eval.Lockstep State.Hushed Eq (report o) (report o') := by
  cases like with
  | failed f => exact .of_backstage (.log _)
  | ok same => exact .pure rfl
  | panicked m => exact .pure rfl

theorem interpret_hushed (hr : r.Hushed) (engine : Nat) (i : Invocation) (seq : Sequence) :
    Eval.Lockstep State.Hushed Eq (interpret r engine i seq) (interpret r engine i seq) :=
  interpret_lockstep_of_execute State.Hushed.acts report_hushed rfl rfl fun instr _ =>
    execute_hushed hr engine i seq instr

end Interpreter

theorem Env.reach_hushed (source : Scope → Nat → Store → Lowering) (depth : Nat) :
    ((interpreting source).reach depth).Hushed := by
  refine ⟨readyAt_hushed source depth, ?_⟩
  change ∀ h i seq, Eval.Lockstep State.Hushed Eq ((interpreting source).interpretAt depth h i seq)
    ((interpreting source).interpretAt depth h i seq)
  induction depth with
  | zero => exact fun _ _ _ => .exhausted
  | succ depth ih =>
    have inner : ((interpreting source).reach depth).Hushed := ⟨readyAt_hushed source depth, ih⟩
    exact fun h i seq =>
      interpretAt_lockstep State.Hushed.calls (Interpreter.interpret_hushed inner h.engine i seq)

/-- A body is called from two states that differ in their debug switches only. Either both calls are
cut off for want of depth, or both come to the same end: with the same outcome, on the same line, with
the same stacks and with the same store. Apart from debug output they tell the same things, and so
they ask the same sources in the same order. -/
theorem Method.call_debugging (source : Scope → Nat → Store → Lowering) (depth : Nat) (b : Body)
    (entry : EntryPoint) (c : Call) (args : List Value) (block : Block) (s : State)
    (d d' : DebugSwitches) :
    let call := (Method.body b).call ((Env.interpreting source).reach depth) entry c args block
    (call (s.debugging d)).1 = none ∧ (call (s.debugging d')).1 = none ∨
      ∃ o t t', call (s.debugging d) = (some o, t) ∧ call (s.debugging d') = (some o, t') ∧
        t'.context = t.context.debugging d' ∧ t'.store = t.store ∧
        withoutDebugOutput (t'.since s) = withoutDebugOutput (t.since s) ∧
        askedScopes (t'.since s) = askedScopes (t.since s) := by
  intro call
  have stepwise := State.Before.stepwise
  have before : Keeps (fun s _ s' => s.Before s') call :=
    b.invoke_keeps stepwise.guarded (stepwise.reach depth) c _
  have left := before (s.debugging d)
  have right := before (s.debugging d')
  have met := b.invoke_hushed (Env.reach_hushed source depth) c (entry.block block) _ _
    (State.Hushed.switched s d d')
  change Met _ _ (call _) (call _) at met
  generalize call (s.debugging d) = p at met left ⊢
  generalize call (s.debugging d') = q at met right ⊢
  cases met with
  | cut t t' => exact .inl ⟨rfl, rfl⟩
  | @ended o o' t t' like hushed =>
    have context : t'.context = t.context.debugging d' := by
      have settings : t'.context.settings.debug = d' := congrArg (·.debug) right.settings
      have same := congrArg (·.debugging d') hushed.context
      rw [← settings] at same ⊢
      exact same.symm
    have told := hushed.since left.trace right.trace
    have asked := congrArg askedScopes told
    rw [askedScopes_withoutDebugOutput, askedScopes_withoutDebugOutput] at asked
    exact .inr ⟨o, t, t', rfl, congrArg (some ·, t') like.eq, context, hushed.store.symm,
      told.symm, asked.symm⟩

end BodyCall
