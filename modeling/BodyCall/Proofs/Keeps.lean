import BodyCall.Engine
import BodyCall.Proofs.Computation

/-!
# What every act of a run keeps

A run of a body is made of a few acts: something is told, the line is set, the store changes in one
of the ways of `Store.Step`, or one of the stacks moves. A relation between states that holds across
each act, and can be chained, holds across each run, also across one that is cut off for want of
depth. `Telling` asks this of what is told, `Preparing` also of all that makes a body ready, `Aside`
of all acts that leave the context alone, `Quiet` of those that touch no stack, `Moving` of the
motions of the stacks, `Stepwise` of all of them.
-/

namespace BodyCall

/-- Every change of the store that a run can make. -/
inductive Store.Step : Store → Store → Prop where
  | module (st : Store) : Step st { st with nextModule := st.nextModule + 1 }
  | sequence (st : Store) : Step st { st with nextSequence := st.nextSequence + 1 }
  | lowering (st : Store) (scope : Scope) : Step st (st.noteLowering scope)
  | install {st : Store} {b : Body} {seq : Sequence} (absent : st.sequence? b = none)
      (handle : seq.handle = b.handle) : Step st (st.install b seq)
  | define {st : Store} {engine : Nat} {scope : Scope} (absent : st.definition? engine scope = none)
      (m : Module) (h : Handle) :
      Step st ({ st with nextBody := st.nextBody + 1 }.define engine scope
        ⟨st.nextBody, scope, m, h.downgrade⟩)
  | hold (st : Store) (engine : Nat) : Step st { st with running := engine :: st.running }
  | release (st : Store) (engine : Nat) : Step st { st with running := st.running.erase engine }

def Event.isMotion : Event → Bool
  | moved .. => true
  | _ => false

/-- A relation between two states that is told whether what lies between them has come to an end. -/
abbrev Passage := State → Bool → State → Prop

structure Chained (T : Passage) : Prop where
  refl : ∀ s ended, T s ended s
  trans : ∀ {s s₁ s₂ ended}, T s true s₁ → T s₁ ended s₂ → T s ended s₂

structure Telling (T : Passage) : Prop extends Chained T where
  told : ∀ (s : State) (e : Event), e.isMotion = false → T s true { s with trace := e :: s.trace }

structure Preparing (T : Passage) : Prop extends Telling T where
  prepared : ∀ (s : State) (st : Store), s.store.Step st →
    st.definitions = s.store.definitions → T s true { s with store := st }

structure Aside (T : Passage) : Prop extends Telling T where
  stored : ∀ (s : State) (st : Store), s.store.Step st → T s true { s with store := st }

theorem Aside.preparing {T : Passage} (a : Aside T) : Preparing T :=
  ⟨a.toTelling, fun s st step _ => a.stored s st step⟩

structure Quiet (T : Passage) : Prop extends Aside T where
  line : ∀ (s : State) (n : Nat), T s true { s with context := { s.context with line := n } }

structure Moving (T : Passage) : Prop extends Chained T where
  moved : ∀ (s : State) (m : Motion) (backtrace : Backtrace) (frames : List Frame),
    T s true (s.move m backtrace frames)

structure Stepwise (T : Passage) : Prop extends Quiet T, Moving T

/-- All that an instruction does by itself. -/
structure Working (T : Passage) : Prop extends Telling T, Moving T where
  line : ∀ (s : State) (n : Nat), T s true { s with context := { s.context with line := n } }

theorem Stepwise.working {T : Passage} (w : Stepwise T) : Working T where
  toTelling := w.toTelling
  moved := w.moved
  line := w.line

namespace Eval

variable {α β : Type} {T : Passage} {x : Eval α} {k : α → Eval β}

def Keeps (T : Passage) (x : Eval α) : Prop := ∀ s, T s (x s).1.isSome (x s).2

def Yields (P : α → Prop) (x : Eval α) : Prop := ∀ s a s', x s = (some (.ok a), s') → P a

namespace Keeps

theorem of_ended {o : Outcome α} {s s' : State} (hx : Keeps T x) (h : x s = (some o, s')) :
    T s true s' := by
  have := hx s
  rw [h] at this
  exact this

theorem of_none {s s' : State} (hx : Keeps T x) (h : x s = (none, s')) : T s false s' := by
  have := hx s
  rw [h] at this
  exact this

theorem ofOutcome (c : Chained T) (o : Outcome α) : Keeps T (ofOutcome o) := fun s => c.refl s true

theorem pure (c : Chained T) (a : α) : Keeps T (Pure.pure a : Eval α) := ofOutcome c (.ok a)

theorem exhausted (c : Chained T) : Keeps T (exhausted : Eval α) := fun s => c.refl s false

theorem read (c : Chained T) (g : State → α) : Keeps T (read g) := fun s => c.refl s true

theorem update {g : State → State} (h : ∀ s, T s true (g s)) : Keeps T (update g) := h

theorem bind_yields {P : α → Prop} (c : Chained T) (hx : Keeps T x) (hy : Yields P x)
    (hk : ∀ a, P a → Keeps T (k a)) : Keeps T (x >>= k) := by
  intro s
  rcases h : x s with ⟨_ | a | f | t, s₁⟩
  · rw [bind_of_none h]
    exact hx.of_none h
  · rw [bind_of_ok h]
    exact c.trans (hx.of_ended h) (hk a (hy s a s₁ h) s₁)
  · rw [bind_of_failed h]
    exact hx.of_ended h
  · rw [bind_of_panicked h]
    exact hx.of_ended h

theorem bind (c : Chained T) (hx : Keeps T x) (hk : ∀ a, Keeps T (k a)) : Keeps T (x >>= k) :=
  bind_yields (P := fun _ => True) c hx (fun _ _ _ _ => trivial) fun a _ => hk a

/-- From where the first of two computations has got to, the second one may go on. -/
theorem bind_after (c : Chained T) (hk : ∀ a, Keeps T (k a)) (s : State) :
    T (x s).2 ((x >>= k) s).1.isSome ((x >>= k) s).2 := by
  rcases h : x s with ⟨_ | a | f | t, s₁⟩
  · rw [bind_of_none h]
    exact c.refl s₁ false
  · rw [bind_of_ok h]
    exact hk a s₁
  · rw [bind_of_failed h]
    exact c.refl s₁ true
  · rw [bind_of_panicked h]
    exact c.refl s₁ true

theorem attempt (hx : Keeps T x) : Keeps T (attempt x) := by
  intro s
  rcases h : x s with ⟨_ | o, s₁⟩
  · rw [attempt_of_none h]
    exact hx.of_none h
  · rw [attempt_of_ended h]
    exact hx.of_ended h

theorem ensuring {cleanup : Eval Unit} (c : Chained T) (hx : Keeps T x) (hc : Keeps T cleanup) :
    Keeps T (ensuring x cleanup) :=
  bind c hx.attempt fun _ => bind c hc.attempt fun _ => ofOutcome c _

theorem ite {p : Prop} [Decidable p] {x y : Eval α} (hx : p → Keeps T x) (hy : ¬p → Keeps T y) :
    Keeps T (if p then x else y) := by
  by_cases h : p
  · rw [if_pos h]
    exact hx h
  · rw [if_neg h]
    exact hy h

/-! ### Acts that touch no stack -/

theorem emit (w : Telling T) {e : Event} (h : e.isMotion = false) : Keeps T (emit e) :=
  fun s => w.told s e h

theorem log (w : Telling T) (r : LogRecord) : Keeps T (log r) := emit w rfl

theorem logAll (w : Telling T) (records : List LogRecord) : Keeps T (logAll records) := by
  induction records with
  | nil => exact pure w.toChained ()
  | cons r rest ih => exact bind w.toChained (log w r) fun _ => ih

theorem setLine (w : Working T) (n : Nat) : Keeps T (setLine n) := fun s => w.line s n

theorem freshSequence (p : Preparing T) : Keeps T freshSequence :=
  fun s => p.prepared s _ (.sequence s.store) rfl

theorem holding {engine : Nat} (a : Aside T) (hx : Keeps T x) : Keeps T (holding engine x) := by
  refine ensuring a.toChained (bind a.toChained ?_ fun _ => hx) ?_
  · exact fun s => a.stored s _ (.hold s.store engine)
  · exact fun s => a.stored s _ (.release s.store engine)

/-! ### Names -/

section

variable {g : Registry → Except String α} {s : State}

/-- What comes after a name has been looked up may rely on what was found. -/
theorem resolved (c : Chained T) {k : α → Eval β}
    (hk : ∀ a, g s.store.registry = .ok a → T s (k a s).1.isSome (k a s).2) :
    T s ((resolve g >>= k) s).1.isSome ((resolve g >>= k) s).2 := by
  have run := resolve_run g s
  cases found : g s.store.registry with
  | error name =>
    rw [found] at run
    rw [bind_of_panicked run]
    exact c.refl s true
  | ok a =>
    rw [found] at run
    rw [bind_of_ok run]
    exact hk a found

theorem resolved_map (c : Chained T) {γ : Type} (f : α → γ) {k : γ → Eval β}
    (hk : ∀ a, g s.store.registry = .ok a → T s (k (f a) s).1.isSome (k (f a) s).2) :
    T s ((f <$> resolve g >>= k) s).1.isSome ((f <$> resolve g >>= k) s).2 := by
  have run := resolve_run g s
  cases found : g s.store.registry with
  | error name =>
    rw [found] at run
    rw [bind_of_panicked (x := f <$> resolve g) (bind_of_panicked run)]
    exact c.refl s true
  | ok a =>
    rw [found] at run
    rw [bind_of_ok (x := f <$> resolve g) (bind_of_ok run)]
    exact hk a found

theorem resolve (c : Chained T) (g : Registry → Except String α) : Keeps T (resolve g) := by
  intro s
  rw [resolve_run]
  cases g s.store.registry <;> exact c.refl s true

end

/-! ### Readiness -/

variable {source : Scope → Nat → Store → Lowering} {ready : Body → Settings → Eval Sequence}

theorem reenterAll (w : Telling T) (hr : ∀ b settings, Keeps T (ready b settings))
    (reentries : List (Body × Setup)) : Keeps T (reenterAll ready reentries) := by
  induction reentries with
  | nil => exact pure w.toChained ()
  | cons r rest ih =>
    obtain ⟨b, setup⟩ := r
    refine bind w.toChained (bind w.toChained (logAll w _) fun _ => ?_) fun _ => ih
    refine bind w.toChained (hr b _).attempt fun o => ?_
    cases o with
    | ok seq => exact emit w rfl
    | failed f => exact emit w rfl
    | panicked t => exact ofOutcome w.toChained _

theorem lower (p : Preparing T) (hr : ∀ b settings, Keeps T (ready b settings)) (scope : Scope) :
    Keeps T (lower source ready scope) := by
  refine bind p.toChained (read p.toChained _) fun before => ?_
  refine bind p.toChained ?_ fun _ => bind p.toChained (emit p.toTelling rfl) fun _ => ?_
  · exact fun s => p.prepared s _ (.lowering s.store scope) rfl
  · exact bind p.toChained (reenterAll p.toTelling hr _) fun _ => ofOutcome p.toChained _

theorem prepare (p : Preparing T) (hr : ∀ b settings, Keeps T (ready b settings)) (scope : Scope)
    (handle : Handle) : Keeps T (prepare source ready scope handle) := by
  refine bind p.toChained (lower p hr scope) fun answer => ?_
  cases answer with
  | error reason => exact ofOutcome p.toChained _
  | ok l => exact bind p.toChained (freshSequence p) fun _ => pure p.toChained _

theorem install (p : Preparing T) {b : Body} {seq : Sequence} (h : seq.handle = b.handle)
    (settings : Settings) : Keeps T (install b seq settings) := by
  intro s
  rw [Eval.install, store_bind]
  cases absent : s.store.sequence? b with
  | some winner => exact bind p.toChained (log p.toTelling _) (fun _ => pure p.toChained winner) s
  | none =>
    have reported : Keeps T (do
        Eval.log (.materialized b.scope seq)
        if settings.debug.ir then Eval.log (.listed b.scope seq)
        return seq) := by
      refine bind p.toChained (log p.toTelling _) fun _ =>
        ite (fun _ => ?_) fun _ => pure p.toChained seq
      exact bind p.toChained (log p.toTelling _) fun _ => pure p.toChained seq
    exact p.trans (p.prepared s _ (.install absent h) rfl) (reported _)

end Keeps

/-- A sequence that was prepared is bound to the handle it was prepared with. -/
theorem prepare_handle {source : Scope → Nat → Store → Lowering}
    {ready : Body → Settings → Eval Sequence} (scope : Scope) (handle : Handle) :
    Yields (fun seq : Sequence => seq.handle = handle) (prepare source ready scope handle) := by
  intro s seq s' h
  obtain ⟨answer, s₁, -, h⟩ := bind_ok h
  cases answer with
  | error reason => cases h
  | ok l =>
    obtain ⟨id, s₂, -, h⟩ := bind_ok h
    cases h
    rfl

namespace Keeps

theorem readyAt {source : Scope → Nat → Store → Lowering} (p : Preparing T) (depth : Nat) (b : Body)
    (settings : Settings) : Keeps T (readyAt source depth b settings) := by
  induction depth generalizing b settings with
  | zero => exact exhausted p.toChained
  | succ depth ih =>
    refine bind p.toChained (read p.toChained _) fun st => ?_
    cases st.sequence? b with
    | some seq => exact pure p.toChained seq
    | none =>
      -- an installation is a step of the store only for a sequence with the handle of its body
      exact bind_yields p.toChained (prepare p ih _ _) (prepare_handle _ _)
        fun seq h => install p h settings

/-! ### Motions of the stacks -/

theorem pushEntry (w : Moving T) (e : Entry) : Keeps T (pushEntry e) := fun s => w.moved s _ _ _

theorem popEntry (w : Moving T) : Keeps T popEntry := by
  intro s
  cases h : s.context.backtrace with
  | nil =>
    rw [Eval.popEntry, context_bind, h]
    exact w.refl s true
  | cons e rest =>
    rw [popEntry_run h]
    exact w.moved s _ _ _

theorem pushFrame (w : Moving T) (f : Frame) : Keeps T (pushFrame f) := by
  intro s
  cases h : s.context.exceeded? with
  | none =>
    rw [pushFrame_run h]
    exact w.moved s _ _ _
  | some max =>
    rw [pushFrame_refused h]
    exact w.moved s _ _ _

theorem popFrame (w : Moving T) : Keeps T popFrame := by
  intro s
  cases h : s.context.frames with
  | nil =>
    rw [Eval.popFrame, context_bind, h]
    exact w.refl s true
  | cons f rest =>
    rw [popFrame_run h]
    exact w.moved s _ _ _

theorem popFrames (w : Moving T) (n : Nat) : Keeps T (popFrames n) := by
  induction n with
  | zero => exact pure w.toChained ()
  | succ n ih => exact bind w.toChained (popFrame w) fun _ => ih

theorem failHere (h : Chained T) (c : Cause) : Keeps T (failHere c : Eval α) :=
  fun s => h.refl s true

theorem attaching (hx : Keeps T x) : Keeps T (attaching x) := by
  intro s
  rcases h : x s with ⟨_ | o, s₁⟩
  · rw [attaching_of_none h]
    exact hx.of_none h
  · rw [attaching_of_ended h]
    exact hx.of_ended h

theorem withBacktrace (w : Moving T) (e : Entry) (hx : Keeps T x) :
    Keeps T (withBacktrace e x) := by
  refine bind w.toChained (pushEntry w e) fun _ => ensuring w.toChained hx.attaching ?_
  exact bind w.toChained (popEntry w) fun _ => pure w.toChained ()

theorem withProtocol (w : Moving T) (explicit : Bool) (f : Frame) (hx : Keeps T x) :
    Keeps T (withProtocol explicit f x) := by
  refine bind w.toChained ?_ fun pushed => ?_
  · refine ite (fun _ => pure w.toChained false) fun _ => ?_
    exact bind w.toChained (pushFrame w f) fun _ => pure w.toChained true
  · exact ite (fun _ => ensuring w.toChained hx (popFrame w)) fun _ => hx

end Keeps

end Eval

/-- A relation that goes through both kinds of guards. -/
structure Guarded (T : Passage) : Prop extends Quiet T where
  withBacktrace : ∀ (e : Entry) (x : Eval Value), Eval.Keeps T x → Eval.Keeps T (x.withBacktrace e)
  withProtocol : ∀ (explicit : Bool) (f : Frame) (x : Eval Value),
    Eval.Keeps T x → Eval.Keeps T (x.withProtocol explicit f)

theorem Stepwise.guarded {T : Passage} (w : Stepwise T) : Guarded T where
  toQuiet := w.toQuiet
  withBacktrace e _ hx := .withBacktrace w.toMoving e hx
  withProtocol explicit f _ hx := .withProtocol w.toMoving explicit f hx

/-! ## Runs of bodies and sequences -/

structure Reach.Keeps (T : Passage) (r : Reach) : Prop where
  ready : ∀ b settings, Eval.Keeps T (r.ready b settings)
  interpret : ∀ h i seq, Eval.Keeps T (r.interpret h i seq)

variable {T : Passage} {r : Reach}

theorem Body.announce_keeps (a : Aside T) (b : Body) (c : Call) : Eval.Keeps T (b.announce c) := by
  refine .bind a.toChained (.read a.toChained _) fun context => ?_
  exact .ite (fun _ => .log a.toTelling _) fun _ => .pure a.toChained ()

theorem Body.sequence_keeps (c : Chained T) (hr : r.Keeps T) (b : Body) :
    Eval.Keeps T (b.sequence r) :=
  .bind c (.read c _) fun context => hr.ready b context.settings

theorem Body.dispatch_keeps (g : Guarded T) (hr : r.Keeps T) (b : Body) (c : Call) (seq : Sequence)
    (block : Block) : Eval.Keeps T (b.dispatch r c seq block) := by
  unfold Body.dispatch
  cases b.scope.label? with
  | none => exact .ofOutcome g.toChained _
  | some label =>
    refine .bind g.toChained (.read g.toChained _) fun _ => ?_
    exact g.withBacktrace _ _ (hr.interpret _ _ _)

theorem Body.invoke_keeps (g : Guarded T) (hr : r.Keeps T) (b : Body) (c : Call) (block : Block) :
    Eval.Keeps T (b.invoke r c block) := by
  refine .bind g.toChained (announce_keeps g.toAside b c) fun _ => ?_
  refine .bind g.toChained (sequence_keeps g.toChained hr b) fun seq => ?_
  exact g.withProtocol _ _ _ (dispatch_keeps g hr b c seq block)

namespace Interpreter

theorem bodyFor_keeps (q : Aside T) (engine : Nat) (scope : Scope) (parent : Option Module)
    (handle : Handle) : Eval.Keeps T (bodyFor engine scope parent handle) := by
  intro s
  rw [bodyFor, Eval.store_bind]
  cases absent : s.store.definition? engine scope with
  | some b => exact q.refl s true
  | none =>
    let st := { s.store with nextModule := s.store.nextModule + 1 }
    let m := Module.nested parent s.store.nextModule scope.name scope.kind.moduleKind
    have opened := q.stored s st (.module s.store)
    have told := q.told { s with store := st } (.logged (.definedBody m)) rfl
    exact q.trans (q.trans opened told)
      (q.stored _ _ (@Store.Step.define st engine scope absent m handle))

theorem define_keeps (g : Guarded T) (hr : r.Keeps T) (engine : Nat) (i : Invocation)
    (seq : Sequence) (scope : Scope) : Eval.Keeps T (define r engine i seq scope) := by
  refine .bind g.toChained (.emit g.toTelling rfl) fun _ => ?_
  exact .bind g.toChained (bodyFor_keeps g.toAside _ _ _ _) fun b => b.invoke_keeps g hr _ _

theorem execute_keeps_of_define (w : Working T) {engine : Nat} {i : Invocation} {seq : Sequence}
    {instr : Instr} (hd : ∀ scope, instr = .define scope → Eval.Keeps T (define r engine i seq scope))
    (own : Nat) (last : Value) : Eval.Keeps T (execute r engine i seq own last instr) := by
  have c := w.toChained
  cases instr with
  | line n => exact .bind c (.setLine w n) fun _ => .pure c _
  | put v => exact .pure c _
  | putSelf => exact .pure c _
  | pushFrame => exact .bind c (.pushFrame w.toMoving _) fun _ => .pure c _
  | popFrame =>
    cases own with
    | zero => exact .failHere c _
    | succ own => exact .bind c (.popFrame w.toMoving) fun _ => .pure c _
  | define scope => exact .bind c (hd scope rfl) fun _ => .pure c _
  | raise message => exact .failHere c _

theorem run_keeps_of_execute (c : Chained T) {engine : Nat} {i : Invocation} {seq : Sequence}
    {instrs : List Instr} (he : ∀ instr ∈ instrs, ∀ own last,
      Eval.Keeps T (execute r engine i seq own last instr)) (own : Nat) (last : Value) :
    Eval.Keeps T (run r engine i seq own last instrs) := by
  induction instrs generalizing own last with
  | nil => exact .pure c _
  | cons instr rest ih =>
    refine .bind c (he instr List.mem_cons_self own last).attempt fun o => ?_
    cases o with
    | ok result => exact ih (fun instr among => he instr (List.mem_cons_of_mem _ among)) _ _
    | failed f => exact .pure c _
    | panicked t => exact .pure c _

theorem report_keeps (w : Telling T) (o : Outcome Value) : Eval.Keeps T (report o) := by
  cases o with
  | failed f => exact .log w _
  | ok v => exact .pure w.toChained ()
  | panicked t => exact .pure w.toChained ()

theorem interpret_keeps_of_execute (w : Working T) {engine : Nat} {i : Invocation} {seq : Sequence}
    (he : ∀ instr ∈ seq.instrs, ∀ own last, Eval.Keeps T (execute r engine i seq own last instr)) :
    Eval.Keeps T (interpret r engine i seq) := by
  have c := w.toChained
  refine .bind c (run_keeps_of_execute c he 0 .nil) fun result => ?_
  obtain ⟨o, own⟩ := result
  refine .bind c (report_keeps w.toTelling o) fun _ => ?_
  exact .ensuring c (.ofOutcome c o) (.popFrames w.toMoving own)

theorem execute_keeps (w : Stepwise T) (hr : r.Keeps T) (engine : Nat) (i : Invocation)
    (seq : Sequence) (own : Nat) (last : Value) (instr : Instr) :
    Eval.Keeps T (execute r engine i seq own last instr) :=
  execute_keeps_of_define w.working (fun scope _ => define_keeps w.guarded hr engine i seq scope) own
    last

theorem run_keeps (w : Stepwise T) (hr : r.Keeps T) (engine : Nat) (i : Invocation) (seq : Sequence)
    (own : Nat) (last : Value) (instrs : List Instr) :
    Eval.Keeps T (run r engine i seq own last instrs) :=
  run_keeps_of_execute w.toChained (fun instr _ own last =>
    execute_keeps w hr engine i seq own last instr) own last

theorem interpret_keeps (w : Stepwise T) (hr : r.Keeps T) (engine : Nat) (i : Invocation)
    (seq : Sequence) : Eval.Keeps T (interpret r engine i seq) :=
  interpret_keeps_of_execute w.working fun instr _ own last =>
    execute_keeps w hr engine i seq own last instr

end Interpreter

namespace Env

theorem reach_keeps {env : Env} (q : Quiet T) (hi : ∀ r : Reach, r.Keeps T → ∀ engine i seq,
      Eval.Keeps T (env.engine r engine i seq)) (depth : Nat) : (env.reach depth).Keeps T := by
  refine ⟨.readyAt q.toAside.preparing depth, ?_⟩
  change ∀ h i seq, Eval.Keeps T (env.interpretAt depth h i seq)
  induction depth with
  | zero => exact fun _ _ _ => .exhausted q.toChained
  | succ depth ih =>
    intro h i seq
    refine .bind q.toChained (.read q.toChained _) fun st => .ite (fun _ => ?_) fun _ => ?_
    · exact .holding q.toAside (hi _ ⟨.readyAt q.toAside.preparing depth, ih⟩ h.engine i seq)
    · exact .failHere q.toChained _

end Env

theorem Stepwise.reach {source : Scope → Nat → Store → Lowering} (w : Stepwise T) (depth : Nat) :
    ((Env.interpreting source).reach depth).Keeps T :=
  Env.reach_keeps w.toQuiet (fun _ hr => Interpreter.interpret_keeps w hr) depth

end BodyCall
