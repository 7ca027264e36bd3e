import BodyCall.Proofs.Backstage
import BodyCall.Proofs.Course

/-!
# Two runs in lockstep

Two runs that start from twin states, whose contexts differ at most in what is in their frames and
whose stores are related, go through the same acts and end in the same way in twin states: nothing
reads a frame back. The relation between the stores is given, and so is that invocations stay in
lockstep one level further down; then interpretations do so here. What only takes acts of the stacks
to be in lockstep is stated for any relation between states that these acts keep.
-/

namespace BodyCall

open Eval

/-- Contexts that differ at most in what is in their frames. -/
structure Context.Similar (c d : Context) : Prop where
  settings : d.settings = c.settings
  line : d.line = c.line
  backtrace : d.backtrace = c.backtrace
  depth : d.frames.length = c.frames.length

theorem Context.Similar.refl (c : Context) : c.Similar c := ⟨rfl, rfl, rfl, rfl⟩

theorem Context.Similar.exceeded {c d : Context} (h : c.Similar d) : d.exceeded? = c.exceeded? := by
  rw [exceeded?, exceeded?, h.settings, h.depth]

theorem Context.Similar.eq {c d : Context} (h : c.Similar d) (frames : d.frames = c.frames) :
    d = c := by
  obtain ⟨settings, line, backtrace, -⟩ := h
  cases c
  cases d
  simp_all only

/-- States under the same settings that differ at most in what is in their frames, in what has
happened and, as far as `R` allows, in their stores. -/
structure Twin (under : Settings) (R : Store → Store → Prop) (s t : State) : Prop
    extends s.context.Similar t.context where
  kept : s.context.settings = under
  store : R s.store t.store

namespace Outcome

/-- Outcomes of one kind, with the same failure or panic or with values that are related. -/
inductive Like {α β : Type} (V : α → β → Prop) : Outcome α → Outcome β → Prop where
  | ok {a : α} {b : β} (h : V a b) : Like V (.ok a) (.ok b)
  | failed (f : Failure) : Like V (.failed f) (.failed f)
  | panicked (t : String) : Like V (.panicked t) (.panicked t)

variable {α β : Type}

theorem Like.refl (o : Outcome α) : Like Eq o o := by
  cases o with
  | ok a => exact .ok rfl
  | failed f => exact .failed f
  | panicked t => exact .panicked t

theorem Like.eq {o o' : Outcome α} (h : Like Eq o o') : o' = o := by
  cases h with
  | ok same => rw [same]
  | failed f => rfl
  | panicked t => rfl

theorem Like.imp {V W : α → β → Prop} {o : Outcome α} {o' : Outcome β} (h : Like V o o')
    (weaker : ∀ a b, V a b → W a b) : Like W o o' := by
  cases h with
  | ok here => exact .ok (weaker _ _ here)
  | failed f => exact .failed f
  | panicked t => exact .panicked t

theorem Like.afterCleanup {V : α → β → Prop} {o : Outcome α} {o' : Outcome β} (h : Like V o o')
    (c : Outcome Unit) : Like V (o.afterCleanup c) (o'.afterCleanup c) := by
  cases c with
  | ok u => exact h
  | failed f =>
    cases h with
    | ok | failed => exact .failed f
    | panicked t => exact .panicked t
  | panicked t' =>
    cases h with
    | ok | failed => exact .panicked t'
    | panicked t => exact .panicked t

end Outcome

namespace Eval

variable {α β γ δ : Type} {R : State → State → Prop} {V : α → β → Prop} {W : γ → δ → Prop}

/-- Two runs are both cut off, or both end, in like outcomes and related states. -/
inductive Met (R : State → State → Prop) (V : α → β → Prop) :
    Option (Outcome α) × State → Option (Outcome β) × State → Prop where
  | cut (s t : State) : Met R V (none, s) (none, t)
  | ended {o : Outcome α} {o' : Outcome β} {s t : State} (like : o.Like V o') (related : R s t) :
      Met R V (some o, s) (some o', t)

def Lockstep (R : State → State → Prop) (V : α → β → Prop) (x : Eval α) (y : Eval β) : Prop :=
  ∀ s t, R s t → Met R V (x s) (y t)

theorem Met.bind {x : Eval α} {y : Eval β} {k : α → Eval γ} {l : β → Eval δ} {s t : State}
    (met : Met R V (x s) (y t)) (hk : ∀ a b, V a b → Lockstep R W (k a) (l b)) :
    Met R W ((x >>= k) s) ((y >>= l) t) := by
  generalize hp : x s = p at met
  generalize hq : y t = q at met
  cases met with
  | cut s₁ t₁ =>
    rw [bind_of_none hp, bind_of_none hq]
    exact .cut s₁ t₁
  | ended like related₁ =>
    cases like with
    | ok h =>
      rw [bind_of_ok hp, bind_of_ok hq]
      exact hk _ _ h _ _ related₁
    | failed f =>
      rw [bind_of_failed hp, bind_of_failed hq]
      exact .ended (.failed f) related₁
    | panicked m =>
      rw [bind_of_panicked hp, bind_of_panicked hq]
      exact .ended (.panicked m) related₁

namespace Lockstep

variable {x : Eval α} {y : Eval β} {k : α → Eval γ} {l : β → Eval δ}

theorem ofOutcome {o : Outcome α} {o' : Outcome β} (h : o.Like V o') :
    Lockstep R V (ofOutcome o) (ofOutcome o') := fun _ _ related => .ended h related

theorem pure {a : α} {b : β} (h : V a b) : Lockstep R V (Pure.pure a : Eval α) (Pure.pure b) :=
  ofOutcome (.ok h)

theorem exhausted : Lockstep R V (exhausted : Eval α) (Eval.exhausted : Eval β) :=
  fun s t _ => .cut s t

theorem bind (hx : Lockstep R V x y) (hk : ∀ a b, V a b → Lockstep R W (k a) (l b)) :
    Lockstep R W (x >>= k) (y >>= l) := fun s t related => (hx s t related).bind hk

theorem imp {V' : α → β → Prop} (hx : Lockstep R V x y) (weaker : ∀ a b, V a b → V' a b) :
    Lockstep R V' x y := by
  intro s t related
  have met := hx s t related
  generalize x s = p at met ⊢
  generalize y t = q at met ⊢
  cases met with
  | cut s₁ t₁ => exact .cut s₁ t₁
  | ended like related₁ => exact .ended (like.imp weaker) related₁

theorem attempt (hx : Lockstep R V x y) : Lockstep R (Outcome.Like V) (attempt x) (attempt y) := by
  intro s t related
  have met := hx s t related
  generalize hp : x s = p at met
  generalize hq : y t = q at met
  cases met with
  | cut s₁ t₁ =>
    rw [attempt_of_none hp, attempt_of_none hq]
    exact .cut s₁ t₁
  | ended like related₁ =>
    rw [attempt_of_ended hp, attempt_of_ended hq]
    exact .ended (.ok like) related₁

theorem ensuring {cleanup cleanup' : Eval Unit} (hx : Lockstep R V x y)
    (hc : Lockstep R Eq cleanup cleanup') :
    Lockstep R V (ensuring x cleanup) (ensuring y cleanup') := by
  refine bind hx.attempt fun o o' like => bind hc.attempt fun c c' same => ?_
  rw [same.eq]
  exact ofOutcome (like.afterCleanup c)

end Lockstep

end Eval

/-! ## Acts of the stacks -/

/-- Each act of the stacks keeps two runs in lockstep. The frames that they push may differ as far as
`F` allows. -/
structure Acts (A : State → State → Prop) (F : Frame → Frame → Prop) : Prop where
  line : Eval.Lockstep A (fun c d : Context => d.line = c.line) context context
  setLine : ∀ n, Eval.Lockstep A Eq (setLine n) (setLine n)
  attached : ∀ f, Eval.Lockstep A Eq (attached f) (attached f)
  pushEntry : ∀ e, Eval.Lockstep A Eq (pushEntry e) (pushEntry e)
  popEntry : Eval.Lockstep A Eq popEntry popEntry
  pushFrame : ∀ {f f'}, F f f' → Eval.Lockstep A Eq (pushFrame f) (pushFrame f')
  popFrame : Eval.Lockstep A Eq popFrame popFrame

namespace Acts

variable {α β : Type} {V : α → β → Prop} {A : State → State → Prop} {F : Frame → Frame → Prop}
  {x : Eval α} {y : Eval β}

theorem failHere (acts : Acts A F) (c : Cause) :
    Eval.Lockstep A V (failHere c : Eval α) (Eval.failHere c : Eval β) := by
  refine (acts.attached ⟨c, none⟩).bind fun f _ same => ?_
  subst same
  exact .ofOutcome (.failed f)

theorem popFrames (acts : Acts A F) (n : Nat) :
    Eval.Lockstep A Eq (popFrames n) (Eval.popFrames n) := by
  induction n with
  | zero => exact .pure rfl
  | succ n ih => exact acts.popFrame.bind fun _ _ _ => ih

theorem attaching (acts : Acts A F) (h : Eval.Lockstep A V x y) :
    Eval.Lockstep A V (attaching x) (Eval.attaching y) := by
  refine h.attempt.bind fun o o' like => ?_
  cases like with
  | ok same => exact .ofOutcome (.ok same)
  | panicked m => exact .ofOutcome (.panicked m)
  | failed f =>
    refine (acts.attached f).bind fun f' _ same => ?_
    subst same
    exact .ofOutcome (.failed f')

theorem withBacktrace (acts : Acts A F) (e : Entry) (h : Eval.Lockstep A V x y) :
    Eval.Lockstep A V (withBacktrace e x) (Eval.withBacktrace e y) := by
  refine (acts.pushEntry e).bind fun _ _ _ => (acts.attaching h).ensuring ?_
  exact acts.popEntry.bind fun _ _ _ => .pure rfl

theorem withProtocol (acts : Acts A F) (explicit : Bool) {f f' : Frame} (like : F f f')
    (h : Eval.Lockstep A V x y) :
    Eval.Lockstep A V (withProtocol explicit f x) (Eval.withProtocol explicit f' y) := by
  cases explicit with
  | true => exact h
  | false =>
    have entered : Eval.Lockstep A Eq (enterProtocol false f) (enterProtocol false f') :=
      (acts.pushFrame like).bind fun _ _ _ => .pure rfl
    refine entered.bind fun pushed _ same => ?_
    subst same
    cases pushed with
    | true => exact h.ensuring acts.popFrame
    | false => exact h

end Acts

namespace Interpreter

variable {A : State → State → Prop} {F : Frame → Frame → Prop} {V : Value → Value → Prop}
  {r r' : Reach} {engine : Nat} {i i' : Invocation} {seq seq' : Sequence}

/-- The sequences have pushed as many frames, and their last values are related. -/
structure Counted (V : Value → Value → Prop) (p q : Nat × Value) : Prop where
  own : p.1 = q.1
  last : V p.2 q.2

/-- The sequences have come to like ends and have left as many frames. -/
structure Finished (V : Value → Value → Prop) (p q : Outcome Value × Nat) : Prop where
  like : p.1.Like V q.1
  own : p.2 = q.2

theorem Finished.eq {p q : Outcome Value × Nat} (h : Finished Eq p q) : p = q :=
  Prod.ext h.like.eq.symm h.own

theorem execute_lockstep_of_define {instr : Instr} (acts : Acts A F)
    (frames : F (ownFrame i) (ownFrame i')) (receiver : V i.call.receiver i'.call.receiver)
    (put : ∀ v, instr = .put v → V v v)
    (defined : ∀ scope, instr = .define scope → Eval.Lockstep A V (define r engine i seq scope)
      (define r' engine i' seq' scope)) (own : Nat) {last last' : Value} (like : V last last') :
    Eval.Lockstep A (Counted V) (execute r engine i seq own last instr)
      (execute r' engine i' seq' own last' instr) := by
  cases instr with
  | line n => exact .bind (acts.setLine n) fun _ _ _ => .pure ⟨rfl, like⟩
  | put v => exact .pure ⟨rfl, put v rfl⟩
  | putSelf => exact .pure ⟨rfl, receiver⟩
  | raise message => exact acts.failHere _
  | pushFrame => exact .bind (acts.pushFrame frames) fun _ _ _ => .pure ⟨rfl, like⟩
  | popFrame =>
    cases own with
    | zero => exact acts.failHere _
    | succ own => exact .bind acts.popFrame fun _ _ _ => .pure ⟨rfl, like⟩
  | define scope => exact .bind (defined scope rfl) fun v v' same => .pure ⟨rfl, same⟩

theorem run_lockstep_of_execute {instrs : List Instr}
    (executed : ∀ instr ∈ instrs, ∀ own last last', V last last' →
      Eval.Lockstep A (Counted V) (execute r engine i seq own last instr)
        (execute r' engine i' seq' own last' instr)) (own : Nat) {last last' : Value}
    (like : V last last') : Eval.Lockstep A (Finished V) (run r engine i seq own last instrs)
      (run r' engine i' seq' own last' instrs) := by
  induction instrs generalizing own last last' with
  | nil => exact .pure ⟨.ok like, rfl⟩
  | cons instr rest ih =>
    have first := executed instr List.mem_cons_self own last last' like
    refine .bind first.attempt fun o o' ended => ?_
    cases ended with
    | failed f => exact .pure ⟨.failed f, rfl⟩
    | panicked m => exact .pure ⟨.panicked m, rfl⟩
    | @ok p q counted =>
      obtain ⟨own₁, last₁⟩ := p
      obtain ⟨own₂, last₂⟩ := q
      obtain ⟨same, like₁⟩ := counted
      subst same
      exact ih (fun instr among => executed instr (List.mem_cons_of_mem _ among)) _ like₁

theorem interpret_lockstep_of_execute (acts : Acts A F)
    (reported : ∀ o o', o.Like V o' → Eval.Lockstep A Eq (report o) (report o'))
    (nil : V .nil .nil) (instrs : seq.instrs = seq'.instrs)
    (executed : ∀ instr ∈ seq.instrs, ∀ own last last', V last last' →
      Eval.Lockstep A (Counted V) (execute r engine i seq own last instr)
        (execute r' engine i' seq' own last' instr)) :
    Eval.Lockstep A V (interpret r engine i seq) (interpret r' engine i' seq') := by
  unfold interpret
  rw [← instrs]
  refine .bind (run_lockstep_of_execute executed 0 nil) fun p q finished => ?_
  obtain ⟨o, own⟩ := p
  obtain ⟨o', own'⟩ := q
  obtain ⟨like, same⟩ := finished
  subst same
  exact (reported o o' like).bind fun _ _ _ => .ensuring (.ofOutcome like) (acts.popFrames own)

end Interpreter

theorem Body.dispatch_lockstep {A : State → State → Prop} {F : Frame → Frame → Prop}
    {V : Value → Value → Prop} {r r' : Reach} {b b' : Body} {c c' : Call} {block block' : Block}
    {seq seq' : Sequence} (acts : Acts A F) (scope : b.scope = b'.scope)
    (file : seq.file = seq'.file)
    (run : ∀ label, Eval.Lockstep A V (r.interpret seq.handle (invocation label c block) seq)
      (r'.interpret seq'.handle (invocation label c' block') seq')) :
    Eval.Lockstep A V (b.dispatch r c seq block) (b'.dispatch r' c' seq' block') := by
  unfold dispatch
  rw [← scope]
  cases b.scope.label? with
  | none => exact .ofOutcome (.panicked _)
  | some label =>
    refine .bind acts.line fun context context' same => ?_
    rw [same, file]
    exact acts.withBacktrace _ (run label)

/-! ## Acts on twin states -/

variable {under : Settings} {R : Store → Store → Prop} {s t : State}

namespace Twin

theorem told (h : Twin under R s t) (earlier earlier' : List Event) :
    Twin under R { s with trace := earlier } { t with trace := earlier' } :=
  ⟨h.toSimilar, h.kept, h.store⟩

theorem stored (h : Twin under R s t) {st st' : Store} (related : R st st') :
    Twin under R { s with store := st } { t with store := st' } := ⟨h.toSimilar, h.kept, related⟩

theorem onLine (h : Twin under R s t) (n : Nat) :
    Twin under R { s with context := { s.context with line := n } }
      { t with context := { t.context with line := n } } :=
  ⟨⟨h.settings, rfl, h.backtrace, h.depth⟩, h.kept, h.store⟩

theorem move (h : Twin under R s t) (m m' : Motion) (backtrace : Backtrace)
    {frames frames' : List Frame} (depth : frames'.length = frames.length) :
    Twin under R (s.move m backtrace frames) (t.move m' backtrace frames') :=
  ⟨⟨h.settings, h.toSimilar.line, rfl, depth⟩, h.kept, h.store⟩

end Twin

namespace Eval.Lockstep

variable {α β : Type} {V : α → β → Prop} {x : Eval α} {y : Eval β}

theorem context : Lockstep (Twin under R) Context.Similar context context :=
  fun _ _ twin => .ended (.ok twin.toSimilar) twin

theorem emit (e e' : Event) : Lockstep (Twin under R) Eq (emit e) (emit e') :=
  fun _ _ twin => .ended (.ok rfl) (twin.told _ _)

theorem setLine (n : Nat) : Lockstep (Twin under R) Eq (setLine n) (setLine n) :=
  fun _ _ twin => .ended (.ok rfl) (twin.onLine n)

theorem pushFrame (f f' : Frame) : Lockstep (Twin under R) Eq (pushFrame f) (pushFrame f') := by
  intro s t twin
  have limit := twin.exceeded
  cases room : s.context.exceeded? with
  | none =>
    rw [room] at limit
    rw [pushFrame_run room, pushFrame_run limit, twin.backtrace]
    exact .ended (.ok rfl) (twin.move _ _ _ (congrArg Nat.succ twin.depth))
  | some max =>
    rw [room] at limit
    rw [pushFrame_refused room, pushFrame_refused limit, twin.backtrace]
    exact .ended (.failed _) (twin.move _ _ _ twin.depth)

theorem popFrame : Lockstep (Twin under R) Eq popFrame popFrame := by
  intro s t twin
  have depth := twin.depth
  cases left : s.context.frames with
  | nil =>
    rw [left, List.length_nil, List.length_eq_zero_iff] at depth
    rw [popFrame_empty left, popFrame_empty depth]
    exact .ended (.panicked _) twin
  | cons f rest =>
    cases right : t.context.frames with
    | nil =>
      rw [left, right] at depth
      cases depth
    | cons f' rest' =>
      rw [left, right] at depth
      rw [popFrame_run left, popFrame_run right, twin.backtrace]
      exact .ended (.ok rfl) (twin.move _ _ _ (Nat.succ.inj depth))

theorem pushEntry (e : Entry) : Lockstep (Twin under R) Eq (pushEntry e) (pushEntry e) := by
  intro s t twin
  rw [pushEntry_run, pushEntry_run, twin.backtrace]
  exact .ended (.ok rfl) (twin.move _ _ _ twin.depth)

theorem popEntry : Lockstep (Twin under R) Eq popEntry popEntry := by
  intro s t twin
  cases left : s.context.backtrace with
  | nil =>
    have right := twin.backtrace.trans left
    rw [Eval.popEntry, context_bind, context_bind, left, right]
    exact .ended (.panicked _) twin
  | cons e rest =>
    rw [popEntry_run left, popEntry_run (twin.backtrace.trans left)]
    exact .ended (.ok rfl) (twin.move _ _ _ twin.depth)

end Eval.Lockstep

theorem Twin.acts : Acts (Twin under R) fun _ _ => True where
  line _ _ twin := .ended (.ok twin.toSimilar.line) twin
  setLine := .setLine
  attached f := .bind .context fun c d similar => .pure (by rw [similar.backtrace])
  pushEntry := .pushEntry
  popEntry := .popEntry
  pushFrame _ := .pushFrame _ _
  popFrame := .popFrame

/-! ## Runs of bodies and sequences -/

/-- What a relation between stores must stand to go through a run. -/
structure Stores (R : Store → Store → Prop) : Prop where
  definition : ∀ {st st'}, R st st' → ∀ engine scope,
    st'.definition? engine scope = st.definition? engine scope
  newBody : ∀ {st st'}, R st st' → ∀ scope parent handle,
    Interpreter.newBody st' scope parent handle = Interpreter.newBody st scope parent handle
  defining : ∀ {st st'}, R st st' → ∀ engine b,
    R (Interpreter.defining st engine b) (Interpreter.defining st' engine b)
  running : ∀ {st st'}, R st st' → ∀ g : List Nat → List Nat,
    R { st with running := g st.running } { st' with running := g st'.running }
  reaches : ∀ {st st'}, R st st' → ∀ h, st'.reaches h = st.reaches h

theorem Stores.eq : Stores Eq where
  definition h _ _ := by rw [h]
  newBody h _ _ _ := by rw [h]
  defining h _ _ := by rw [h]
  running h _ := by rw [h]
  reaches h _ := by rw [h]

/-- Invocations of one body with one receiver stay in lockstep, whatever else the calls say. -/
def Reach.Lockstep (under : Settings) (R : Store → Store → Prop) (r r' : Reach) : Prop :=
  ∀ (b : Body) (c c' : Call) (block block' : Block), c.receiver = c'.receiver →
    Eval.Lockstep (Twin under R) Eq (b.invoke r c block) (b.invoke r' c' block')

namespace Body

theorem announce_lockstep (b : Body) (c c' : Call) :
    Eval.Lockstep (Twin under R) Eq (b.announce c) (b.announce c') := by
  refine .bind .context fun context context' similar => ?_
  rw [similar.settings]
  cases context.settings.debug.execution with
  | true => exact .emit _ _
  | false => exact .pure rfl

variable {r r' : Reach} {b : Body} {c c' : Call} {block block' : Block} {seq seq' : Sequence}

theorem invoke_lockstep {V : Sequence → Sequence → Prop}
    (ready : Eval.Lockstep (Twin under R) V (b.sequence r) (b.sequence r'))
    (enter : ∀ seq seq', V seq seq' → Eval.Lockstep (Twin under R) Eq
      (withProtocol seq.explicit (b.frame c block) (b.dispatch r c seq block))
      (withProtocol seq'.explicit (b.frame c' block') (b.dispatch r' c' seq' block'))) :
    Eval.Lockstep (Twin under R) Eq (b.invoke r c block) (b.invoke r' c' block') :=
  .bind (announce_lockstep b c c') fun _ _ _ => ready.bind enter

end Body

namespace Interpreter

variable {r r' : Reach} {engine : Nat} {i i' : Invocation} {seq seq' : Sequence}

theorem bodyFor_lockstep (stores : Stores R) (scope : Scope) (parent : Option Module)
    (handle : Handle) : Eval.Lockstep (Twin under R) Eq (bodyFor engine scope parent handle)
      (bodyFor engine scope parent handle) := by
  intro s t twin
  have found := stores.definition twin.store engine scope
  cases known : s.store.definition? engine scope with
  | some b =>
    rw [bodyFor_known known, bodyFor_known (found.trans known)]
    exact .ended (.ok rfl) twin
  | none =>
    rw [bodyFor_absent known, bodyFor_absent (found.trans known), stores.newBody twin.store]
    exact .ended (.ok rfl) ((twin.stored (stores.defining twin.store _ _)).told _ _)

theorem execute_lockstep (stores : Stores R) (hr : r.Lockstep under R r')
    (receiver : i.call.receiver = i'.call.receiver) (handle : seq.handle = seq'.handle)
    (instr : Instr) (own : Nat) (last last' : Value) (like : last = last') :
    Eval.Lockstep (Twin under R) (Counted Eq) (execute r engine i seq own last instr)
      (execute r' engine i' seq' own last' instr) := by
  refine execute_lockstep_of_define Twin.acts trivial receiver (fun _ _ => rfl) (fun scope _ => ?_)
    own like
  unfold define
  rw [receiver, handle]
  refine .bind (.emit _ _) fun _ _ _ => .bind (bodyFor_lockstep stores _ _ _) fun b _ same => ?_
  subst same
  exact hr b _ _ _ _ rfl

theorem run_lockstep (stores : Stores R) (hr : r.Lockstep under R r')
    (receiver : i.call.receiver = i'.call.receiver) (handle : seq.handle = seq'.handle)
    (own : Nat) (last : Value) (instrs : List Instr) :
    Eval.Lockstep (Twin under R) Eq (run r engine i seq own last instrs)
      (run r' engine i' seq' own last instrs) := by
  have finished : Eval.Lockstep (Twin under R) (Finished Eq) (run r engine i seq own last instrs)
      (run r' engine i' seq' own last instrs) :=
    run_lockstep_of_execute (fun instr _ => execute_lockstep stores hr receiver handle instr) own rfl
  exact finished.imp fun _ _ => Finished.eq

theorem report_lockstep {V : Value → Value → Prop} (o o' : Outcome Value) (like : o.Like V o') :
    Eval.Lockstep (Twin under R) Eq (report o) (report o') := by
  cases like with
  | failed f => exact .emit _ _
  | ok here => exact .pure rfl
  | panicked m => exact .pure rfl

theorem interpret_lockstep (stores : Stores R) (hr : r.Lockstep under R r')
    (receiver : i.call.receiver = i'.call.receiver) (handle : seq.handle = seq'.handle)
    (instrs : seq.instrs = seq'.instrs) :
    Eval.Lockstep (Twin under R) Eq (interpret r engine i seq) (interpret r' engine i' seq') :=
  interpret_lockstep_of_execute Twin.acts report_lockstep rfl instrs fun instr _ =>
    execute_lockstep stores hr receiver handle instr

end Interpreter

/-- What a relation between states must stand to go through a call of an engine. -/
structure Calls (A : State → State → Prop) : Prop where
  backtrace : ∀ {s t}, A s t → t.context.backtrace = s.context.backtrace
  reaches : ∀ {s t}, A s t → ∀ h, t.store.reaches h = s.store.reaches h
  running : ∀ {s t}, A s t → ∀ g : List Nat → List Nat,
    A { s with store := { s.store with running := g s.store.running } }
      { t with store := { t.store with running := g t.store.running } }

theorem Twin.calls (stores : Stores R) : Calls (Twin under R) where
  backtrace twin := twin.backtrace
  reaches twin := stores.reaches twin.store
  running twin g := twin.stored (stores.running twin.store g)

namespace Env

variable {source source' : Scope → Nat → Store → Lowering} {depth : Nat} {h : Handle}
  {i i' : Invocation} {seq seq' : Sequence} {A : State → State → Prop}

/-- A call of an engine is in lockstep with another if the interpretations are. -/
theorem interpretAt_lockstep (calls : Calls A)
    (run : Eval.Lockstep A Eq
      (Interpreter.interpret ((interpreting source).reach depth) h.engine i seq)
      (Interpreter.interpret ((interpreting source').reach depth) h.engine i' seq')) :
    Eval.Lockstep A Eq ((interpreting source).interpretAt (depth + 1) h i seq)
      ((interpreting source').interpretAt (depth + 1) h i' seq') := by
  have change : ∀ g : List Nat → List Nat, Eval.Lockstep A Eq
      (updateStore fun st => { st with running := g st.running })
      (updateStore fun st => { st with running := g st.running }) :=
    fun g _ _ related => .ended (.ok rfl) (calls.running related g)
  intro s t related
  have found := calls.reaches related h
  cases reached : s.store.reaches h with
  | true =>
    rw [interpretAt_reached reached, interpretAt_reached (found.trans reached)]
    refine Eval.Lockstep.ensuring (.bind (change (h.engine :: ·)) fun _ _ _ => run) ?_ s t related
    exact change (List.erase · h.engine)
  | false =>
    rw [interpretAt_gone reached, interpretAt_gone (found.trans reached),
      calls.backtrace related]
    exact .ended (.failed _) related

end Env

end BodyCall
