import BodyCall.Proofs.Guests
import BodyCall.Proofs.Lockstep
import BodyCall.Proofs.Renaming

/-!
# Isolation

A guest runs twice, from states of its engine that agree on what is there for the guest and may differ
in all else. The two runs go side by side. They come to the same definitions, and make modules and
bodies at the same of them, under identities that may differ; so they end alike, up to the identities
of the modules that they make. As a run leaves alone what is there for others, guests that reach
different scopes may run in any order.
-/

namespace BodyCall

open Eval

theorem Outcome.Like.value {n n' : Nat} {v v' : Value} {o : Outcome Value}
    (like : Outcome.Like (Value.Renamed n n') (.ok v) o) (same : v.Renamed n n' v') : o = .ok v' := by
  cases like with
  | ok here => rw [(Value.Renamed.biUnique n n').2 here same]

theorem Eval.Met.value {R : State → State → Prop} {n n' : Nat} {v v' : Value}
    {p q : Option (Outcome Value) × State} (met : Met R (Value.Renamed n n') p q)
    (ended : p.1 = some (.ok v)) (same : v.Renamed n n' v') : q.1 = some (.ok v') := by
  cases met with
  | cut => cases ended
  | ended like =>
    cases ended
    exact congrArg some (like.value same)

def Sequence.Same (seq seq' : Sequence) : Prop := seq' = { seq with id := seq'.id }

namespace Guest

/-- Two bodies that are the same up to their identities, with modules as related, and as ready. -/
structure Kin (R : Module → Module → Prop) (st st' : Store) (b b' : Body) : Prop where
  scope : b'.scope = b.scope
  module : R b.implementationClass b'.implementationClass
  handle : b'.handle = b.handle
  sequences : Option.Rel Sequence.Same (st.sequence? b) (st'.sequence? b')

def Alike (G : Guest) (R : Module → Module → Prop) (st st' : Store) : Prop :=
  ∀ scope, G.Reaches scope →
    Option.Rel (Kin R st st') (st.definition? G.engine scope) (st'.definition? G.engine scope)

/-- The stores of two runs that have come equally far. Calls in progress are as given. -/
structure InStep (G : Guest) (made made' : List Body) (st₀ st₀' : Store) (calls calls' : List Nat)
    (st st' : Store) : Prop where
  left : G.Confined made st₀ st
  right : G.Confined made' st₀' st'
  running : st.running = calls
  running' : st'.running = calls'
  modules : ∃ k, st.nextModule = st₀.nextModule + k ∧ st'.nextModule = st₀'.nextModule + k
  alike : G.Alike (Module.Renamed st₀.nextModule st₀'.nextModule) st st'

/-- A body of one run and the one that it corresponds to in the other. -/
def Paired (G : Guest) (st st' : Store) (b b' : Body) : Prop :=
  b = G.top ∧ b' = G.top ∨
    ∃ scope, G.Reaches scope ∧ st.definition? G.engine scope = some b ∧
      st'.definition? G.engine scope = some b'

variable {G : Guest} {made made' : List Body} {st₀ st₀' st st' : Store} {calls calls' : List Nat}
  {b b' : Body}

theorem Alike.cases {R : Module → Module → Prop} (h : G.Alike R st st') {scope : Scope}
    (reached : G.Reaches scope) :
    st.definition? G.engine scope = none ∧ st'.definition? G.engine scope = none ∨
      ∃ b b', st.definition? G.engine scope = some b ∧ st'.definition? G.engine scope = some b' ∧
        Kin R st st' b b' := by
  have kin := h scope reached
  generalize st.definition? G.engine scope = there at kin ⊢
  generalize st'.definition? G.engine scope = there' at kin ⊢
  cases kin with
  | none => exact .inl ⟨rfl, rfl⟩
  | some kin => exact .inr ⟨_, _, rfl, rfl, kin⟩

theorem Alike.of_places {R : Module → Module → Prop}
    (each : ∀ scope, G.Reaches scope →
      st.definition? G.engine scope = none ∧ st'.definition? G.engine scope = none ∨
        ∃ b b', st.definition? G.engine scope = some b ∧ st'.definition? G.engine scope = some b' ∧
          Kin R st st' b b') : G.Alike R st st' := by
  intro scope reached
  rcases each scope reached with ⟨none, none'⟩ | ⟨b, b', found, found', kin⟩
  · rw [none, none']
    exact .none
  · rw [found, found']
    exact .some kin

theorem Alike.kin {R : Module → Module → Prop} (h : G.Alike R st st') {scope : Scope}
    (reached : G.Reaches scope) (found : st.definition? G.engine scope = some b)
    (found' : st'.definition? G.engine scope = some b') : Kin R st st' b b' := by
  rcases h.cases reached with ⟨none, -⟩ | ⟨e, e', here, here', kin⟩
  · rw [found] at none
    cases none
  · cases found.symm.trans here
    cases found'.symm.trans here'
    exact kin

theorem Alike.imp {R R' : Module → Module → Prop} {st₁ st₁' : Store} (h : G.Alike R st st')
    (same : ∀ scope, G.Reaches scope →
      st₁.definition? G.engine scope = st.definition? G.engine scope)
    (same' : ∀ scope, G.Reaches scope →
      st₁'.definition? G.engine scope = st'.definition? G.engine scope)
    (kin : ∀ scope b b', G.Reaches scope → st.definition? G.engine scope = some b →
      st'.definition? G.engine scope = some b' → Kin R st st' b b' → Kin R' st₁ st₁' b b') :
    G.Alike R' st₁ st₁' := by
  refine .of_places fun scope reached => ?_
  rw [same scope reached, same' scope reached]
  refine (h.cases reached).imp_right ?_
  rintro ⟨b, b', found, found', there⟩
  exact ⟨b, b', found, found', kin scope b b' reached found found' there⟩

theorem Alike.refl (G : Guest) (st : Store) : G.Alike Eq st st := by
  refine .of_places fun scope _ => ?_
  cases st.definition? G.engine scope with
  | none => exact .inl ⟨rfl, rfl⟩
  | some b =>
    refine .inr ⟨b, b, rfl, rfl, rfl, rfl, rfl, ?_⟩
    cases st.sequence? b with
    | none => exact .none
    | some seq => exact .some rfl

theorem Paired.known (pair : G.Paired st st' b b') : G.Knows st b ∧ G.Knows st' b' := by
  rcases pair with ⟨rfl, rfl⟩ | ⟨scope, reached, found, found'⟩
  · exact ⟨.inl rfl, .inl rfl⟩
  · exact ⟨.inr ⟨scope, reached, found⟩, .inr ⟨scope, reached, found'⟩⟩

theorem Paired.kin {R : Module → Module → Prop} (alike : G.Alike R st st')
    (pair : G.Paired st st' b b') : b'.scope = b.scope ∧ b'.handle = b.handle := by
  rcases pair with ⟨rfl, rfl⟩ | ⟨scope, reached, found, found'⟩
  · exact ⟨rfl, rfl⟩
  · have kin := alike.kin reached found found'
    exact ⟨kin.scope, kin.handle⟩

theorem Paired.same_or_apart (left : G.Housed made st) (right : G.Housed made' st')
    (pair : G.Paired st st' b b') {scope : Scope} {e e' : Body}
    (found : st.definition? G.engine scope = some e)
    (found' : st'.definition? G.engine scope = some e') :
    b = e ∧ b' = e' ∨ b.id ≠ e.id ∧ b'.id ≠ e'.id := by
  rcases pair with ⟨rfl, rfl⟩ | ⟨other, -, here, here'⟩
  · exact .inr ⟨(left.apart_of_made found left.top).symm, (right.apart_of_made found' right.top).symm⟩
  · by_cases place : other.id = scope.id
    · rw [Store.definition?, place] at here here'
      cases here.symm.trans found
      cases here'.symm.trans found'
      exact .inl ⟨rfl, rfl⟩
    · refine .inr ⟨fun same => ?_, fun same => ?_⟩
      · exact place (left.place here found same).2.1
      · exact place (right.place here' found' same).2.1

namespace InStep

variable {st₁ st₁' : Store}

theorem rest (h : G.InStep made made' st₀ st₀' calls calls' st st')
    (left : G.Confined made st₀ st₁) (right : G.Confined made' st₀' st₁')
    (resting : Resting st st₁) (resting' : Resting st' st₁')
    (sequences : ∀ scope, G.Reaches scope → ∀ e e', st.definition? G.engine scope = some e →
      st'.definition? G.engine scope = some e' →
      Option.Rel Sequence.Same (st.sequence? e) (st'.sequence? e') →
      Option.Rel Sequence.Same (st₁.sequence? e) (st₁'.sequence? e')) :
    G.InStep made made' st₀ st₀' calls calls' st₁ st₁' := by
  obtain ⟨k, count, count'⟩ := h.modules
  refine ⟨left, right, resting.running.trans h.running, resting'.running.trans h.running',
    ⟨k, resting.nextModule.trans count, resting'.nextModule.trans count'⟩, h.alike.imp
      (fun scope _ => Store.definition?_congr resting.definitions G.engine scope)
      (fun scope _ => Store.definition?_congr resting'.definitions G.engine scope) ?_⟩
  intro scope e e' reached found found' kin
  exact ⟨kin.scope, kin.module, kin.handle,
    sequences scope reached e e' found found' kin.sequences⟩

theorem asked {s t : State} (h : G.InStep made made' st₀ st₀' calls calls' s.store t.store)
    (scope scope' : Scope) :
    G.InStep made made' st₀ st₀' calls calls' (s.asked scope).store (t.asked scope').store :=
  h.rest (h.left.of_same rfl rfl rfl rfl) (h.right.of_same rfl rfl rfl rfl) ⟨rfl, rfl, rfl⟩
    ⟨rfl, rfl, rfl⟩ fun _ _ _ _ _ _ same => same

theorem readied {s s' t t' : State} {seq seq' : Sequence}
    (h : G.InStep made made' st₀ st₀' calls calls' s.store t.store)
    (pair : G.Paired s.store t.store b b') (ready : G.Readied made st₀ b s seq s')
    (ready' : G.Readied made' st₀' b' t seq' t') :
    seq.Same seq' ∧ G.InStep made made' st₀ st₀' calls calls' s'.store t'.store := by
  obtain ⟨scope, handle⟩ := pair.kin h.alike
  have same : seq.Same seq' := by
    rw [Sequence.Same, ready'.prepares.same, ready.prepares.same, scope, handle]
  refine ⟨same, h.rest ready.confined ready'.confined ready.toResting ready'.toResting ?_⟩
  intro scope reached e e' found found' before
  rcases pair.same_or_apart h.left.housed h.right.housed found found' with
    ⟨rfl, rfl⟩ | ⟨other, other'⟩
  · rw [ready.installed, ready'.installed]
    exact .some same
  · rw [ready.others e other, ready'.others e' other']
    exact before

theorem defined (h : G.InStep made made' st₀ st₀' calls calls' st st') {scope : Scope}
    (reached : G.Reaches scope) (absent : st.definition? G.engine scope = none)
    (absent' : st'.definition? G.engine scope = none) {parent parent' : Option Module}
    (outer : Option.Rel (Module.Renamed st₀.nextModule st₀'.nextModule) parent parent')
    {handle : Handle} (here : handle.engine = G.engine) :
    G.InStep made made' st₀ st₀' calls calls'
      (Interpreter.defining st G.engine (Interpreter.newBody st scope parent handle))
      (Interpreter.defining st' G.engine (Interpreter.newBody st' scope parent' handle)) := by
  obtain ⟨k, count, count'⟩ := h.modules
  have left := h.left.define reached absent parent here
  have right := h.right.define reached absent' parent' here
  refine ⟨left, right, h.running, h.running',
    ⟨k + 1, congrArg Nat.succ count, congrArg Nat.succ count'⟩, .of_places fun other reached' => ?_⟩
  rw [Interpreter.defining, Interpreter.defining, Store.definition?_define,
    Store.definition?_define]
  by_cases place : scope.id = other.id
  · rw [if_pos ⟨rfl, place⟩, if_pos ⟨rfl, place⟩]
    refine .inr ⟨_, _, rfl, rfl, rfl, ?_, rfl, ?_⟩
    · simp only [Interpreter.newBody, count, count']
      exact .nested outer k scope.name scope.kind.moduleKind
    · have new : st.sequence? (Interpreter.newBody st scope parent handle) = none :=
        h.left.housed.sequence?_new (Nat.le_refl _)
      have new' : st'.sequence? (Interpreter.newBody st' scope parent' handle) = none :=
        h.right.housed.sequence?_new (Nat.le_refl _)
      change Option.Rel Sequence.Same (st.sequence? _) (st'.sequence? _)
      rw [new, new']
      exact .none
  · rw [if_neg fun same => place same.2, if_neg fun same => place same.2]
    refine (h.alike.cases reached').imp_right ?_
    rintro ⟨e, e', found, found', kin⟩
    exact ⟨e, e', found, found', kin.scope, kin.module, kin.handle, kin.sequences⟩

theorem calling (h : G.InStep made made' st₀ st₀' calls calls' st st') (now now' : List Nat) :
    G.InStep made made' st₀ st₀' now now' { st with running := now }
      { st' with running := now' } := by
  refine ⟨h.left.of_same rfl rfl rfl rfl, h.right.of_same rfl rfl rfl rfl, rfl, rfl, h.modules,
    h.alike.imp (fun _ _ => rfl) (fun _ _ => rfl) ?_⟩
  intro scope e e' _ _ _ kin
  exact ⟨kin.scope, kin.module, kin.handle, kin.sequences⟩

end InStep

/-- Both runs find an engine behind the handle, as long as these calls are in progress. -/
def Live (G : Guest) (made made' : List Body) (st₀ st₀' : Store) (calls calls' : List Nat)
    (h : Handle) : Prop :=
  ∀ st st', G.InStep made made' st₀ st₀' calls calls' st st' →
    st.reaches h = true ∧ st'.reaches h = true

theorem Live.of_called {h : Handle} (called : h.engine ∈ calls) (called' : h.engine ∈ calls') :
    G.Live made made' st₀ st₀' calls calls' h := fun _ _ step =>
  ⟨Store.reaches_of_running (step.running ▸ called),
    Store.reaches_of_running (step.running' ▸ called')⟩

theorem Live.of_start {h : Handle} (live : st₀.reaches h = true) (live' : st₀'.reaches h = true) :
    G.Live made made' st₀ st₀' st₀.running st₀'.running h := fun _ _ step =>
  ⟨Store.reaches_grown step.left.toBefore step.left.cached step.running live,
    Store.reaches_grown step.right.toBefore step.right.cached step.running' live'⟩

/-! ## Two runs -/

structure Companions (G : Guest) (seq seq' : Sequence) : Prop where
  same : seq.Same seq'
  code : ∃ scope, G.Has scope ∧ seq.instrs = (G.code scope).instrs
  bound : seq.handle.engine = G.engine

abbrev Values (st₀ st₀' : Store) : Value → Value → Prop :=
  Value.Renamed st₀.nextModule st₀'.nextModule

def Constants (G : Guest) (st₀ : Store) : Prop :=
  ∀ scope, G.Has scope → ∀ v, .put v ∈ (G.code scope).instrs → v.Made st₀.nextModule

def Interprets (G : Guest) (source : Scope → Nat → Store → Lowering) (made made' : List Body)
    (st₀ st₀' : Store) (depth : Nat) : Prop :=
  ∀ {under : Settings} {calls calls' : List Nat} {i i' : Invocation} {seq seq' : Sequence},
    G.Companions seq seq' → G.Live made made' st₀ st₀' calls calls' seq.handle →
    Values st₀ st₀' i.call.receiver i'.call.receiver →
    Lockstep (Twin under (G.InStep made made' st₀ st₀' calls calls')) (Values st₀ st₀')
      ((Env.interpreting source).interpretAt depth seq.handle i seq)
      ((Env.interpreting source).interpretAt depth seq'.handle i' seq')

variable {source : Scope → Nat → Store → Lowering} {depth : Nat} {under : Settings}
  {c c' : Call} {block block' : Block} {s t : State}

theorem sequence_met (served : G.Served source) (depth : Nat)
    (twin : Twin under (G.InStep made made' st₀ st₀' calls calls') s t)
    (pair : G.Paired s.store t.store b b') :
    Met (Twin under (G.InStep made made' st₀ st₀' calls calls'))
      (fun seq seq' => G.Companions seq seq' ∧ seq.handle = b.handle)
      (b.sequence ((Env.interpreting source).reach depth) s)
      (b'.sequence ((Env.interpreting source).reach depth) t) := by
  rw [Body.sequence_run, Body.sequence_run, twin.settings]
  cases depth with
  | zero => exact .cut s t
  | succ depth =>
    have step := twin.store
    obtain ⟨known, known'⟩ := pair.known
    obtain ⟨scope, handle⟩ := pair.kin step.alike
    cases checked : (G.code b.scope).checked with
    | error reason =>
      have refused := readyAt_refused served step.left.housed known checked depth s.context.settings
      have refused' := readyAt_refused served step.right.housed known' (scope ▸ checked) depth
        s.context.settings
      rw [refused, refused', scope]
      exact .ended (.failed _) ((twin.stored (step.asked _ _)).told _ _)
    | ok l =>
      rw [Lowered.checked_ok checked] at checked
      obtain ⟨seq, s', ready, readied⟩ :=
        readyAt_readied served step.left known checked depth s.context.settings
      obtain ⟨seq', t', ready', readied'⟩ :=
        readyAt_readied served step.right known' (scope ▸ checked) depth s.context.settings
      obtain ⟨same, step'⟩ := step.readied pair readied readied'
      have bound : seq.handle = b.handle := by rw [readied.prepares.same]
      have code : seq.instrs = (G.code b.scope).instrs := by rw [readied.prepares.same]
      have companions : G.Companions seq seq' :=
        ⟨same, ⟨b.scope, step.left.housed.has known, code⟩,
          bound ▸ step.left.housed.engine known⟩
      rw [ready, ready']
      refine .ended (.ok ⟨companions, bound⟩) ?_
      have similar : s'.context.Similar t'.context := by
        rw [readied.context, readied'.context]
        exact twin.toSimilar
      exact ⟨similar, (congrArg Context.settings readied.context).trans twin.kept, step'⟩

theorem invoke_met (served : G.Served source)
    (inner : G.Interprets source made made' st₀ st₀' depth)
    (twin : Twin under (G.InStep made made' st₀ st₀' calls calls') s t)
    (pair : G.Paired s.store t.store b b')
    (live : G.Live made made' st₀ st₀' calls calls' b.handle)
    (receiver : Values st₀ st₀' c.receiver c'.receiver) :
    Met (Twin under (G.InStep made made' st₀ st₀' calls calls')) (Values st₀ st₀')
      (b.invoke ((Env.interpreting source).reach depth) c block s)
      (b'.invoke ((Env.interpreting source).reach depth) c' block' t) := by
  obtain ⟨scope, -⟩ := pair.kin twin.store.alike
  have twin₁ : Twin under (G.InStep made made' st₀ st₀' calls calls') (b.announced c s)
      (b'.announced c' t) := by
    refine ⟨?_, ?_, ?_⟩
    · rw [Body.announced_context, Body.announced_context]
      exact twin.toSimilar
    · rw [Body.announced_context]
      exact twin.kept
    · rw [Body.announced_store, Body.announced_store]
      exact twin.store
  have pair₁ : G.Paired (b.announced c s).store (b'.announced c' t).store b b' := by
    rw [Body.announced_store, Body.announced_store]
    exact pair
  rw [Body.invoke, Body.invoke, bind_of_ok (b.announce_run c s), bind_of_ok (b'.announce_run c' t)]
  refine (sequence_met served depth twin₁ pair₁).bind ?_
  rintro seq seq' ⟨companions, bound⟩
  have same := companions.same
  have explicit : seq'.explicit = seq.explicit := by rw [same]
  have file : seq.file = seq'.file := by rw [same]
  rw [explicit]
  refine Twin.acts.withProtocol _ trivial (Body.dispatch_lockstep Twin.acts scope.symm file ?_)
  intro label
  exact inner companions (bound ▸ live) receiver

variable {i i' : Invocation} {seq seq' : Sequence} {scope : Scope}

theorem bodyFor_paired (twin : Twin under (G.InStep made made' st₀ st₀' calls calls') s t)
    (reached : G.Reaches scope) {parent parent' : Option Module}
    (outer : Option.Rel (Module.Renamed st₀.nextModule st₀'.nextModule) parent parent')
    {handle : Handle} (here : handle.engine = G.engine) :
    ∃ b b' s' t', Interpreter.bodyFor G.engine scope parent handle s = (some (.ok b), s') ∧
      Interpreter.bodyFor G.engine scope parent' handle t = (some (.ok b'), t') ∧
      Twin under (G.InStep made made' st₀ st₀' calls calls') s' t' ∧
      s'.store.definition? G.engine scope = some b ∧
      t'.store.definition? G.engine scope = some b' := by
  rcases twin.store.alike.cases reached with ⟨absent, absent'⟩ | ⟨b, b', found, found', -⟩
  · have step := twin.store.defined reached absent absent' outer here
    refine ⟨_, _, _, _, Interpreter.bodyFor_absent absent, Interpreter.bodyFor_absent absent',
      (twin.stored step).told _ _, ?_, ?_⟩
    · rw [Interpreter.defining, Store.definition?_define, if_pos ⟨rfl, rfl⟩]
    · rw [Interpreter.defining, Store.definition?_define, if_pos ⟨rfl, rfl⟩]
  · exact ⟨b, b', s, t, Interpreter.bodyFor_known found, Interpreter.bodyFor_known found', twin,
      found, found'⟩

theorem define_lockstep (served : G.Served source)
    (inner : G.Interprets source made made' st₀ st₀' depth) (companions : G.Companions seq seq')
    (called : G.engine ∈ calls) (called' : G.engine ∈ calls') (reached : G.Reaches scope)
    (receiver : Values st₀ st₀' i.call.receiver i'.call.receiver) :
    Lockstep (Twin under (G.InStep made made' st₀ st₀' calls calls')) (Values st₀ st₀')
      (Interpreter.define ((Env.interpreting source).reach depth) G.engine i seq scope)
      (Interpreter.define ((Env.interpreting source).reach depth) G.engine i' seq' scope) := by
  intro s t twin
  have told : Twin under (G.InStep made made' st₀ st₀' calls calls')
      { s with trace := .defining G.engine scope :: s.trace }
      { t with trace := .defining G.engine scope :: t.trace } := twin.told _ _
  obtain ⟨b, b', s₁, t₁, known, known', twin₁, found, found'⟩ :=
    bodyFor_paired told reached receiver.module? companions.bound
  have handle : seq'.handle = seq.handle := by rw [companions.same]
  rw [Interpreter.define_run known, Interpreter.define_run (handle ▸ known')]
  have pair : G.Paired s₁.store t₁.store b b' := .inr ⟨scope, reached, found, found'⟩
  have engine : b.handle.engine = G.engine := twin₁.store.left.housed.engine pair.known.1
  refine invoke_met served inner twin₁ pair (.of_called (engine ▸ called) (engine ▸ called')) ?_
  exact .object (twin₁.store.alike.kin reached found found').module

theorem interpret_lockstep (served : G.Served source)
    (inner : G.Interprets source made made' st₀ st₀' depth) (companions : G.Companions seq seq')
    (called : G.engine ∈ calls) (called' : G.engine ∈ calls') (constants : G.Constants st₀)
    (constants' : G.Constants st₀') (receiver : Values st₀ st₀' i.call.receiver i'.call.receiver) :
    Lockstep (Twin under (G.InStep made made' st₀ st₀' calls calls')) (Values st₀ st₀')
      (Interpreter.interpret ((Env.interpreting source).reach depth) G.engine i seq)
      (Interpreter.interpret ((Env.interpreting source).reach depth) G.engine i' seq') := by
  obtain ⟨outer, has, code⟩ := companions.code
  have instrs : seq.instrs = seq'.instrs := by rw [companions.same]
  refine Interpreter.interpret_lockstep_of_execute Twin.acts Interpreter.report_lockstep (.plain rfl)
    instrs ?_
  intro instr among own last last' like
  rw [code] at among
  refine Interpreter.execute_lockstep_of_define Twin.acts trivial receiver ?_ ?_ own like
  · rintro v rfl
    exact .of_made (constants outer has v among) (constants' outer has v among)
  · rintro scope rfl
    exact define_lockstep served inner companions called called' (has.define among) receiver

theorem interprets (served : G.Served source) (constants : G.Constants st₀)
    (constants' : G.Constants st₀') (depth : Nat) :
    G.Interprets source made made' st₀ st₀' depth := by
  induction depth with
  | zero => exact fun _ _ _ => .exhausted
  | succ depth ih =>
    intro under calls calls' i i' seq seq' companions live receiver s t twin
    obtain ⟨alive, alive'⟩ := live s.store t.store twin.store
    have handle : seq'.handle = seq.handle := by rw [companions.same]
    rw [handle, Env.interpretAt_reached alive, Env.interpretAt_reached alive', companions.bound]
    -- both are called on their engine, and the calls end together
    have held : Twin under (G.InStep made made' st₀ st₀' (G.engine :: calls) (G.engine :: calls'))
        (s.held G.engine) (t.held G.engine) := by
      refine ⟨twin.toSimilar, twin.kept, ?_⟩
      unfold State.held
      rw [twin.store.running, twin.store.running']
      exact twin.store.calling _ _
    have met := interpret_lockstep served ih companions List.mem_cons_self List.mem_cons_self
      constants constants' receiver _ _ held
    generalize run : Interpreter.interpret ((Env.interpreting source).reach depth) G.engine i seq
      (s.held G.engine) = p at met
    generalize run' : Interpreter.interpret ((Env.interpreting source).reach depth) G.engine i' seq'
      (t.held G.engine) = q at met
    cases met with
    | cut s₁ t₁ =>
      rw [holding_of_none run, holding_of_none run']
      exact .cut s₁ t₁
    | @ended o o' s₁ t₁ like twin₁ =>
      rw [holding_of_ended run, holding_of_ended run']
      refine .ended like ⟨twin₁.toSimilar, twin₁.kept, ?_⟩
      rw [twin₁.store.running, twin₁.store.running', List.erase_cons_head, List.erase_cons_head]
      exact twin₁.store.calling _ _

/-! ## Isolation -/

/-- The guest can be called from this store: its engine is there, and so are all modules that the call,
the code and the engine have for it. -/
structure Callable (G : Guest) (made : List Body) (c : Call) (st : Store) : Prop
    extends G.Housed made st where
  live : st.reaches G.top.handle = true
  constants : G.Constants st
  modules : ∀ {scope b}, G.Reaches scope → st.definition? G.engine scope = some b →
    b.implementationClass.Made st.nextModule
  receiver : c.receiver.Made st.nextModule

/-- What engines have for scopes that the guest does not reach is as it was: the body, with its module,
and the sequence. -/
def Spares (G : Guest) (st st' : Store) : Prop :=
  ∀ engine scope, ¬ G.Owns engine scope →
    st'.definition? engine scope = st.definition? engine scope ∧
      ∀ b, st.definition? engine scope = some b → st'.sequence? b = st.sequence? b

structure EndsAlike (G : Guest) (s t s' t' : State) : Prop where
  context : t'.context = s'.context
  entries : G.Alike (Module.Renamed s.store.nextModule t.store.nextModule) s'.store t'.store
  spares : G.Spares s.store s'.store
  spares' : G.Spares t.store t'.store

def run (G : Guest) (source : Scope → Nat → Store → Lowering) (depth : Nat) (c : Call)
    (block : Block) : Eval Value :=
  G.top.invoke ((Env.interpreting source).reach depth) c block

theorem Confined.spares (housed : G.Housed made st) (h : G.Confined made st st') :
    G.Spares st st' := by
  intro engine scope other
  refine ⟨h.elsewhere engine scope other, fun b found => h.others b ?_ fun b' known => ?_⟩
  · exact housed.numbered b (.inr ⟨engine, scope, found⟩)
  · rcases known with rfl | ⟨inner, reached, found'⟩
    · exact (housed.apart_of_made found housed.top).symm
    · intro same
      obtain ⟨here, id, -⟩ := housed.place found' found same
      exact other ⟨here.symm, inner, reached, id⟩

theorem Callable.inStep (callable : G.Callable made c st) (callable' : G.Callable made' c st')
    (alike : G.Alike Eq st st') :
    G.InStep made made' st st' st.running st'.running st st' := by
  refine ⟨.refl callable.toHoused, .refl callable'.toHoused, rfl, rfl, ⟨0, rfl, rfl⟩,
    alike.imp (fun _ _ => rfl) (fun _ _ => rfl) ?_⟩
  intro scope b b' reached found found' kin
  refine ⟨kin.scope, ?_, kin.handle, kin.sequences⟩
  have there := callable'.modules reached found'
  rw [← kin.module] at there ⊢
  exact .of_made (callable.modules reached found) there

theorem run_met (served : G.Served source) (context : t.context = s.context)
    (callable : G.Callable made c s.store) (callable' : G.Callable made' c t.store)
    (alike : G.Alike Eq s.store t.store) (depth : Nat) (block : Block) :
    Met (Twin s.context.settings (G.InStep made made' s.store t.store s.store.running
      t.store.running)) (Values s.store t.store) (G.run source depth c block s)
      (G.run source depth c block t) := by
  have twin : Twin s.context.settings (G.InStep made made' s.store t.store s.store.running
      t.store.running) s t := by
    refine ⟨?_, rfl, callable.inStep callable' alike⟩
    rw [context]
    exact .refl s.context
  have inner : G.Interprets source made made' s.store t.store depth :=
    interprets served callable.constants callable'.constants depth
  exact invoke_met served inner twin (.inl ⟨rfl, rfl⟩) (.of_start callable.live callable'.live)
    (.of_made callable.receiver callable'.receiver)

/-- Two guests share no scope of one engine, and each has a method of its own. -/
structure Apart (G H : Guest) : Prop where
  scopes : G.engine = H.engine → ∀ scope scope', G.Reaches scope → H.Reaches scope' →
    scope.id ≠ scope'.id
  tops : G.top.id ≠ H.top.id

theorem Apart.symm {H : Guest} (apart : G.Apart H) : H.Apart G :=
  ⟨fun same scope scope' reached reached' =>
    (apart.scopes same.symm scope' scope reached' reached).symm, apart.tops.symm⟩

theorem Apart.sequence? {H : Guest} (apart : G.Apart H) (housed : G.Housed made st)
    (housed' : H.Housed made st) (confined : G.Confined made st st') (known : H.Knows st b) :
    st'.sequence? b = st.sequence? b := by
  refine confined.others b (housed.numbered b (housed'.knows known)) ?_
  intro b' known'
  rcases known with rfl | ⟨scope, reached, found⟩ <;>
    rcases known' with rfl | ⟨scope', reached', found'⟩
  · exact apart.tops
  · exact housed.apart_of_made found' housed'.top
  · exact (housed.apart_of_made found housed.top).symm
  · intro same
    obtain ⟨engine, id, -⟩ := housed.place found' found same
    exact apart.scopes engine scope' scope reached' reached id

theorem Callable.after {H : Guest} {c : Call} (apart : G.Apart H) (housed : G.Housed made st)
    (callable : H.Callable made c st) (confined : G.Confined made st st')
    (running : st'.running = st.running) (counted : st.nextModule ≤ st'.nextModule) :
    H.Callable made c st' ∧ H.Alike Eq st st' := by
  have same (scope : Scope) (reached : H.Reaches scope) :
      st'.definition? H.engine scope = st.definition? H.engine scope := by
    refine confined.elsewhere H.engine scope ?_
    rintro ⟨engine, inner, inside, id⟩
    exact apart.scopes engine.symm inner scope inside reached id
  have knows (b : Body) (known : H.Knows st' b) : H.Knows st b := by
    refine known.imp_right ?_
    rintro ⟨scope, reached, found⟩
    exact ⟨scope, reached, same scope reached ▸ found⟩
  refine ⟨⟨⟨confined.housed.toOrderly, callable.top, fun reached found => ?_, fun reached found => ?_,
      fun known found => ?_⟩,
    ?_, ?_, fun reached found => ?_, callable.receiver.mono counted⟩,
    (Alike.refl H st).imp (fun _ _ => rfl) same fun scope b b' reached _ found kin => ?_⟩
  · exact callable.within reached (same _ reached ▸ found)
  · exact callable.bound reached (same _ reached ▸ found)
  · rw [apart.sequence? housed callable.toHoused confined (knows _ known)] at found
    exact callable.prepared (knows _ known) found
  · exact Store.reaches_grown confined.toBefore confined.cached running callable.live
  · exact fun scope has v among => (callable.constants scope has v among).mono counted
  · exact (callable.modules reached (same _ reached ▸ found)).mono counted
  · refine ⟨kin.scope, kin.module, kin.handle, ?_⟩
    rw [apart.sequence? housed callable.toHoused confined (.inr ⟨scope, reached, found⟩)]
    exact kin.sequences

/-- Whatever else their engine has, two runs of the guest that begin in one context, and find the same
for the guest, are both cut off for want of depth, or both end alike. -/
def Isolated (G : Guest) (source : Scope → Nat → Store → Lowering) : Prop :=
  ∀ (made made' : List Body) (s t : State) (depth : Nat) (c : Call) (block : Block),
    t.context = s.context → G.Callable made c s.store → G.Callable made' c t.store →
    G.Alike Eq s.store t.store →
    Met (G.EndsAlike s t) (Values s.store t.store) (G.run source depth c block s)
      (G.run source depth c block t)

/-- Two guests run, each from a context of its own. Whichever comes first, the other one ends after it
as it ends when it is the first. -/
def EitherOrder (G H : Guest) (source : Scope → Nat → Store → Lowering) : Prop :=
  ∀ (made : List Body) (s : State) (κ κ' : Context) (depth depth' : Nat) (c c' : Call)
    (block block' : Block), G.Callable made c s.store → H.Callable made c' s.store →
    ∀ o₁ s₁ o₂ s₂, G.run source depth c block { s with context := κ } = (some o₁, s₁) →
      H.run source depth' c' block' { s with context := κ' } = (some o₂, s₂) →
      (∃ o t, H.run source depth' c' block' { s₁ with context := κ' } = (some o, t) ∧
        o₂.Like (Values s.store s₁.store) o ∧ t.context = s₂.context) ∧
      ∃ o t, G.run source depth c block { s₂ with context := κ } = (some o, t) ∧
        o₁.Like (Values s.store s₂.store) o ∧ t.context = s₁.context

theorem Served.side_by_side (served : G.Served source) : G.Isolated source := by
  intro made made' s t depth c block context callable callable' alike
  have balanced : ∀ s, Balance s (G.run source depth c block s).1.isSome
      (G.run source depth c block s).2 :=
    G.top.invoke_keeps Balance.guarded (Balance.reach source depth) c block
  have left := balanced s
  have right := balanced t
  have met := run_met served context callable callable' alike depth block
  generalize G.run source depth c block s = p at met left ⊢
  generalize G.run source depth c block t = q at met right ⊢
  cases met with
  | cut s₁ t₁ => exact .cut s₁ t₁
  | @ended o o' s₁ t₁ like twin =>
    have frames : t₁.context.frames = s₁.context.frames := by
      rw [right.frames rfl, left.frames rfl, context]
    refine .ended like ⟨twin.toSimilar.eq frames, twin.store.alike, ?_, ?_⟩
    · exact twin.store.left.spares callable.toHoused
    · exact twin.store.right.spares callable'.toHoused

theorem Served.after {H : Guest} (served : G.Served source) (served' : H.Served source)
    (apart : G.Apart H) {s s₁ : State} {κ : Context} {c c' : Call} {block : Block} {depth : Nat}
    {o : Outcome Value} (callable : G.Callable made c s.store) (callable' : H.Callable made c' s.store)
    (ran : G.run source depth c block { s with context := κ } = (some o, s₁)) (κ' : Context)
    (depth' : Nat) (block' : Block) :
    Met (H.EndsAlike { s with context := κ' } { s₁ with context := κ' })
      (Values s.store s₁.store) (H.run source depth' c' block' { s with context := κ' })
      (H.run source depth' c' block' { s₁ with context := κ' }) := by
  let from₁ : State := { s with context := κ }
  have start : G.Callable made c from₁.store := callable
  have met := run_met (t := from₁) served rfl start start (.refl G s.store) depth block
  rw [ran] at met
  cases met with
  | ended like twin =>
    obtain ⟨k, counted, -⟩ := twin.store.modules
    have more : s.store.nextModule ≤ s₁.store.nextModule := Nat.le.intro counted.symm
    obtain ⟨after, alike⟩ := callable'.after apart callable.toHoused twin.store.left
      twin.store.running more
    exact served'.side_by_side made made _ _ depth' c' block' rfl callable' after alike

/-- A guest is isolated from all else on its engine, and guests that are apart may run in either
order. -/
theorem isolated (served : G.Served source) : G.Isolated source ∧
    ∀ H : Guest, H.Served source → G.Apart H → G.EitherOrder H source := by
  refine ⟨served.side_by_side, ?_⟩
  intro H served' apart made s κ κ' depth depth' c c' block block' callable callable' o₁ s₁ o₂ s₂ ran
    ran'
  constructor
  · have met := served.after served' apart callable callable' ran κ' depth' block'
    rw [ran'] at met
    generalize H.run source depth' c' block' { s₁ with context := κ' } = q at met ⊢
    cases met with
    | ended like ends => exact ⟨_, _, rfl, like, ends.context⟩
  · have met := served'.after served apart.symm callable' callable ran' κ depth block
    rw [ran] at met
    generalize G.run source depth c block { s₂ with context := κ } = q at met ⊢
    cases met with
    | ended like ends => exact ⟨_, _, rfl, like, ends.context⟩

theorem Callable.of_empty (orderly : Orderly made st)
    (undefined : ∀ engine scope, st.definition? engine scope = none)
    (unready : ∀ b, st.sequence? b = none) (top : G.top ∈ made)
    (live : st.reaches G.top.handle = true) (constants : G.Constants st)
    (receiver : c.receiver.Made st.nextModule) : G.Callable made c st := by
  refine ⟨⟨orderly, top, fun _ found => ?_, fun _ found => ?_, fun _ found => ?_⟩, live, constants,
    fun _ found => ?_, receiver⟩
  · rw [undefined] at found
    cases found
  · rw [undefined] at found
    cases found
  · rw [unready] at found
    cases found
  · rw [undefined] at found
    cases found

def widgetBody : Scope := ⟨0, .classBody, "Widget", "widget.rb", 1⟩

def widgetMeta : Scope := ⟨1, .metaclassBody, "Widget", "widget.rb", 2⟩

def gadgetBody : Scope := ⟨2, .classBody, "Gadget", "gadget.rb", 1⟩

def gadgetPart : Scope := ⟨3, .moduleBody, "Part", "gadget.rb", 2⟩

def neighbourCode (scope : Scope) : Lowered :=
  if scope.id = 0 then ⟨[.define widgetMeta], false⟩
  else if scope.id = 2 then ⟨[.define gadgetPart], false⟩
  else ⟨[.putSelf], false⟩

theorem neighbourCode_define {outer inner : Scope}
    (among : .define inner ∈ (neighbourCode outer).instrs) :
    outer.id = 0 ∧ inner = widgetMeta ∨ outer.id = 2 ∧ inner = gadgetPart := by
  unfold neighbourCode at among
  split at among
  · simp_all
  · split at among <;> simp_all

theorem neighbourCode_put (scope : Scope) (v : Value) :
    .put v ∉ (neighbourCode scope).instrs := by
  unfold neighbourCode
  split
  · simp
  · split <;> simp

theorem neighbour_reaches {b : Body} {scope : Scope}
    (reached : (⟨neighbourCode, b⟩ : Guest).Reaches scope) :
    b.scope.id = 0 ∧ scope = widgetMeta ∨ b.scope.id = 2 ∧ scope = gadgetPart := by
  induction reached with
  | single among => exact neighbourCode_define among
  | tail _ among ih =>
    rcases ih with ⟨-, rfl⟩ | ⟨-, rfl⟩ <;>
      rcases neighbourCode_define among with ⟨id, -⟩ | ⟨id, -⟩ <;> cases id

/-- Two classes on one engine each open a body inside them. Whatever modules there are when they run,
and whichever of them runs first, each makes its own. -/
theorem neighbours_isolated :
    let widget : Module := .top 0 "Widget" .classLike
    let gadget : Module := .top 1 "Gadget" .classLike
    let G : Guest := ⟨neighbourCode, ⟨0, widgetBody, widget, ⟨0, true⟩⟩⟩
    let H : Guest := ⟨neighbourCode, ⟨1, gadgetBody, gadget, ⟨0, true⟩⟩⟩
    let source : Scope → Nat → Store → Lowering := fun scope _ _ => .prepared (neighbourCode scope)
    let run (G : Guest) (m : Module) := G.run source 2 ⟨none, .object m, m, m.name⟩ .absent
    let s (n : Nat) : State := ⟨⟨{}, 1, [], []⟩, { nextModule := n, nextBody := 2 }, []⟩
    let inWidget (n : Nat) : Value := .object (.inside widget n "Widget" .singleton)
    let inGadget (n : Nat) : Value := .object (.inside gadget n "Part" .plain)
    (run G widget (s 2)).1 = some (.ok (inWidget 2)) ∧
      (run G widget (s 7)).1 = some (.ok (inWidget 7)) ∧
      (run H gadget { (run G widget (s 2)).2 with context := (s 2).context }).1 =
        some (.ok (inGadget 3)) ∧
      (run G widget { (run H gadget (s 2)).2 with context := (s 2).context }).1 =
        some (.ok (inWidget 3)) := by
  intro widget gadget G H source run s inWidget inGadget
  have numbered : ∀ b ∈ [G.top, H.top], b.id < 2 := by decide
  have identified : ∀ b ∈ [G.top, H.top], ∀ b' ∈ [G.top, H.top], b.id = b'.id → b = b' := by decide
  have orderly (n : Nat) : Orderly [G.top, H.top] (s n).store :=
    .of_empty (fun _ _ => rfl) (fun _ => rfl) numbered identified
  have callable (n : Nat) (le : 2 ≤ n) : G.Callable [G.top, H.top]
      ⟨none, .object widget, widget, "Widget"⟩ (s n).store := by
    refine .of_empty (orderly n) (fun _ _ => rfl) (fun _ => rfl) (by decide) rfl ?_ ?_
    · exact fun scope _ v among => absurd among (neighbourCode_put scope v)
    · rintro _ ⟨⟩
      exact Nat.lt_of_lt_of_le (by decide) le
  have callable' : H.Callable [G.top, H.top] ⟨none, .object gadget, gadget, "Gadget"⟩ (s 2).store := by
    refine .of_empty (orderly 2) (fun _ _ => rfl) (fun _ => rfl) (by decide) rfl ?_ ?_
    · exact fun scope _ v among => absurd among (neighbourCode_put scope v)
    · rintro _ ⟨⟩
      exact Nat.lt_succ_self 1
  have served : G.Served source := fun _ _ _ _ => rfl
  have served' : H.Served source := fun _ _ _ _ => rfl
  have apart : G.Apart H := by
    refine ⟨fun _ scope scope' reached reached' => ?_, by decide⟩
    rcases neighbour_reaches reached with ⟨-, rfl⟩ | ⟨id, -⟩
    · rcases neighbour_reaches reached' with ⟨id, -⟩ | ⟨-, rfl⟩
      · cases id
      · decide
    · cases id
  obtain ⟨alone, either⟩ := isolated served
  have first : (run G widget (s 2)).1 = some (.ok (inWidget 2)) := by decide +kernel
  have first' : (run H gadget (s 2)).1 = some (.ok (inGadget 2)) := by decide +kernel
  have counted : (run G widget (s 2)).2.store.nextModule = 3 := by decide +kernel
  have counted' : (run H gadget (s 2)).2.store.nextModule = 3 := by decide +kernel
  have old : Module.Renamed 2 7 widget widget ∧ Module.Renamed 2 3 widget widget ∧
      Module.Renamed 2 3 gadget gadget :=
    ⟨.of_made (by decide : 0 < 2) (by decide : 0 < 7), .of_made (by decide : 0 < 2) (by decide : 0 < 3),
      .of_made (by decide : 1 < 2) (by decide : 1 < 3)⟩
  have met : Met (G.EndsAlike (s 2) (s 7)) (Value.Renamed 2 7) (run G widget (s 2))
      (run G widget (s 7)) :=
    alone [G.top, H.top] [G.top, H.top] (s 2) (s 7) 2 _ .absent rfl (callable 2 (by decide))
      (callable 7 (by decide)) (.of_places fun _ _ => .inl ⟨rfl, rfl⟩)
  have later : ∀ o₁ s₁ o₂ s₂, run G widget (s 2) = (some o₁, s₁) →
      run H gadget (s 2) = (some o₂, s₂) →
      (∃ o t, run H gadget { s₁ with context := (s 2).context } = (some o, t) ∧
        o₂.Like (Value.Renamed 2 s₁.store.nextModule) o ∧ t.context = s₂.context) ∧
      ∃ o t, run G widget { s₂ with context := (s 2).context } = (some o, t) ∧
        o₁.Like (Value.Renamed 2 s₂.store.nextModule) o ∧ t.context = s₁.context :=
    either H served' apart [G.top, H.top] (s 2) (s 2).context (s 2).context 2 2 _ _ .absent .absent
      (callable 2 (by decide)) callable'
  have ran : run G widget (s 2) = (some (.ok (inWidget 2)), (run G widget (s 2)).2) := by
    rw [← first]
  have ran' : run H gadget (s 2) = (some (.ok (inGadget 2)), (run H gadget (s 2)).2) := by
    rw [← first']
  obtain ⟨⟨o, t, second, like, -⟩, o', t', second', like', -⟩ := later _ _ _ _ ran ran'
  rw [counted] at like
  rw [counted'] at like'
  refine ⟨first, met.value first (.object (.inside old.1 (.new 0) _ _)), ?_, ?_⟩
  · rw [second, like.value (.object (.inside old.2.2 (.new 0) _ _))]
  · rw [second', like'.value (.object (.inside old.2.1 (.new 0) _ _))]

end Guest

end BodyCall
