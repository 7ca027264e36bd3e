import BodyCall.Proofs.Course
import BodyCall.Proofs.Ready

/-!
# Invariants of the store

A run changes the store in few places: a source is asked, a sequence is installed for a body, an
engine defines a body, and an engine is called and comes back. `Keeps` asks of each of these acts to
keep a relation on its own. An invariant may also rely on where in a run an act stands: only bodies
that are known are made ready, with what their source has answered, and an engine only runs sequences
whose handles fit it, and which define none but certain scopes.
-/

namespace BodyCall

open Eval

def Sequence.lowered (seq : Sequence) : Lowered := ⟨seq.instrs, seq.explicit⟩

/-- The instructions define none but these scopes. -/
def Lowered.StaysIn (part : Scope → Prop) (l : Lowered) : Prop :=
  ∀ scope, .define scope ∈ l.instrs → part scope

abbrev Sequence.StaysIn (part : Scope → Prop) (seq : Sequence) : Prop := seq.lowered.StaysIn part

/-- The sequence is made for the scope from what its source answers in a store. -/
structure Answered (source : Scope → Nat → Store → Lowering) (scope : Scope) (handle : Handle)
    (st : Store) (seq : Sequence) : Prop where
  result : ∃ n, (source scope n st).result = .answered (.ok seq.lowered)
  file : seq.file = scope.file
  line : seq.line = scope.line
  handle : seq.handle = handle

/-- The stores may differ in counts, and in nothing that lives. -/
structure Store.Settled (st st' : Store) : Prop where
  registry : st'.registry = st.registry
  installed : st'.installed = st.installed
  definitions : st'.definitions = st.definitions
  running : st'.running = st.running
  nextBody : st'.nextBody = st.nextBody
  nextScope : st'.nextScope = st.nextScope

theorem Store.Settled.before {st st' : Store} (h : st.Settled st') : st.Before st' := by
  refine ⟨h.registry, fun b seq found => ?_, fun engine scope b found => ?_⟩
  · rw [sequence?, h.installed]
    exact found
  · rw [definition?, defined, h.definitions]
    exact found

def Store.calling (st : Store) (engine : Nat) : Store := { st with running := engine :: st.running }

def Store.back (st : Store) (engine : Nat) : Store :=
  { st with running := st.running.erase engine }

/-- A property of stores, and what each change of the store may rely on to keep it. -/
structure Invariant (source : Scope → Nat → Store → Lowering) where
  holds : Store → Prop
  /-- The bodies that may be made ready. -/
  known : Store → Body → Prop
  /-- The handles of the bodies that may also be invoked. -/
  apt : Handle → Prop
  /-- The engine may run a sequence with this handle. -/
  fits : Nat → Handle → Prop
  /-- The scopes that sequences may define. -/
  part : Scope → Prop
  kept : ∀ {st st' : Store} {b : Body}, known st b → st.Before st' → known st' b
  ready : ∀ {st : Store} {b : Body} {seq : Sequence}, holds st → known st b → apt b.handle →
    st.sequence? b = some seq → fits seq.handle.engine seq.handle ∧ seq.StaysIn part
  found : ∀ {st : Store} {engine : Nat} {h : Handle} {scope : Scope} {b : Body}, holds st →
    fits engine h → part scope → st.definition? engine scope = some b → known st b ∧ apt b.handle
  asked : ∀ {st : Store} (scope : Scope), holds st →
    ∀ b ∈ (source scope (st.loweringCount scope) st).reentries.map Prod.fst, known st b
  counted : ∀ {st st' : Store}, holds st → st.Settled st' → holds st'
  /-- The source has answered in an earlier store. -/
  installed : ∀ {st₀ st : Store} {b : Body} {seq : Sequence}, holds st → known st b →
    st.sequence? b = none → holds st₀ → st₀.Before st → Answered source b.scope b.handle st₀ seq →
    holds (st.install b seq)
  defined : ∀ {st : Store} {engine : Nat} {scope : Scope} (parent : Option Module) {h : Handle},
    holds st → fits engine h → part scope → st.definition? engine scope = none →
    holds (Interpreter.defining st engine (Interpreter.newBody st scope parent h))
  called : ∀ {st : Store} {h : Handle}, holds st → st.reaches h = true →
    holds (st.calling h.engine)
  returned : ∀ {st : Store} (engine : Nat), holds st → holds (st.back engine)

namespace Invariant

variable {source : Scope → Nat → Store → Lowering} (I : Invariant source)

/-- What a run does to a store in which the invariant holds. -/
structure Carried (st : Store) (ended : Bool) (st' : Store) : Prop where
  holds : I.holds st'
  before : st.Before st'
  running : ended = true → st'.running = st.running

/-- The invariant is carried along if these bodies are known. -/
def Passing (bodies : List Body) : Passage := fun s ended s' =>
  I.holds s.store → (∀ b ∈ bodies, I.known s.store b) → I.Carried s.store ended s'.store

variable {I} {bodies : List Body}

theorem Carried.refl {st : Store} (h : I.holds st) (ended : Bool) : I.Carried st ended st :=
  ⟨h, .refl st, fun _ => rfl⟩

theorem Carried.trans {st st₁ st₂ : Store} {ended : Bool} (h : I.Carried st true st₁)
    (h' : I.Carried st₁ ended st₂) : I.Carried st ended st₂ :=
  ⟨h'.holds, h.before.trans h'.before, fun e => (h'.running e).trans (h.running rfl)⟩

theorem Carried.settled {st st' : Store} (h : I.holds st) (same : st.Settled st') :
    I.Carried st true st' :=
  ⟨I.counted h same, same.before, fun _ => same.running⟩

theorem working (I : Invariant source) (bodies : List Body) : Working (I.Passing bodies) where
  refl _ ended h _ := .refl h ended
  trans first second h known :=
    have carried := first h known
    carried.trans (second carried.holds fun b among => I.kept (known b among) carried.before)
  told _ _ _ h _ := .refl h true
  line _ _ h _ := .refl h true
  moved _ _ _ _ h _ := .refl h true

theorem chained (I : Invariant source) (bodies : List Body) : Chained (I.Passing bodies) :=
  (I.working bodies).toChained

theorem relying {α : Type} {x : Eval α} {fewer : List Body} (h : Keeps (I.Passing fewer) x)
    (all : ∀ b ∈ fewer, b ∈ bodies) : Keeps (I.Passing bodies) x :=
  fun s holds known => h s holds fun b among => known b (all b among)

/-- What a run can reach carries the invariant along. -/
structure Upheld (I : Invariant source) (r : Reach) : Prop where
  ready : ∀ b settings, Keeps (I.Passing [b]) (r.ready b settings)
  found : ∀ b settings s seq s',
    r.ready b settings s = (some (.ok seq), s') → s'.store.sequence? b = some seq
  interpret : ∀ h i (seq : Sequence), I.fits h.engine seq.handle → seq.StaysIn I.part →
    Keeps (I.Passing []) (r.interpret h i seq)

/-! ## Readiness -/

section

variable {ready : Body → Settings → Eval Sequence}

theorem reenterAll (hr : ∀ b settings, Keeps (I.Passing [b]) (ready b settings))
    (reentries : List (Body × Setup)) :
    Keeps (I.Passing (reentries.map Prod.fst)) (reenterAll ready reentries) := by
  induction reentries with
  | nil => exact .pure (I.chained _) ()
  | cons first rest ih =>
    obtain ⟨b, setup⟩ := first
    have c := I.chained (b :: rest.map Prod.fst)
    have w := (I.working (b :: rest.map Prod.fst)).toTelling
    refine .bind c (.bind c (.logAll w _) fun _ => ?_) fun _ =>
      relying ih fun b' => List.mem_cons_of_mem b
    have reached : Keeps (I.Passing (b :: rest.map Prod.fst)) (ready b setup.read.settings) :=
      relying (hr b setup.read.settings) (by simp)
    refine .bind c reached.attempt fun o => ?_
    cases o with
    | ok seq => exact .emit w rfl
    | failed f => exact .emit w rfl
    | panicked t => exact .ofOutcome c _

theorem lower (hr : ∀ b settings, Keeps (I.Passing [b]) (ready b settings)) (scope : Scope) :
    Keeps (I.Passing []) (lower source ready scope) := by
  intro s holds _
  rw [lower_run]
  have asked : I.Carried s.store true (s.asked scope).store :=
    .settled holds ⟨rfl, rfl, rfl, rfl, rfl, rfl⟩
  refine asked.trans (Keeps.bind (I.chained _) (reenterAll hr _) (fun _ => ?_) (s.asked scope)
    asked.holds fun b among => I.kept (I.asked scope holds b among) asked.before)
  exact .ofOutcome (I.chained _) _

theorem prepare (hr : ∀ b settings, Keeps (I.Passing [b]) (ready b settings)) (scope : Scope)
    (handle : Handle) : Keeps (I.Passing []) (prepare source ready scope handle) := by
  refine .bind (I.chained _) (lower hr scope) fun answer => ?_
  cases answer with
  | error reason => exact .ofOutcome (I.chained _) _
  | ok l =>
    refine .bind (I.chained _) ?_ fun _ => .pure (I.chained _) _
    exact fun s holds _ => .settled holds ⟨rfl, rfl, rfl, rfl, rfl, rfl⟩

theorem prepare_answers {scope : Scope} {handle : Handle} {seq : Sequence} {s s' : State}
    (h : Eval.prepare source ready scope handle s = (some (.ok seq), s')) :
    Answered source scope handle s.store seq := by
  obtain ⟨answer, s₁, lowered, h⟩ := bind_ok h
  cases answer with
  | error reason => cases h
  | ok l =>
    obtain ⟨id, s₂, -, h⟩ := bind_ok h
    cases h
    rw [lower_run] at lowered
    obtain ⟨_, s₃, -, ended⟩ := bind_ok lowered
    refine ⟨⟨s.store.loweringCount scope, ?_⟩, rfl, rfl, rfl⟩
    cases result : (source scope (s.store.loweringCount scope) s.store).result with
    | answered answer =>
      rw [result] at ended
      cases ended
      rfl
    | panicked t =>
      rw [result] at ended
      cases ended

theorem install {b : Body} {seq : Sequence} {st₀ : Store} {s : State} (holds₀ : I.holds st₀)
    (answered : Answered source b.scope b.handle st₀ seq) (earlier : st₀.Before s.store)
    (holds : I.holds s.store) (known : I.known s.store b) (settings : Settings) :
    I.Carried s.store (install b seq settings s).1.isSome (install b seq settings s).2.store := by
  cases found : s.store.sequence? b with
  | some winner =>
    rw [install_found found]
    exact .refl holds true
  | none =>
    obtain ⟨told, installed⟩ := @install_absent b seq settings s found
    have step : s.store.Step (s.store.install b seq) := .install found answered.handle
    rw [installed]
    exact ⟨I.installed holds known found holds₀ earlier answered, step.before, fun _ => rfl⟩

theorem readyAt (I : Invariant source) (depth : Nat) (b : Body) (settings : Settings) :
    Keeps (I.Passing [b]) (readyAt source depth b settings) := by
  induction depth generalizing b settings with
  | zero => exact .exhausted (I.chained _)
  | succ depth ih =>
    intro s holds known
    cases found : s.store.sequence? b with
    | some seq =>
      rw [readyAt_found found]
      exact .refl holds true
    | none =>
      have prepared := prepare ih b.scope b.handle s holds nofun
      rw [readyAt_absent found]
      rcases run : Eval.prepare source (Eval.readyAt source depth) b.scope b.handle s with
        ⟨_ | seq | f | t, s₁⟩ <;> rw [run] at prepared
      · rw [bind_of_none run]
        exact prepared
      · have known := I.kept (known b List.mem_cons_self) prepared.before
        rw [bind_of_ok run]
        exact prepared.trans
          (install holds (prepare_answers run) prepared.before prepared.holds known settings)
      · rw [bind_of_failed run]
        exact prepared
      · rw [bind_of_panicked run]
        exact prepared

end

/-! ## Runs of bodies and sequences -/

variable {r : Reach}

theorem sequence (hr : I.Upheld r) {b : Body} {s : State} (holds : I.holds s.store)
    (known : I.known s.store b) (c : Call) :
    I.Carried s.store (b.sequence r (b.announced c s)).1.isSome
      (b.sequence r (b.announced c s)).2.store := by
  have prepared : Keeps (I.Passing [b]) (b.sequence r) :=
    .bind (I.chained _) (.read (I.chained _) _) fun context => hr.ready b context.settings
  have carried := prepared (b.announced c s)
  rw [Passing, Body.announced_store] at carried
  exact carried holds (List.forall_mem_singleton.mpr known)

/-- A body that has been announced and made ready has its sequence installed. -/
theorem readied (hr : I.Upheld r) {b : Body} {c : Call} {s s₁ : State} {seq : Sequence}
    (holds : I.holds s.store) (known : I.known s.store b)
    (ready : b.sequence r (b.announced c s) = (some (.ok seq), s₁)) :
    I.Carried s.store true s₁.store ∧ s₁.store.sequence? b = some seq := by
  have carried := sequence hr holds known c
  rw [ready] at carried
  exact ⟨carried, hr.found _ _ _ _ _ ready⟩

theorem invoke (hr : I.Upheld r) {b : Body} {s : State} (holds : I.holds s.store)
    (known : I.known s.store b) (apt : I.apt b.handle) (c : Call) (block : Block) :
    I.Carried s.store (b.invoke r c block s).1.isSome (b.invoke r c block s).2.store := by
  have prepared := sequence hr holds known c
  rw [Body.invoke, bind_of_ok (b.announce_run c s)]
  rcases ready : b.sequence r (b.announced c s) with ⟨_ | seq | f | t, s₁⟩ <;> rw [ready] at prepared
  · rw [bind_of_none ready]
    exact prepared
  · obtain ⟨-, installed⟩ := readied hr holds known ready
    obtain ⟨fits, stays⟩ := I.ready prepared.holds (I.kept known prepared.before) apt installed
    have w := I.working []
    rw [bind_of_ok ready]
    refine prepared.trans (Keeps.withProtocol w.toMoving _ _ ?_ s₁ prepared.holds (by simp))
    unfold Body.dispatch
    cases b.scope.label? with
    | none => exact .ofOutcome w.toChained _
    | some label =>
      refine .bind w.toChained (.read w.toChained _) fun _ => .withBacktrace w.toMoving _ ?_
      exact hr.interpret _ _ _ fits stays
  · rw [bind_of_failed ready]
    exact prepared
  · rw [bind_of_panicked ready]
    exact prepared

/-- An engine that comes to a definition has a body for its scope then. -/
theorem bodyFor {engine : Nat} {h : Handle} (fits : I.fits engine h) {scope : Scope}
    (part : I.part scope) (parent : Option Module) {s : State} (holds : I.holds s.store) :
    ∃ b s', Interpreter.bodyFor engine scope parent h s = (some (.ok b), s') ∧
      I.Carried s.store true s'.store ∧ I.known s'.store b ∧ I.apt b.handle := by
  cases found : s.store.definition? engine scope with
  | some b => exact ⟨b, s, Interpreter.bodyFor_known found, .refl holds true,
    I.found holds fits part found⟩
  | none =>
    let b := Interpreter.newBody s.store scope parent h
    let opened := { s.store with nextModule := s.store.nextModule + 1 }
    have counted : s.store.Step opened := .module s.store
    have made : opened.Step (Interpreter.defining s.store engine b) :=
      @Store.Step.define opened engine scope found b.implementationClass h
    have there : (Interpreter.defining s.store engine b).definition? engine scope = some b := by
      rw [Interpreter.defining, Store.definition?_define, if_pos ⟨rfl, rfl⟩]
    have holds' := I.defined parent holds fits part found
    refine ⟨b, _, Interpreter.bodyFor_absent found, ?_, I.found holds' fits part there⟩
    exact ⟨holds', counted.before.trans made.before, fun _ => rfl⟩

theorem define (hr : I.Upheld r) {engine : Nat} {seq : Sequence} (fits : I.fits engine seq.handle)
    (i : Invocation) {scope : Scope} (part : I.part scope) :
    Keeps (I.Passing []) (Interpreter.define r engine i seq scope) := by
  intro s holds _
  let s₀ : State := { s with trace := .defining engine scope :: s.trace }
  obtain ⟨b, s₁, ran, made, known, apt⟩ :=
    bodyFor (s := s₀) fits part i.call.receiver.module? holds
  rw [Interpreter.define_run ran]
  exact made.trans (invoke hr made.holds known apt _ _)

theorem execute (hr : I.Upheld r) {engine : Nat} {seq : Sequence}
    (fits : I.fits engine seq.handle) (i : Invocation) (own : Nat) (last : Value) {instr : Instr}
    (part : ∀ scope, instr = .define scope → I.part scope) :
    Keeps (I.Passing []) (Interpreter.execute r engine i seq own last instr) :=
  Interpreter.execute_keeps_of_define (I.working _)
    (fun scope here => define hr fits i (part scope here)) own last

theorem interpret (hr : I.Upheld r) {engine : Nat} {seq : Sequence}
    (fits : I.fits engine seq.handle) (stays : seq.StaysIn I.part) (i : Invocation) :
    Keeps (I.Passing []) (Interpreter.interpret r engine i seq) := by
  refine Interpreter.interpret_keeps_of_execute (I.working _) fun instr among own last => ?_
  refine execute hr fits i own last fun scope here => stays scope ?_
  rw [← here]
  exact among

theorem interpretAt_succ {depth : Nat} (hr : I.Upheld ((Env.interpreting source).reach depth))
    {h : Handle} {seq : Sequence} (fits : I.fits h.engine seq.handle) (stays : seq.StaysIn I.part)
    (i : Invocation) :
    Keeps (I.Passing []) ((Env.interpreting source).interpretAt (depth + 1) h i seq) := by
  intro s holds known
  cases reached : s.store.reaches h with
  | false =>
    rw [Env.interpretAt_gone reached]
    exact .refl holds true
  | true =>
    have step : s.store.Step (s.store.calling h.engine) := .hold s.store h.engine
    have inside := interpret hr fits stays i (s.held h.engine) (I.called holds reached)
      fun b among => I.kept (known b among) step.before
    rcases run : Interpreter.interpret ((Env.interpreting source).reach depth) h.engine i seq
      (s.held h.engine) with ⟨_ | o, s₁⟩
    · rw [run] at inside
      rw [Env.interpretAt_reached reached, holding_of_none run]
      exact ⟨inside.holds, step.before.trans inside.before, nofun⟩
    · rw [run] at inside
      rw [Env.interpretAt_ended reached run]
      have back : s₁.store.Step (s₁.store.back h.engine) := .release s₁.store h.engine
      refine ⟨I.returned h.engine inside.holds,
        (step.before.trans inside.before).trans back.before, fun _ => ?_⟩
      -- the call that comes back is the one that was made here
      show s₁.store.running.erase h.engine = s.store.running
      rw [inside.running rfl]
      exact List.erase_cons_head h.engine s.store.running

theorem reach (I : Invariant source) (depth : Nat) :
    I.Upheld ((Env.interpreting source).reach depth) := by
  refine ⟨I.readyAt depth, fun _ _ _ _ _ => readyAt_run, ?_⟩
  induction depth with
  | zero => exact fun _ _ _ _ _ => .exhausted (I.chained _)
  | succ depth ih =>
    intro h i seq fits stays
    exact interpretAt_succ ⟨I.readyAt depth, fun _ _ _ _ _ => readyAt_run, ih⟩ fits stays i

end Invariant

/-! ## Two invariants at once -/

/-- Each change may rely on what both invariants ask for. -/
def Invariant.and {source : Scope → Nat → Store → Lowering} (I J : Invariant source) :
    Invariant source where
  holds st := I.holds st ∧ J.holds st
  known st b := I.known st b ∧ J.known st b
  apt h := I.apt h ∧ J.apt h
  fits engine h := I.fits engine h ∧ J.fits engine h
  part scope := I.part scope ∧ J.part scope
  kept known before := ⟨I.kept known.1 before, J.kept known.2 before⟩
  ready holds known apt found :=
    have left := I.ready holds.1 known.1 apt.1 found
    have right := J.ready holds.2 known.2 apt.2 found
    ⟨⟨left.1, right.1⟩, fun scope among => ⟨left.2 scope among, right.2 scope among⟩⟩
  found holds fits part found :=
    have left := I.found holds.1 fits.1 part.1 found
    have right := J.found holds.2 fits.2 part.2 found
    ⟨⟨left.1, right.1⟩, left.2, right.2⟩
  asked scope holds b among := ⟨I.asked scope holds.1 b among, J.asked scope holds.2 b among⟩
  counted holds same := ⟨I.counted holds.1 same, J.counted holds.2 same⟩
  installed holds known absent holds₀ earlier answered :=
    ⟨I.installed holds.1 known.1 absent holds₀.1 earlier answered,
      J.installed holds.2 known.2 absent holds₀.2 earlier answered⟩
  defined parent _ holds fits part absent :=
    ⟨I.defined parent holds.1 fits.1 part.1 absent, J.defined parent holds.2 fits.2 part.2 absent⟩
  called holds reached := ⟨I.called holds.1 reached, J.called holds.2 reached⟩
  returned engine holds := ⟨I.returned engine holds.1, J.returned engine holds.2⟩

/-! ## Code -/

/-- All code that is installed is as described. -/
def Store.Installs (fine : Lowered → Prop) (st : Store) : Prop :=
  ∀ id seq, st.installed.get? id = some seq → fine seq.lowered

/-- Only fine code is installed if sources answer with nothing else. -/
def Invariant.code {source : Scope → Nat → Store → Lowering} {fine : Lowered → Prop}
    (answers : ∀ scope n st l, (source scope n st).result = .answered (.ok l) → fine l) :
    Invariant source where
  holds := Store.Installs fine
  known _ _ := True
  apt _ := True
  fits _ _ := True
  part _ := True
  kept _ _ := trivial
  ready _ _ _ _ := ⟨trivial, fun _ _ => trivial⟩
  found _ _ _ _ := ⟨trivial, trivial⟩
  asked _ _ _ _ := trivial
  counted {st st'} all same := by
    intro id seq found
    rw [same.installed] at found
    exact all id seq found
  installed {st₀ st b seq} all _ _ _ _ answered := by
    obtain ⟨n, answer⟩ := answered.result
    intro id seq' found
    rw [Store.install, Table.get?_set] at found
    split at found
    next same =>
      cases found
      exact answers b.scope n st₀ _ answer
    next other => exact all id seq' found
  defined _ _ all _ _ _ := all
  called all _ := all
  returned _ all := all

/-! ## Any store -/

def Invariant.anywhere (source : Scope → Nat → Store → Lowering) : Invariant source :=
  @Invariant.code source (fun _ => True) fun _ _ _ _ _ => trivial

theorem Invariant.anywhere_holds {source : Scope → Nat → Store → Lowering} (st : Store) :
    (anywhere source).holds st :=
  fun _ _ _ => trivial

/-- The engines that were being called before a run has ended are those that are afterwards. -/
theorem Body.invoke_running {source : Scope → Nat → Store → Lowering} {depth : Nat} {b : Body}
    {c : Call} {block : Block} {o : Outcome Value} {s s' : State}
    (ended : b.invoke ((Env.interpreting source).reach depth) c block s = (some o, s')) :
    s'.store.running = s.store.running := by
  let I := Invariant.anywhere source
  have known : I.known s.store b := trivial
  have carried :=
    Invariant.invoke (I.reach depth) (Invariant.anywhere_holds s.store) known trivial c block
  rw [ended] at carried
  exact carried.running rfl

end BodyCall
