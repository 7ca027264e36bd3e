import BodyCall.Proofs.Course
import BodyCall.Proofs.Ready

/-!
# Where panics come from

A run that panics has asked a source that panics, or has come to a scope that cannot be run as a
body. No cleanup on its way out panics, for what it takes away is there.
-/

namespace BodyCall

open Eval

variable {source : Scope → Nat → Store → Lowering}

def Body.invalidKind (b : Body) : String := "invalid body method type: " ++ b.scope.text

/-- What a run from `s` to `s'` has panicked for. -/
inductive Blamed (source : Scope → Nat → Store → Lowering) (s s' : State) (t : String) : Prop where
  | source (scope : Scope) (st : Store)
      (asked : .lowering scope (st.loweringCount scope) ∈ s'.since s)
      (answer : (source scope (st.loweringCount scope) st).result = .panicked t)
  | kind (engine : Nat) (scope : Scope) (b : Body) (reached : .defining engine scope ∈ s'.since s)
      (found : s'.store.definition? engine scope = some b) (invalid : b.scope.kind.isBody = false)
      (text : t = b.invalidKind)

theorem Blamed.within {s s₁ s₂ s' : State} {t : String} (h : Blamed source s₁ s₂ t)
    (first : s.Before s₁) (mid : s₁.Before s₂) (last : s₂.Before s') : Blamed source s s' t := by
  cases h with
  | source scope st asked answer =>
    have now := State.Before.since_left mid last asked
    exact .source scope st (State.Before.since_right first (mid.trans last) now) answer
  | kind engine scope b reached found invalid text =>
    have now := State.Before.since_left mid last reached
    have later := State.Before.since_right first (mid.trans last) now
    exact .kind engine scope b later (last.defined _ _ _ found) invalid text

/-- Runs of the computation only add to the state, and their panics are on record. -/
structure Eval.Accounted {α : Type} (source : Scope → Nat → Store → Lowering) (x : Eval α) :
    Prop where
  before : Keeps (fun s _ s' => s.Before s') x
  panics : ∀ {s t s'}, x s = (some (.panicked t), s') → Blamed source s s' t

structure Reach.Accounted (source : Scope → Nat → Store → Lowering) (r : Reach) : Prop where
  ready : ∀ b settings, Eval.Accounted source (r.ready b settings)
  interpret : ∀ h i seq, Eval.Accounted source (r.interpret h i seq)

theorem Reach.Accounted.before {r : Reach} (hr : r.Accounted source) :
    r.Keeps fun s _ s' => s.Before s' :=
  ⟨fun b settings => (hr.ready b settings).before, fun h i seq => (hr.interpret h i seq).before⟩

/-! ## Making ready -/

namespace Eval.Accounted

variable {α β : Type} {x : Eval α} {k : α → Eval β}

theorem bind (hx : Accounted source x) (hk : ∀ a, Accounted source (k a)) :
    Accounted source (x >>= k) := by
  have before := Keeps.bind State.Before.stepwise.toChained hx.before fun a => (hk a).before
  refine ⟨before, fun {s t s'} h => ?_⟩
  rcases bind_panicked h with first | ⟨a, s₁, first, second⟩
  · exact hx.panics first
  · have went := hx.before.of_ended first
    exact ((hk a).panics second).within went ((hk a).before.of_ended second) (.refl s')

theorem ofOutcome {o : Outcome α} (h : ∀ t, o ≠ .panicked t) : Accounted source (ofOutcome o) := by
  refine ⟨.ofOutcome State.Before.stepwise.toChained o, fun {s t s'} run => ?_⟩
  cases run
  exact absurd rfl (h t)

theorem pure (a : α) : Accounted source (Pure.pure a : Eval α) := ofOutcome nofun

theorem update {g : State → State} (h : ∀ s : State, s.Before (g s)) : Accounted source (update g) :=
  ⟨.update h, nofun⟩

theorem emit {e : Event} (h : e.isMotion = false) : Accounted source (emit e) :=
  update fun s => State.Before.stepwise.told s e h

theorem logAll (records : List LogRecord) : Accounted source (logAll records) := by
  induction records with
  | nil => exact pure ()
  | cons r rest ih => exact bind (emit rfl) fun _ => ih

variable {ready : Body → Settings → Eval Sequence}

theorem reenter (hr : ∀ b settings, Accounted source (ready b settings)) (b : Body)
    (setup : Setup) : Accounted source (reenter ready b setup) := by
  refine bind (logAll _) fun _ => ⟨?_, fun {s t s'} h => ?_⟩
  · refine .bind State.Before.stepwise.toChained (hr b _).before.attempt fun o => ?_
    cases o with
    | ok seq => exact .emit State.Before.stepwise.toTelling rfl
    | failed f => exact .emit State.Before.stepwise.toTelling rfl
    | panicked t => exact .ofOutcome State.Before.stepwise.toChained _
  · rcases run : ready b setup.read.settings s with ⟨_ | o, s₁⟩
    · rw [bind_of_none (attempt_of_none run)] at h
      cases h
    · rw [bind_of_ok (attempt_of_ended run)] at h
      cases o with
      | ok seq => cases h
      | failed f => cases h
      | panicked t' =>
        cases h
        exact (hr b _).panics run

theorem reenterAll (hr : ∀ b settings, Accounted source (ready b settings))
    (reentries : List (Body × Setup)) : Accounted source (reenterAll ready reentries) := by
  induction reentries with
  | nil => exact pure ()
  | cons r rest ih =>
    obtain ⟨b, setup⟩ := r
    exact bind (reenter hr b setup) fun _ => ih

theorem lower (hr : ∀ b settings, Accounted source (ready b settings)) (scope : Scope) :
    Accounted source (lower source ready scope) := by
  refine ⟨.lower State.Before.stepwise.preparing (fun b settings => (hr b settings).before) scope,
    fun {s t s'} h => ?_⟩
  have noted := s.before_asked scope
  have rest := reenterAll hr (source scope (s.store.loweringCount scope) s.store).reentries
  rw [lower_run] at h
  rcases bind_panicked h with first | ⟨_, s₁, first, last⟩
  · exact (rest.panics first).within noted (rest.before.of_ended first) (.refl s')
  · have later := rest.before.of_ended first
    rw [ofOutcome_run] at last
    cases answer : (source scope (s.store.loweringCount scope) s.store).result with
    | answered l => rw [answer] at last; cases last
    | panicked t' =>
      rw [answer] at last
      cases last
      refine .source scope s.store (noted.since_left later ?_) answer
      rw [s.since_asked]
      exact List.mem_singleton_self _

theorem prepare (hr : ∀ b settings, Accounted source (ready b settings)) (scope : Scope)
    (handle : Handle) : Accounted source (prepare source ready scope handle) := by
  refine bind (lower hr scope) fun answer => ?_
  cases answer with
  | error reason => exact ofOutcome nofun
  | ok l =>
    refine bind ⟨.freshSequence State.Before.stepwise.preparing, nofun⟩ fun _ => pure _

theorem install {b : Body} {seq : Sequence} (h : seq.handle = b.handle) (settings : Settings) :
    Accounted source (install b seq settings) := by
  refine ⟨.install State.Before.stepwise.preparing h settings, fun {s t s'} run => ?_⟩
  obtain ⟨seq', s₁, ended, -⟩ := install_run b seq settings s
  rw [ended] at run
  cases run

theorem readyAt (depth : Nat) (b : Body) (settings : Settings) :
    Accounted source (readyAt source depth b settings) := by
  induction depth generalizing b settings with
  | zero => exact ⟨.exhausted State.Before.stepwise.toChained, nofun⟩
  | succ depth ih =>
    refine ⟨.readyAt State.Before.stepwise.preparing (depth + 1) b settings, fun {s t s'} h => ?_⟩
    rw [Eval.readyAt, store_bind] at h
    cases found : s.store.sequence? b with
    | some seq => rw [found] at h; cases h
    | none =>
      rw [found] at h
      have prepared := prepare ih b.scope b.handle
      rcases bind_panicked h with first | ⟨seq, s₁, first, last⟩
      · exact prepared.panics first
      · have installed := @install source b seq (prepare_handle _ _ _ _ _ first) settings
        exact (installed.panics last).within (prepared.before.of_ended first)
          (installed.before.of_ended last) (.refl s')

end Eval.Accounted

/-! ## Running -/

namespace Body

variable {r : Reach} {b : Body} {c : Call} {block : Block} {s s' : State} {t : String}

theorem announced_before (b : Body) (c : Call) (s : State) : s.Before (b.announced c s) := by
  have kept := announce_keeps State.Before.stepwise.toAside b c
  exact kept.of_ended (announce_run b c s)

theorem invoke_panicked (hr : r.Accounted source) (hb : r.Keeps Balance)
    (h : b.invoke r c block s = (some (.panicked t), s')) :
    (b.scope.kind.isBody = false ∧ t = b.invalidKind) ∨ Blamed source s s' t := by
  have w := State.Before.stepwise
  have announced := announced_before b c s
  have course := (invoke_ended_iff hb).mp h
  -- the outcome of a course is not a variable, which `cases` needs
  generalize ended : Outcome.panicked t = o at course
  cases course with
  | unready ready => cases ended
  | refused ready generic limit => cases ended
  | broken ready =>
    cases ended
    obtain ⟨before, panics⟩ := hr.ready b (b.announced c s).context.settings
    exact .inr ((panics ready).within announced (before.of_ended ready) (.refl s'))
  | invalid ready room kind =>
    cases ended
    have invalid : b.scope.label?.isSome = false := by rw [kind]; rfl
    rw [Scope.label?_isSome] at invalid
    exact .inl ⟨invalid, rfl⟩
  | @interpreted seq s₁ s₂ label o ready room kind run =>
    cases o with
    | ok v => cases ended
    | failed f => cases ended
    | panicked t' =>
      cases ended
      obtain ⟨before, panics⟩ := hr.interpret seq.handle (invocation label c block) seq
      have made := announced.trans ((hr.ready b _).before.of_ended ready)
      have first := made.trans (b.before_opened c block label seq s₁)
      exact .inr ((panics run).within first (before.of_ended run) (s₂.before_closed _))

end Body

namespace Interpreter

variable {r : Reach} {engine : Nat} {i : Invocation} {seq : Sequence} {s s' : State} {t : String}

theorem define_panicked (hr : r.Accounted source) (hb : r.Keeps Balance) {scope : Scope}
    (h : define r engine i seq scope s = (some (.panicked t), s')) : Blamed source s s' t := by
  let s₁ : State := { s with trace := .defining engine scope :: s.trace }
  have told : s.Before s₁ := State.Before.stepwise.told s _ rfl
  obtain ⟨b, s₂, known, found, -⟩ := bodyFor_run engine scope i.call.receiver.module? seq.handle s₁
  have made : s₁.Before s₂ :=
    (bodyFor_keeps State.Before.stepwise.toAside _ _ _ _).of_ended known
  rw [define_run known] at h
  have ran : s₂.Before s' :=
    (b.invoke_keeps State.Before.stepwise.guarded hr.before _ _).of_ended h
  rcases Body.invoke_panicked hr hb h with ⟨invalid, text⟩ | inside
  · -- the body is no longer the one that was invoked at first, but one that a definition has led to
    have reached : .defining engine scope ∈ s₁.since s := by
      rw [@State.since_of_append s s₁ [.defining engine scope] rfl]
      exact List.mem_singleton_self _
    have reached := told.since_left (made.trans ran) reached
    exact .kind engine scope b reached (ran.defined _ _ _ found) invalid text
  · exact inside.within (told.trans made) ran (.refl s')

theorem execute_panicked (hr : r.Accounted source) (hb : r.Keeps Balance) {last : Value}
    {instr : Instr} {pushed base : List Frame} (frames : s.context.frames = pushed ++ base)
    (h : execute r engine i seq pushed.length last instr s = (some (.panicked t), s')) :
    Blamed source s s' t := by
  cases instr with
  | line n => cases h
  | put v => cases h
  | putSelf => cases h
  | raise message => cases h
  | pushFrame =>
    cases room : s.context.exceeded? with
    | some max => rw [execute, bind_of_failed (pushFrame_refused room)] at h; cases h
    | none => rw [execute, bind_of_ok (pushFrame_run room)] at h; cases h
  | popFrame =>
    -- the sequence only pops what it has pushed, and that is on the stack
    cases pushed with
    | nil => cases h
    | cons f rest =>
      have popped : execute r engine i seq (f :: rest).length last .popFrame s = _ :=
        bind_of_ok (popFrame_run frames)
      rw [popped] at h
      cases h
  | define scope =>
    rcases bind_panicked h with defined | ⟨v, s₁, -, h⟩
    · exact define_panicked hr hb defined
    · cases h

theorem run_panicked (hr : r.Accounted source) (hb : r.Keeps Balance) {last : Value} {own : Nat}
    (instrs : List Instr) {pushed base : List Frame} (frames : s.context.frames = pushed ++ base)
    (h : run r engine i seq pushed.length last instrs s = (some (.ok (.panicked t, own)), s')) :
    Blamed source s s' t := by
  induction instrs generalizing s pushed last with
  | nil => cases h
  | cons instr rest ih =>
    have confined := execute_confined hb engine i seq last instr frames
    have kept := execute_keeps State.Before.stepwise hr.before engine i seq pushed.length last instr
    rcases step : execute r engine i seq pushed.length last instr s with
      ⟨_ | ⟨own', last'⟩ | f | t', s₁⟩
    · rw [run_of_none step] at h
      cases h
    · rw [run_of_ok step] at h
      rw [step] at confined
      obtain ⟨pushed', frames', rfl⟩ := confined.frames
      have ran := run_keeps State.Before.stepwise hr.before engine i seq pushed'.length last' rest
      exact (ih frames' h).within (kept.of_ended step) (ran.of_ended h) (.refl s')
    · rw [run_of_failed step] at h
      cases h
    · rw [run_of_panicked step] at h
      cases h
      exact execute_panicked hr hb frames step

theorem interpret_accounted (hr : r.Accounted source) (hb : r.Keeps Balance) (engine : Nat)
    (i : Invocation) (seq : Sequence) : Accounted source (interpret r engine i seq) := by
  have kept := interpret_keeps State.Before.stepwise hr.before engine i seq
  refine ⟨kept, fun {s t s'} h => ?_⟩
  obtain ⟨own, s₁, ran⟩ := run_of_interpret hb h
  obtain ⟨s₂, ended, -, popped, -⟩ := interpret_of_run hb ran
  have same := ended.symm.trans h
  cases same
  have inside := @run_panicked source r engine i seq s s₁ t hr hb .nil own seq.instrs [] _ rfl ran
  have went := run_keeps State.Before.stepwise hr.before engine i seq 0 .nil seq.instrs
  exact inside.within (.refl s) (went.of_ended ran) popped

end Interpreter

theorem Reach.accounted (source : Scope → Nat → Store → Lowering) (depth : Nat) :
    ((Env.interpreting source).reach depth).Accounted source := by
  refine ⟨.readyAt depth, ?_⟩
  change ∀ h i seq, Eval.Accounted source ((Env.interpreting source).interpretAt depth h i seq)
  induction depth with
  | zero => exact fun _ _ _ => ⟨.exhausted State.Before.stepwise.toChained, nofun⟩
  | succ depth ih =>
    intro h i seq
    have inner : ((Env.interpreting source).reach depth).Accounted source := ⟨.readyAt depth, ih⟩
    have balanced := Balance.reach source depth
    refine ⟨(State.Before.stepwise.reach (depth + 1)).interpret h i seq, fun {s t s'} ended => ?_⟩
    rcases Env.interpretAt_cases ended with ⟨-, -, failed⟩ | ⟨-, s₁, rfl, run⟩
    · cases failed
    · have hold : s.Before (s.held h.engine) :=
        State.Before.stepwise.stored s _ (.hold s.store h.engine)
      have release : s₁.Before (s₁.released h.engine) :=
        State.Before.stepwise.stored s₁ _ (.release s₁.store h.engine)
      obtain ⟨before, panics⟩ := Interpreter.interpret_accounted inner balanced h.engine i seq
      exact (panics run).within hold (before.of_ended run) release

/-- An invocation that ends leaves both stacks as they were, entry by entry. Until then, or until it
is cut off, each motion of the stacks is on record and leads to stacks that lie above what they were.
The only panics are those of sources that were asked and of scopes that were come to and are no
bodies. So it is for each call of an engine on the way, from the stacks that this call has found:
those of the callers, with the frames of their protocols. -/
theorem Body.invoke_stacks (source : Scope → Nat → Store → Lowering) (depth : Nat) (s : State) :
    (∀ (b : Body) (c : Call) (block : Block),
      let result := b.invoke ((Env.interpreting source).reach depth) c block s
      Balance s result.1.isSome result.2 ∧ Recorded s result.2 ∧
        ∀ t, result.1 = some (.panicked t) →
          (b.scope.kind.isBody = false ∧ t = b.invalidKind) ∨ Blamed source s result.2 t) ∧
    ∀ (h : Handle) (i : Invocation) (seq : Sequence),
      let result := (Env.interpreting source).interpretAt depth h i seq s
      Balance s result.1.isSome result.2 ∧ Recorded s result.2 ∧
        ∀ t, result.1 = some (.panicked t) → Blamed source s result.2 t := by
  have balanced := Balance.reach source depth
  have recorded := @Stepwise.reach _ source Recorded.stepwise depth
  have accounted := Reach.accounted source depth
  constructor
  · intro b c block
    have kept := b.invoke_keeps Recorded.stepwise.guarded recorded c block s
    refine ⟨b.invoke_keeps Balance.guarded balanced c block s, kept, fun t panicked => ?_⟩
    exact invoke_panicked accounted balanced (Prod.ext panicked rfl)
  · intro h i seq
    refine ⟨balanced.interpret h i seq s, recorded.interpret h i seq s, fun t panicked => ?_⟩
    exact (accounted.interpret h i seq).panics (Prod.ext panicked rfl)

end BodyCall
