import BodyCall.Proofs.Lifetime

/-!
# Engines that are gone

Nothing catches a failure, so a run ends in a dropped engine exactly if some body in it calls its
engine and finds it gone. The body of a definition has the handle of the sequence that the definition
was first met in, which need not be a handle to the engine that runs the sequence. Where they are the
same, the engine is being called from there, and is not gone.
-/

namespace BodyCall

open Eval

/-- The body gets to call its engine, and finds it gone. -/
def Body.Loses (r : Reach) (b : Body) (c : Call) (s : State) : Prop :=
  ∃ seq s₁, b.sequence r (b.announced c s) = (some (.ok seq), s₁) ∧ s₁.Admits seq.explicit ∧
    b.scope.label?.isSome = true ∧ s₁.store.reaches seq.handle = false

def Visit.Loses (v : Visit) : Prop :=
  v.body.Loses v.reach (Interpreter.definitionCall v.body) v.opened

variable {source : Scope → Nat → Store → Lowering} {depth : Nat}

namespace Body

variable {r : Reach} {b : Body} {c : Call} {block : Block} {s : State}

theorem FailsHere.loses (fails : b.FailsHere r c block s .engineDropped) : b.Loses r c s := by
  cases fails with
  | @inside seq s₁ label _ ready room kind fails =>
    have known : b.scope.label?.isSome = true := by rw [kind]; rfl
    cases fails with
    | gone gone =>
      rw [(b.alike_opened c block label seq s₁).store] at gone
      exact ⟨seq, s₁, ready, room, known, gone⟩
    | stopped stops => exact absurd rfl stops.not_dropped

theorem Loses.endsIn (loses : b.Loses ((Env.interpreting source).reach depth) c s) (block : Block) :
    EndsIn .engineDropped (b.invoke ((Env.interpreting source).reach depth) c block s) := by
  obtain ⟨seq, s₁, ready, room, known, gone⟩ := loses
  obtain ⟨label, kind⟩ := Option.isSome_iff_exists.mp known
  rw [← (b.alike_opened c block label seq s₁).store] at gone
  cases depth with
  | zero => cases ready
  | succ depth =>
    have ended := (@Course.interpreted _ b c block s _ _ _ _ _ ready room kind
      (Env.interpretAt_gone gone)).run (Balance.reach source (depth + 1))
    exact ⟨_, _, ended, (Failure.attach_cause _ _).trans (Failure.attach_cause _ _)⟩

end Body

theorem Visit.Loses.endsIn {v : Visit} (loses : v.Loses)
    (reach : ∃ depth, v.reach = (Env.interpreting source).reach depth) :
    EndsIn .engineDropped v.run := by
  obtain ⟨depth, reach⟩ := reach
  unfold Loses at loses
  rw [v.run_eq]
  rw [reach] at loses ⊢
  exact loses.endsIn .absent

theorem Env.interpretAt_dropped_iff {h : Handle} {i : Invocation} {seq : Sequence} {s : State}
    (reached : s.store.reaches h = true) :
    EndsIn .engineDropped ((interpreting source).interpretAt depth h i seq s) ↔
      ∃ v ∈ visitsAt source depth h i seq s, v.Loses := by
  constructor
  · rintro ⟨f, s', failed, cause⟩
    obtain ⟨cause', origin, fault, rfl⟩ := (faults_explain depth h i seq s f).mp ⟨s', failed⟩
    cases cause
    rcases faults_placed _ depth fault with here | ⟨v, among, fails⟩
    · cases here with
      | gone gone =>
        rw [reached] at gone
        cases gone
      | stopped stops => exact absurd rfl stops.not_dropped
    · exact ⟨v, among, fails.loses⟩
  · rintro ⟨v, among, loses⟩
    have met := (Invariant.anywhere source).metWithin depth h i seq s
      (Invariant.anywhere_holds s.store) trivial (fun _ _ => trivial) v among
    exact interpretAt_of_visit among (loses.endsIn met.reach)

theorem Body.invoke_dropped_iff {b : Body} {c : Call} {block : Block} {s : State} :
    EndsIn .engineDropped (b.invoke ((Env.interpreting source).reach depth) c block s) ↔
      b.Loses ((Env.interpreting source).reach depth) c s ∨
      ∃ v ∈ b.visits ((Env.interpreting source).reach depth) (Env.visitsAt source depth) c block s,
        v.Loses := by
  constructor
  · rintro ⟨f, s', failed, cause⟩
    obtain ⟨cause', origin, fails, rfl⟩ := (b.invoke_failed_iff _ depth c block s f).mp ⟨s', failed⟩
    cases cause
    rcases fails.placed (Env.faults_placed _ depth) with here | ⟨v, among, fails⟩
    · exact .inl here.loses
    · exact .inr ⟨v, among, fails.loses⟩
  · rintro (loses | ⟨v, among, loses⟩)
    · exact loses.endsIn block
    · have met := (Invariant.anywhere source).invoke_met ((Invariant.anywhere source).metWithin depth)
        (Invariant.anywhere_holds s.store) trivial trivial c block v among
      exact b.invoke_of_visit (fun _ _ _ _ _ => Env.interpretAt_of_visit) among
        (loses.endsIn met.reach)

/-! ## Bodies that are bound to the engine that has defined them -/

/-- A handle by which this engine may define bodies, if they are to be bound to it. -/
def Binds (engine : Nat) (e : Nat) (h : Handle) : Prop := e = engine → h.engine = engine

def Store.Bound (st : Store) (engine : Nat) : Prop :=
  ∀ scope b, st.definition? engine scope = some b → b.handle.engine = engine

section

variable {fits : Nat → Handle → Prop} {made : List Body} {engine : Nat} {st : Store}

theorem Tidy.bound (tidy : Tidy (Binds engine) made st) : st.Bound engine := by
  intro scope b found
  obtain ⟨h, binds, weak⟩ := tidy.defined engine scope b found
  rw [weak]
  exact binds rfl

theorem Tidy.of_bound (tidy : Tidy fits made st) (bound : st.Bound engine) :
    Tidy (Binds engine) made st where
  numbered := tidy.numbered
  identified := tidy.identified
  registered := tidy.registered
  engines := tidy.engines
  scopes := tidy.scopes
  defined e scope b found := by
    obtain ⟨h, -, weak⟩ := tidy.defined e scope b found
    refine ⟨h, ?_, weak⟩
    rintro rfl
    have same := bound scope b found
    rw [weak] at same
    exact same
  installed := tidy.installed

variable (handleless : Handleless source) (made) (engine)

/-- While bodies that are bound to the engine run on it, it only defines more of them. -/
def Tidy.invariant : Invariant source where
  holds := Tidy (Binds engine) made
  known st b := st.Knows made b
  apt h := h.engine = engine
  fits e h := e = engine ∧ h.engine = engine
  part _ := True
  kept := Store.Knows.mono
  ready tidy known apt found := by
    rw [tidy.handle known found]
    exact ⟨⟨apt, apt⟩, fun _ _ => trivial⟩
  found tidy fits _ found := ⟨.inr ⟨_, _, found⟩, tidy.bound _ _ (fits.1 ▸ found)⟩
  asked _ tidy _ among := tidy.asked handleless made among
  counted tidy same := tidy.of_same same.definitions same.installed same.nextBody
    (same.registry ▸ tidy.registered)
  installed tidy known _ _ _ answered := tidy.install known answered.handle
  defined parent _ tidy fits _ absent := tidy.define (fun _ => fits.2) absent parent
  called tidy _ := tidy.of_same rfl rfl rfl tidy.registered
  returned _ tidy := tidy.of_same rfl rfl rfl tidy.registered

variable {made} {engine} {handleless}

theorem Invariant.Met.not_loses {v : Visit}
    (met : (Tidy.invariant made engine handleless).Met st v) : ¬ v.Loses := by
  rintro ⟨seq, s₁, ready, -, -, gone⟩
  obtain ⟨depth, reach⟩ := met.reach
  rw [reach] at ready
  obtain ⟨opened, known, bound⟩ := met.opened
  obtain ⟨prepared, installed⟩ :=
    Invariant.readied ((Tidy.invariant made engine handleless).reach depth) opened.holds known ready
  have handle : seq.handle = v.body.handle :=
    prepared.holds.handle (known.mono prepared.before) installed
  have called : v.engine ∈ s₁.store.running := by
    rw [prepared.running rfl, opened.running rfl]
    exact met.called
  have here : seq.handle.engine = v.engine := by
    rw [handle, met.fits.1]
    exact bound
  have alive : s₁.store.reaches seq.handle = true := Store.reaches_of_running (here ▸ called)
  rw [gone] at alive
  cases alive

end

/-! ## Where bodies come from -/

namespace Passes

variable {st st' : Store} {vs : List Visit} {engine : Nat} {scope : Scope} {b b' : Body}

theorem defined (way : Passes st vs st') (found : st.definition? engine scope = some b) :
    st'.definition? engine scope = some b := by
  induction way with
  | rest kept =>
    rw [Store.definition?, Store.defined, kept.definitions]
    exact found
  | @visit st st' v rest kept later ih =>
    have here : v.state.store.definition? engine scope = some b := by
      rw [Store.definition?, Store.defined, kept.definitions]
      exact found
    have before : v.told.Before v.opened :=
      (Interpreter.bodyFor_keeps State.Before.stepwise.toAside _ _ _ _).of_ended v.bodyFor_run
    exact ih (before.defined engine scope b here)

theorem new_of_visit (way : Passes st vs st') (absent : st.definition? engine scope = none)
    (found : st'.definition? engine scope = some b) :
    ∃ v ∈ vs, v.engine = engine ∧ v.body = b ∧ b.handle = v.seq.handle.downgrade := by
  induction way with
  | rest kept =>
    rw [Store.definition?, Store.defined, kept.definitions] at found
    rw [Store.definition?, Store.defined, found] at absent
    cases absent
  | @visit st st' v rest kept later ih =>
    have here : v.state.store.definition? engine scope = none := by
      rw [Store.definition?, Store.defined, kept.definitions]
      exact absent
    have elsewhere (still : v.opened.store.definition? engine scope = none) :
        ∃ w ∈ v :: rest, w.engine = engine ∧ w.body = b ∧ b.handle = w.seq.handle.downgrade := by
      obtain ⟨w, among, made⟩ := ih still found
      exact ⟨w, List.mem_cons_of_mem v among, made⟩
    cases known : v.state.store.definition? v.engine v.scope with
    | some other =>
      rw [← Visit.opened_of_known known] at here
      exact elsewhere here
    | none =>
      have made : v.opened.store.definition? engine scope =
          if v.engine = engine ∧ v.body.scope.id = scope.id then some v.body
          else v.state.store.definition? engine scope := by
        rw [Visit.opened_of_absent known, Interpreter.defining, Store.definition?_define]
        rfl
      by_cases same : v.engine = engine ∧ v.body.scope.id = scope.id
      · rw [if_pos same] at made
        have still := later.defined made
        rw [found] at still
        obtain rfl := Option.some.inj still
        refine ⟨v, List.mem_cons_self, same.1, rfl, ?_⟩
        rw [Visit.body_of_absent known]
        rfl
      · rw [if_neg same] at made
        exact elsewhere (made.trans here)

end Passes

/-- A sequence is run through a handle that reaches an engine, whatever handle the sequence itself
has. It ends in a dropped engine exactly if a body that it comes to define has lost its engine. A
body that is new in some engine has the handle of the sequence that the definition stands in. So if
the handle of the sequence is one to the engine that runs it, and all that this engine has defined is
bound to it, then no engine is lost, and what the engine has defined stays bound to it. -/
theorem definitions_follow_sequence (handleless : Handleless source) {fits : Nat → Handle → Prop}
    {made : List Body} {s : State} (lived : Lifetime fits s.store made) {h : Handle}
    (reached : s.store.reaches h = true) (depth : Nat) (i : Invocation) (seq : Sequence) :
    let run := (Env.interpreting source).interpretAt depth h i seq s
    let visits := Env.visitsAt source depth h i seq s
    (EndsIn .engineDropped run ↔ ∃ v ∈ visits, v.Loses) ∧
    (∀ engine scope b, s.store.definition? engine scope = none →
      run.2.store.definition? engine scope = some b →
      ∃ v ∈ visits, v.engine = engine ∧ v.body = b ∧ b.handle = v.seq.handle.downgrade) ∧
    (seq.handle.engine = h.engine → s.store.Bound h.engine →
      ¬ EndsIn .engineDropped run ∧ run.2.store.Bound h.engine) := by
  refine ⟨Env.interpretAt_dropped_iff reached, fun engine scope b absent found => ?_,
    fun own bound => ?_⟩
  · exact (Env.interpretAt_passes depth h i seq s).new_of_visit absent found
  · let I := Tidy.invariant made h.engine handleless
    have tidy : I.holds s.store := lived.tidy.of_bound bound
    have fit : I.fits h.engine seq.handle := ⟨rfl, own⟩
    refine ⟨fun dropped => ?_, ?_⟩
    · obtain ⟨v, among, loses⟩ := (Env.interpretAt_dropped_iff reached).mp dropped
      exact (I.metWithin depth h i seq s tidy fit (fun _ _ => trivial) v among).not_loses loses
    · exact ((I.reach depth).interpret h i seq fit (fun _ _ => trivial) s tidy nofun).holds.bound

theorem own_definitions_follow_sequence :
    let inner : Scope := ⟨1, .classBody, "Widget", "widget.rb", 2⟩
    let source : Scope → Nat → Store → Lowering := fun _ _ _ => .prepared ⟨[.putSelf], false⟩
    let m : Module := .top 0 "Shop" .plain
    let seq : Sequence := ⟨0, "shop.rb", 1, false, [.define inner], ⟨0, true⟩⟩
    let s : State := ⟨⟨{}, 1, [], []⟩, { nextEngine := 1, registry.handles := ⟨[("A", ⟨0, true⟩)]⟩ }, []⟩
    let run := (Env.interpreting source).interpretAt 2 ⟨0, false⟩
      (Body.invocation "Shop" ⟨none, .object m, m, "Shop"⟩ .absent) seq s
    s.store.reaches ⟨0, false⟩ = true ∧ ¬ EndsIn .engineDropped run ∧ run.2.store.Bound 0 ∧
      (run.2.store.definition? 0 inner).map (·.handle) = some ⟨0, false⟩ := by
  intro inner source m seq s
  have handleless : Handleless source := fun _ _ _ => nofun
  have lived : Lifetime (fun _ _ => True) s.store [] := .engine .start "A"
  have reached : s.store.reaches ⟨0, false⟩ = true := by decide
  have bound : s.store.Bound 0 := nofun
  obtain ⟨-, -, own⟩ := definitions_follow_sequence handleless lived reached 2
    (Body.invocation "Shop" ⟨none, .object m, m, "Shop"⟩ .absent) seq
  exact ⟨reached, (own rfl bound).1, (own rfl bound).2, by decide +kernel⟩

/-- The handle of the sequence decides. Here its engine is gone before the sequence is run by another
engine, which is alive: the class gets the lost handle, and the run ends there. -/
theorem foreign_sequence_loses_engine :
    let inner : Scope := ⟨1, .classBody, "Widget", "widget.rb", 2⟩
    let source : Scope → Nat → Store → Lowering := fun _ _ _ => .prepared ⟨[.putSelf], false⟩
    let m : Module := .top 0 "Shop" .plain
    let seq : Sequence := ⟨0, "shop.rb", 1, false, [.define inner], ⟨0, false⟩⟩
    let st : Store := { nextEngine := 2, registry := {
      handles := ⟨[("A2", ⟨0, false⟩), ("B", ⟨1, true⟩)]⟩, sequences := ⟨[("S", seq)]⟩ } }
    let run := (Env.interpreting source).interpretAt 2 ⟨1, true⟩
      (Body.invocation "Shop" ⟨none, .object m, m, "Shop"⟩ .absent) seq ⟨⟨{}, 1, [], []⟩, st, []⟩
    Handleless source ∧ Lifetime (fun _ _ => True) st [] ∧ ⟨1, true⟩ ∈ st.held ∧
      st.alive 1 = true ∧ EndsIn .engineDropped run ∧
      (run.2.store.definition? 1 inner).map (·.handle) = some ⟨0, false⟩ := by
  intro inner source m seq st
  have lived : Lifetime (fun _ _ => True) st [] := by
    have nothing : Lifetime (fun _ _ => True) {} [] := .start
    have a := Lifetime.engine nothing "A"
    have a₂ := Lifetime.downgrade a (h := ⟨0, true⟩) (by decide) "A2"
    have b := Lifetime.engine a₂ "B"
    have prepared := @Lifetime.sequence _ _ _ b seq (by decide) "S"
    exact .drop prepared .engine "A"
  refine ⟨fun _ _ _ => nofun, lived, by decide, by decide, ?_, by decide +kernel⟩
  exact EndsIn.of_failed (f := ⟨.engineDropped, some [⟨"Widget", "widget.rb", 1⟩]⟩)
    (by decide +kernel)

end BodyCall
