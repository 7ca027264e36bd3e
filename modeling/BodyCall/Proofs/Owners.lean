import BodyCall.Proofs.Dropped
import BodyCall.Proofs.Sessions

/-!
# Who keeps an engine alive

The histories of a store, put together: what engines have defined keeps none of them alive, runs go on
with a history, and an engine that runs sequences of its own is there for all that it has defined.
-/

namespace BodyCall

open Eval

namespace Lifetime

/-- A run goes on with a history, until its end and wherever it comes to a definition. At its end all
the calls that it has made have returned. -/
structure Through (fits : Nat → Handle → Prop) (made : List Body) (st : Store)
    (visits : List Visit) (run : Option (Outcome Value) × State) : Prop where
  goes : Lifetime fits run.2.store made
  visited : ∀ v ∈ visits, Lifetime fits v.state.store made
  returned : run.1.isSome = true → run.2.store.running = st.running

variable {source : Scope → Nat → Store → Lowering} {depth : Nat} {fits : Nat → Handle → Prop}
  {made : List Body} {s : State}

theorem interpretAt_eq (env : Env) (depth : Nat) {h : Handle} (i : Invocation) (seq : Sequence)
    (there : h ∈ s.store.held ++ s.store.cached) :
    env.interpretAt (depth + 1) h i seq s =
      if s.store.alive h.engine then holding h.engine (env.engine (env.reach depth) h.engine i seq) s
      else
        let stack := s.context.backtrace
        (some (.failed ⟨.engineDropped, if stack.isEmpty then none else some stack⟩), s) := by
  have reaches := Store.reaches_eq_alive there
  cases alive : s.store.alive h.engine with
  | true => exact Env.interpretAt_runs (reaches.trans alive)
  | false =>
    rw [Env.interpretAt_gone (reaches.trans alive), Failure.attach_new]
    rfl

section

variable (lived : Lifetime fits s.store made) (handleless : Handleless source)
  (own : ∀ h : Handle, fits h.engine h)

include lived handleless own

theorem invoke_through {b : Body} (known : s.store.Knows made b) (c : Call) (block : Block) :
    let reach := (Env.interpreting source).reach depth
    Through fits made s.store (b.visits reach (Env.visitsAt source depth) c block s)
      (b.invoke reach c block s) := by
  intro reach
  let I := Lifetime.invariant handleless made own
  have carried := Invariant.invoke (I.reach depth) lived known trivial c block
  refine ⟨carried.holds, fun v among => ?_, carried.running⟩
  exact (Invariant.invoke_met (I.metWithin depth) lived known trivial c block v among).holds

theorem interpretAt_through {h : Handle} {seq : Sequence} (fit : fits h.engine seq.handle)
    (i : Invocation) :
    Through fits made s.store (Env.visitsAt source depth h i seq s)
      ((Env.interpreting source).interpretAt depth h i seq s) := by
  let I := Lifetime.invariant handleless made own
  have anywhere : seq.StaysIn I.part := fun _ _ => trivial
  have carried := (I.reach depth).interpret h i seq fit anywhere s lived nofun
  exact ⟨carried.holds,
    fun v among => (I.metWithin depth h i seq s lived fit anywhere v among).holds, carried.running⟩

end

theorem invoke_not_dropped (lived : Lifetime fits s.store made) (handleless : Handleless source)
    (bound : ∀ engine h, fits engine h → h.engine = engine) {b : Body}
    (known : s.store.Knows made b) (c : Call) (block : Block)
    (found : ¬ b.Loses ((Env.interpreting source).reach depth) c s) :
    ¬ EndsIn .engineDropped (b.invoke ((Env.interpreting source).reach depth) c block s) := by
  let I := Tidy.invariant made b.handle.engine handleless
  have tidy : I.holds s.store := by
    refine lived.tidy.of_bound fun scope b' defined => ?_
    obtain ⟨h, fit, weak⟩ := lived.tidy.defined _ _ _ defined
    rw [weak]
    exact bound _ h fit
  intro dropped
  rcases Body.invoke_dropped_iff.mp dropped with loses | ⟨v, among, loses⟩
  · exact found loses
  · exact (Invariant.invoke_met (I.metWithin depth) tidy known rfl c block v among).not_loses loses

/-- Whatever has been done with handles, methods and sequences, and whatever has been run, no handle
that can be reached from what engines have defined is an owning one. So an engine is alive exactly
while it is called or some owning handle is held outside. A call through any handle runs the engine if
it is alive, and else fails and leaves everything as it is. Runs only go on with the history, and if
engines only run sequences of their own, no body that finds its own engine alive ends in a dropped
engine. All that scripts do is such a history. -/
theorem owners_keep_engines {st : Store} (lived : Lifetime fits st made) :
    (∀ h ∈ st.cached, h.owning = false) ∧
    (∀ engine, st.alive engine = true ↔ st.Lives engine) ∧
    (∀ (env : Env) (depth : Nat) (h : Handle) (i : Invocation) (seq : Sequence) (s : State),
      s.store = st → h ∈ st.held ++ st.cached →
      env.interpretAt (depth + 1) h i seq s =
        if st.alive h.engine then holding h.engine (env.engine (env.reach depth) h.engine i seq) s
        else
          let stack := s.context.backtrace
          (some (.failed ⟨.engineDropped, if stack.isEmpty then none else some stack⟩), s)) ∧
    (∀ (source : Scope → Nat → Store → Lowering) (depth : Nat) (s : State),
      Handleless source → (∀ h : Handle, fits h.engine h) → s.store = st →
      let reach := (Env.interpreting source).reach depth
      (∀ (b : Body) (c : Call) (block : Block), st.Knows made b →
        Through fits made st (b.visits reach (Env.visitsAt source depth) c block s)
          (b.invoke reach c block s) ∧
        ((∀ engine h, fits engine h → h.engine = engine) →
          (∀ seq s₁, b.sequence reach (b.announced c s) = (some (.ok seq), s₁) →
            s₁.store.alive seq.handle.engine = true) →
          ∀ f s', b.invoke reach c block s = (some (.failed f), s') → f.cause ≠ .engineDropped)) ∧
      ∀ (h : Handle) (i : Invocation) (seq : Sequence), fits h.engine seq.handle →
        Through fits made st (Env.visitsAt source depth h i seq s) (reach.interpret h i seq s)) ∧
    ∀ (script : Script) (context : Context) (depth : Nat),
      ∃ made, (script.run (Reach.session depth) ⟨context, {}, []⟩).2.store.Lived made := by
  refine ⟨fun h => lived.tidy.cached_weak, lived.alive_iff, ?_, ?_, Script.lived⟩
  · rintro env depth h i seq s rfl there
    exact interpretAt_eq env depth i seq there
  · rintro source depth s handleless own rfl reach
    refine ⟨fun b c block known => ⟨?_, fun bound alive f s' failed dropped => ?_⟩,
      fun h i seq fit => ?_⟩
    · exact lived.invoke_through handleless own known c block
    · refine lived.invoke_not_dropped handleless bound known c block ?_ ⟨f, s', failed, dropped⟩
      rintro ⟨seq, s₁, ready, -, -, gone⟩
      rw [Store.reaches, alive seq s₁ ready, Bool.or_true] at gone
      cases gone
    · exact lived.interpretAt_through handleless own fit i

theorem owner_keeps_engine :
    let widget : Scope := ⟨1, .classBody, "Widget", "widget.rb", 2⟩
    let source : Scope → Nat → Store → Lowering := fun scope _ _ =>
      .prepared (if scope.id = 0 then ⟨[.define widget], false⟩ else ⟨[.putSelf], false⟩)
    let m : Module := .top 0 "Shop" .plain
    let b : Body := ⟨0, ⟨0, .moduleBody, "Shop", "shop.rb", 1⟩, m, ⟨0, true⟩⟩
    let st : Store := { nextEngine := 1, nextBody := 1, registry := {
      handles := ⟨[("A", ⟨0, true⟩)]⟩, methods := ⟨[("Shop", .body b)]⟩ } }
    let run := b.invoke ((Env.interpreting source).reach 3) ⟨none, .object m, m, "Shop"⟩ .absent
      ⟨⟨{}, 1, [], []⟩, st, []⟩
    Lifetime (fun engine h => h.engine = engine) run.2.store [b] ∧
      (∀ f s', run = (some (.failed f), s') → f.cause ≠ .engineDropped) ∧
      run.2.store.cached = [⟨0, false⟩, ⟨0, false⟩] ∧ run.2.store.alive 0 = true ∧
      { run.2.store with registry := {} }.alive 0 = false := by
  intro widget source m b st
  have lived : Lifetime (fun engine h => h.engine = engine) st [b] := by
    have nothing : Lifetime (fun engine h => h.engine = engine) {} [] := .start
    have a := Lifetime.engine nothing "A"
    exact .method a (h := ⟨0, true⟩) (by decide) "Shop" b.scope m
  have handleless : Handleless source := fun _ _ _ => nofun
  obtain ⟨-, -, -, runs, -⟩ := owners_keep_engines lived
  obtain ⟨bodies, -⟩ := runs source 3 ⟨⟨{}, 1, [], []⟩, st, []⟩ handleless (fun _ => rfl) rfl
  obtain ⟨through, kept⟩ := bodies b ⟨none, .object m, m, "Shop"⟩ .absent (.inl List.mem_cons_self)
  refine ⟨through.goes, kept (fun _ _ => id) fun seq s₁ ready => ?_, by decide +kernel,
    by decide +kernel, by decide +kernel⟩
  let prepared := b.sequence ((Env.interpreting source).reach 3)
    (b.announced ⟨none, .object m, m, "Shop"⟩ ⟨⟨{}, 1, [], []⟩, st, []⟩)
  have own : prepared.1 =
      some (.ok ⟨0, "shop.rb", 1, false, [.define widget], ⟨0, true⟩⟩) := by decide +kernel
  have live : prepared.2.store.alive 0 = true := by decide +kernel
  have same : prepared = (some (.ok seq), s₁) := ready
  rw [same] at own live
  cases own
  exact live

end Lifetime

end BodyCall
