import BodyCall.Proofs.Requests

/-!
# Requests inside requests

A request that is made on behalf of a source comes in between the steps of the request that has
asked the source. So making a body ready, with all that its sources ask for, is a run of requests in
one particular order, also where it is cut off for want of depth.
-/

namespace BodyCall

namespace Requests

open Eval

variable {b : Body} {source : Scope → Nat → Store → Lowering}

/-- What lies between two states is a run of requests for a body, in which the requests that were
there before take no part. -/
def Interleaved (b : Body) : Passage := fun s _ s' =>
  ∀ calls, ∃ acts calls', Run b ⟨s.store, calls⟩ acts ⟨s'.store, calls'⟩ ∧ calls <+: calls'

theorem interleaved_telling (b : Body) : Telling (Interleaved b) where
  refl s _ calls := ⟨[], calls, .refl _, List.prefix_rfl⟩
  trans h h' calls := by
    obtain ⟨acts, calls₁, run, before⟩ := h calls
    obtain ⟨acts', calls₂, run', before'⟩ := h' calls₁
    exact ⟨acts ++ acts', calls₂, run.trans run', before.trans before'⟩
  told s e _ calls := ⟨[], calls, .refl _, List.prefix_rfl⟩

theorem interleaved_other {s s' : State} (ended : Bool)
    (cache : s'.store.sequence? b = s.store.sequence? b)
    (ids : s.store.nextSequence ≤ s'.store.nextSequence) : Interleaved b s ended s' :=
  fun calls => ⟨[.other], calls, .single (@Step.other b ⟨s.store, calls⟩ _ cache ids),
    List.prefix_rfl⟩

theorem lower_interleaved {ready : Body → Settings → Eval Sequence}
    (hr : ∀ b' settings, Keeps (Interleaved b) (ready b' settings)) (scope : Scope) :
    Keeps (Interleaved b) (lower source ready scope) := by
  have w := interleaved_telling b
  intro s
  rw [lower_run]
  have asked : Interleaved b s true (s.asked scope) := interleaved_other true rfl (Nat.le_refl _)
  have rest := Keeps.bind w.toChained
    (Keeps.reenterAll w hr (source scope (s.store.loweringCount scope) s.store).reentries)
    fun _ => Keeps.ofOutcome w.toChained
      (source scope (s.store.loweringCount scope) s.store).result.outcome
  exact w.trans asked (rest (s.asked scope))

theorem prefix_set {calls calls' : List Phase} {old : Phase} (h : calls ++ [old] <+: calls')
    (new : Phase) : calls'[calls.length]? = some old ∧
      calls ++ [new] <+: calls'.set calls.length new := by
  obtain ⟨rest, rfl⟩ := h
  constructor
  · simp
  · exact ⟨rest, by simp⟩

theorem last_phase {calls calls' : List Phase} {phase : Phase}
    (h : calls ++ [phase] <+: calls') : calls'[calls.length]? = some phase :=
  (prefix_set h phase).1

theorem failed_ne_ok (f : Failure) (seq : Sequence) : Outcome.failed f ≠ .ok seq := by
  intro same
  cases same

theorem panicked_ne_ok (t : String) (seq : Sequence) : Outcome.panicked t ≠ .ok seq := by
  intro same
  cases same

theorem install_same {b' : Body} (same : b'.id = b.id) (own : Sequence) (settings : Settings)
    (s : State) : ∃ winner s' s₁, Eval.install b' own settings s = (some (.ok winner), s') ∧
      Eval.install b own settings s = (some (.ok winner), s₁) ∧ s₁.store = s'.store := by
  have cache : s.store.sequence? b' = s.store.sequence? b := by
    rw [Store.sequence?, Store.sequence?, same]
  cases found : s.store.sequence? b with
  | some winner =>
    exact ⟨winner, _, _, install_found (cache.trans found), install_found found, rfl⟩
  | none =>
    obtain ⟨told, installed⟩ := @install_absent b' own settings s (cache.trans found)
    obtain ⟨told', installed'⟩ := @install_absent b own settings s found
    refine ⟨own, _, _, installed, installed', ?_⟩
    rw [Store.install, Store.install, same]

/-- A request for the body ends in a run of requests, as the first new one of them. -/
theorem request_run {b' : Body} (same : b'.id = b.id) {depth : Nat}
    (inner : ∀ b' settings, Keeps (Interleaved b) (readyAt source depth b' settings))
    (settings : Settings) (s : State) (calls : List Phase) :
    ∃ acts calls', Run b ⟨s.store, calls⟩ acts
        ⟨(readyAt source (depth + 1) b' settings s).2.store, calls'⟩ ∧
      ∃ phase, calls ++ [phase] <+: calls' ∧
        ∀ o, (readyAt source (depth + 1) b' settings s).1 = some o → phase = .ended o := by
  have cache : s.store.sequence? b' = s.store.sequence? b := by
    rw [Store.sequence?, Store.sequence?, same]
  have checked := Run.single (Step.checked (b := b) ⟨s.store, calls⟩)
  cases found : s.store.sequence? b with
  | some seq =>
    rw [found] at checked
    rw [readyAt_found (cache.trans found)]
    refine ⟨_, _, checked, .ended (.ok seq), List.prefix_rfl, fun o h => ?_⟩
    cases h
    rfl
  | none =>
    rw [found] at checked
    rw [readyAt_absent (cache.trans found)]
    rcases lowering : lower source (readyAt source depth) b'.scope s with ⟨o, s₁⟩
    obtain ⟨acts, calls₁, run, before⟩ :=
      lower_interleaved inner b'.scope s (calls ++ [.lowering])
    rw [lowering] at run
    have busy := last_phase before
    have lowered := checked.trans run
    have stop : ∀ o : Outcome Sequence, (∀ seq, o ≠ .ok seq) →
        prepare source (readyAt source depth) b'.scope b'.handle s = (some o, s₁) →
        (prepare source (readyAt source depth) b'.scope b'.handle >>= fun seq =>
          install b' seq settings) s = (some o, s₁) := by
      intro o stopped prepared
      cases o with
      | ok seq => exact absurd rfl (stopped seq)
      | failed f => exact bind_of_failed prepared
      | panicked t => exact bind_of_panicked prepared
    have stopped_run : ∀ o : Outcome Sequence, (∀ seq, o ≠ .ok seq) →
        ∃ acts calls', Run b ⟨s.store, calls⟩ acts ⟨s₁.store, calls'⟩ ∧
          ∃ phase, calls ++ [phase] <+: calls' ∧ ∀ o', some o = some o' → phase = .ended o' := by
      intro o stopped
      refine ⟨_, _, lowered.tail (.stopped busy stopped), .ended o, (prefix_set before _).2, ?_⟩
      intro o' same
      rw [Option.some.inj same]
    rcases o with _ | answer | f | t
    · have cut : prepare source (readyAt source depth) b'.scope b'.handle s = (none, s₁) :=
        bind_of_none lowering
      rw [bind_of_none cut]
      refine ⟨_, _, lowered, .lowering, before, fun o h => ?_⟩
      cases h
    · cases answer with
      | error reason =>
        rw [stop _ (failed_ne_ok _) (prepare_refused lowering)]
        exact stopped_run _ (failed_ne_ok _)
      | ok l =>
        let own := preparedFrom s₁.store b'.scope b'.handle l
        let s₂ : State :=
          { s₁ with store := { s₁.store with nextSequence := s₁.store.nextSequence + 1 } }
        obtain ⟨winner, s₃, s₄, installed, installed', store⟩ := install_same same own settings s₂
        rw [bind_of_ok (prepare_answered lowering), installed, ← store]
        have prepared := lowered.tail (@Step.lowered b ⟨s₁.store, calls₁⟩ _ own busy rfl)
        have waiting := (prefix_set before (.prepared own)).2
        have settled := prepared.tail (.settled (last_phase waiting) rfl installed')
        refine ⟨_, _, settled, .ended (.ok winner), (prefix_set waiting _).2, fun o h => ?_⟩
        cases h
        rfl
    · rw [stop _ (failed_ne_ok f) (bind_of_failed lowering)]
      exact stopped_run _ (failed_ne_ok f)
    · rw [stop _ (panicked_ne_ok t) (bind_of_panicked lowering)]
      exact stopped_run _ (panicked_ne_ok t)

theorem readyAt_interleaved (b : Body) (source : Scope → Nat → Store → Lowering) (depth : Nat)
    (b' : Body) (settings : Settings) :
    Keeps (Interleaved b) (readyAt source depth b' settings) := by
  have w := interleaved_telling b
  induction depth generalizing b' settings with
  | zero => exact .exhausted w.toChained
  | succ depth inner =>
    by_cases same : b'.id = b.id
    · intro s calls
      obtain ⟨acts, calls', run, phase, before, -⟩ := request_run same inner settings s calls
      exact ⟨acts, calls', run, (List.prefix_append calls [phase]).trans before⟩
    · refine .bind w.toChained (.read w.toChained _) fun st => ?_
      cases st.sequence? b' with
      | some seq => exact .pure w.toChained seq
      | none =>
        refine .bind w.toChained (.bind w.toChained (lower_interleaved inner _) ?_) fun seq s => ?_
        · intro answer
          cases answer with
          | error reason => exact .ofOutcome w.toChained _
          | ok l =>
            refine .bind w.toChained (fun s => ?_) fun _ => .pure w.toChained _
            exact interleaved_other true rfl (Nat.le_succ _)
        · -- what is installed for another body is not in the cache of this one
          cases found : s.store.sequence? b' with
          | some winner =>
            rw [install_found found]
            exact interleaved_other true rfl (Nat.le_refl _)
          | none =>
            obtain ⟨told, installed⟩ := @install_absent b' seq settings s found
            rw [installed]
            refine interleaved_other true ?_ (Nat.le_refl _)
            rw [Store.sequence?_install, if_neg same]

/-- Of any number of requests for one body, with their steps in any order, at most one installs
anything; the body is ready from then on, always with that sequence, and every request that ends
well gets it. Each request has done one of a few things: it has found the sequence and lowered
nothing, its lowering has stopped it, or it has prepared a sequence and then got the one that was
installed. A request that looks or installs too late gets the sequence of another. Making the body
ready is such a run, with the requests of its sources inside it. -/
theorem requests_share_sequence {b : Body} {st : Store} (empty : st.sequence? b = none)
    {acts : List Act} {σ : System} (run : Run b ⟨st, []⟩ acts σ) :
    (acts.filter Act.installs).length ≤ 1 ∧
    (∀ seq, σ.store.sequence? b = some seq ↔ ∃ n, .settled n seq seq ∈ acts) ∧
    (∀ (n : Nat) (seq : Sequence), σ.calls[n]? = some (.ended (.ok seq)) →
      σ.store.sequence? b = some seq) ∧
    (∀ (n : Nat) (phase : Phase), σ.calls[n]? = some phase →
      Story n phase (acts.filter (Act.isOf n))) ∧
    (∀ seq later σ', σ.store.sequence? b = some seq → Run b σ later σ' →
      σ'.store.sequence? b = some seq ∧
      (∀ n found, .checked n found ∈ later → found = some seq) ∧
      ∀ n own winner, .settled n own winner ∈ later → winner = seq ∧ own.id ≠ seq.id) ∧
    ∀ (source : Scope → Nat → Store → Lowering) (depth : Nat) (settings : Settings) (s : State)
      (o : Outcome Sequence) (s' : State), s.store = σ.store →
      readyAt source depth b settings s = (some o, s') →
      ∃ acts' calls', Run b ⟨st, []⟩ (acts ++ acts') ⟨s'.store, calls'⟩ ∧
        calls'[σ.calls.length]? = some (.ended o) := by
  have lawful := run.lawful empty
  have filled : ∀ seq, σ.store.sequence? b = some seq ↔ ∃ n, .settled n seq seq ∈ acts := by
    intro seq
    constructor
    · intro found
      obtain ⟨n, only⟩ := lawful.filled seq found
      have here : .settled n seq seq ∈ acts.filter Act.installs := by rw [only]; simp
      exact ⟨n, (List.mem_filter.mp here).1⟩
    · rintro ⟨n, here⟩
      have here : .settled n seq seq ∈ acts.filter Act.installs :=
        List.mem_filter.mpr ⟨here, Act.installs_iff.mpr ⟨n, seq, rfl⟩⟩
      cases found : σ.store.sequence? b with
      | none =>
        rw [lawful.empty found] at here
        cases here
      | some winner =>
        obtain ⟨m, only⟩ := lawful.filled winner found
        rw [only, List.mem_singleton] at here
        cases here
        rfl
  refine ⟨?_, filled, lawful.agreed, lawful.story, fun seq later σ' => run.late empty, ?_⟩
  · cases found : σ.store.sequence? b with
    | none => simp [lawful.empty found]
    | some seq =>
      obtain ⟨n, only⟩ := lawful.filled seq found
      simp [only]
  · intro source depth settings s o s' here ended
    cases depth with
    | zero => cases ended
    | succ depth =>
      obtain ⟨acts', calls', more, phase, before, ends⟩ :=
        request_run rfl (readyAt_interleaved b source depth) settings s σ.calls
      rw [ended] at more ends
      rw [here] at more
      refine ⟨acts', calls', run.trans more, ?_⟩
      rw [← ends o rfl]
      exact last_phase before

theorem racing_requests_share_sequence :
    let b : Body := ⟨0, ⟨0, .classBody, "Widget", "widget.rb", 1⟩, .top 0 "Widget" .classLike,
      ⟨0, true⟩⟩
    let own (id : Nat) : Sequence := ⟨id, "widget.rb", 1, false, [], ⟨0, true⟩⟩
    ∃ σ, Run b ⟨{}, []⟩
        [.checked 0 none, .checked 1 none, .lowered 0 (.ok (own 0)), .lowered 1 (.ok (own 1)),
          .settled 1 (own 1) (own 1), .settled 0 (own 0) (own 1)] σ ∧
      σ.store.sequence? b = some (own 1) := by
  intro b own
  have first : Run b ⟨{}, []⟩ [.checked 0 none] ⟨{}, [.lowering]⟩ := .single (.checked _)
  have second : Run b ⟨{}, []⟩ [.checked 0 none, .checked 1 none] ⟨{}, [.lowering, .lowering]⟩ :=
    first.tail (.checked _)
  have third := second.tail (@Step.lowered b _ 0 (own 0) rfl rfl)
  have fourth := third.tail (@Step.lowered b _ 1 (own 1) rfl rfl)
  let s : State := ⟨⟨{}, 0, [], []⟩, { nextSequence := 2 }, []⟩
  have installed := fourth.tail (@Step.settled b _ 1 (own 1) (own 1) {} s _ rfl rfl rfl)
  let s' : State := ⟨⟨{}, 0, [], []⟩, s.store.install b (own 1), []⟩
  have settled := installed.tail (@Step.settled b _ 0 (own 0) (own 1) {} s' _ rfl rfl rfl)
  have cached := (requests_share_sequence rfl settled).2.1 (own 1)
  exact ⟨_, settled, cached.mpr ⟨1, by simp⟩⟩

end Requests

end BodyCall
