import BodyCall.Proofs.Keeps

/-!
# Behind the back of the context

Bodies are made ready, and found or made for a scope, behind the back of the context: what such a
computation comes to, what it makes of the store and what it tells depend on the store alone, and
neither stack moves. Two runs of it from one store go the same way, whatever else their states hold.
-/

namespace BodyCall

namespace Eval

variable {α β : Type} {x : Eval α} {k : α → Eval β}

/-- How a computation goes from a store: its end, the store that it leaves, and what it tells, newest
first. -/
abbrev StoreAct (α : Type) := Store → Option (Outcome α) × Store × List Event

/-- The run of an act from a state. -/
def StoreAct.run (act : StoreAct α) (s : State) : Option (Outcome α) × State :=
  let (o, st, told) := act s.store
  (o, { s with store := st, trace := told ++ s.trace })

def Backstage (x : Eval α) : Prop :=
  ∃ act : StoreAct α, x = act.run ∧ ∀ st, ∀ e ∈ (act st).2.2, e.isMotion = false

namespace Backstage

theorem ofOutcome (o : Outcome α) : Backstage (ofOutcome o) :=
  ⟨fun st => (some o, st, []), rfl, fun _ _ h => nomatch h⟩

theorem pure (a : α) : Backstage (Pure.pure a : Eval α) := ofOutcome (.ok a)

theorem exhausted : Backstage (exhausted : Eval α) :=
  ⟨fun st => (none, st, []), rfl, fun _ _ h => nomatch h⟩

theorem store : Backstage store := ⟨fun st => (some (.ok st), st, []), rfl, fun _ _ h => nomatch h⟩

theorem updateStore (g : Store → Store) : Backstage (updateStore g) :=
  ⟨fun st => (some (.ok ()), g st, []), rfl, fun _ _ h => nomatch h⟩

theorem freshModule : Backstage freshModule :=
  ⟨fun st => (some (.ok st.nextModule), { st with nextModule := st.nextModule + 1 }, []), rfl,
    fun _ _ h => nomatch h⟩

theorem freshBody : Backstage freshBody :=
  ⟨fun st => (some (.ok st.nextBody), { st with nextBody := st.nextBody + 1 }, []), rfl,
    fun _ _ h => nomatch h⟩

theorem freshSequence : Backstage freshSequence :=
  ⟨fun st => (some (.ok st.nextSequence), { st with nextSequence := st.nextSequence + 1 }, []), rfl,
    fun _ _ h => nomatch h⟩

theorem emit {e : Event} (h : e.isMotion = false) : Backstage (emit e) := by
  refine ⟨fun st => (some (.ok ()), st, [e]), rfl, fun st e' among => ?_⟩
  rw [List.mem_singleton.mp among]
  exact h

theorem log (r : LogRecord) : Backstage (log r) := emit rfl

theorem bind (hx : Backstage x) (hk : ∀ a, Backstage (k a)) : Backstage (x >>= k) := by
  obtain ⟨first, rfl, quiet⟩ := hx
  obtain ⟨next, hnext⟩ := Classical.skolem.mp hk
  let act : StoreAct β := fun st =>
    match first st with
    | (none, st', told) => (none, st', told)
    | (some (.ok a), st', told) =>
      let (o, st'', later) := next a st'
      (o, st'', later ++ told)
    | (some (.failed f), st', told) => (some (.failed f), st', told)
    | (some (.panicked t), st', told) => (some (.panicked t), st', told)
  refine ⟨act, funext fun s => ?_, fun st e among => ?_⟩
  · change andThen first.run k s = act.run s
    unfold andThen
    simp only [StoreAct.run, act]
    rcases first s.store with ⟨_ | a | f | t, st', told⟩
    · rfl
    · simp only [(hnext a).1, StoreAct.run, List.append_assoc]
    · rfl
    · rfl
  · have told := quiet st
    simp only [act] at among
    rcases run : first st with ⟨_ | a | f | t, st', events⟩ <;> rw [run] at told among
    · exact told e among
    · rcases List.mem_append.mp among with later | earlier
      · exact (hnext a).2 st' e later
      · exact told e earlier
    · exact told e among
    · exact told e among

theorem attempt (hx : Backstage x) : Backstage (attempt x) := by
  obtain ⟨act, rfl, quiet⟩ := hx
  exact ⟨fun st => ((act st).1.map .ok, (act st).2), rfl, quiet⟩

theorem ite {p : Prop} [Decidable p] {x y : Eval α} (hx : Backstage x) (hy : Backstage y) :
    Backstage (if p then x else y) := by
  split
  · exact hx
  · exact hy

theorem logAll (records : List LogRecord) : Backstage (logAll records) := by
  induction records with
  | nil => exact pure ()
  | cons r rest ih => exact bind (log r) fun _ => ih

/-! ## Making ready -/

variable {source : Scope → Nat → Store → Lowering} {ready : Body → Settings → Eval Sequence}

theorem reenterAll (hr : ∀ b settings, Backstage (ready b settings))
    (reentries : List (Body × Setup)) : Backstage (reenterAll ready reentries) := by
  induction reentries with
  | nil => exact pure ()
  | cons r rest ih =>
    obtain ⟨b, setup⟩ := r
    refine bind (bind (logAll _) fun _ => bind (hr b _).attempt fun o => ?_) fun _ => ih
    cases o with
    | ok seq => exact emit rfl
    | failed f => exact emit rfl
    | panicked t => exact ofOutcome _

theorem lower (hr : ∀ b settings, Backstage (ready b settings)) (scope : Scope) :
    Backstage (lower source ready scope) := by
  refine bind store fun before => bind (updateStore _) fun _ => bind (emit rfl) fun _ => ?_
  exact bind (reenterAll hr _) fun _ => ofOutcome _

theorem prepare (hr : ∀ b settings, Backstage (ready b settings)) (scope : Scope)
    (handle : Handle) : Backstage (prepare source ready scope handle) := by
  refine bind (lower hr scope) fun answer => ?_
  cases answer with
  | error reason => exact ofOutcome _
  | ok l => exact bind freshSequence fun _ => pure _

theorem install (b : Body) (seq : Sequence) (settings : Settings) :
    Backstage (install b seq settings) := by
  refine bind store fun st => ?_
  cases st.sequence? b with
  | some winner => exact bind (log _) fun _ => pure winner
  | none =>
    refine bind (updateStore _) fun _ => bind (log _) fun _ => ite ?_ (pure seq)
    exact bind (log _) fun _ => pure seq

theorem readyAt (source : Scope → Nat → Store → Lowering) (depth : Nat) (b : Body)
    (settings : Settings) : Backstage (readyAt source depth b settings) := by
  induction depth generalizing b settings with
  | zero => exact exhausted
  | succ depth ih =>
    refine bind store fun st => ?_
    cases st.sequence? b with
    | some seq => exact pure seq
    | none => exact bind (prepare ih _ _) fun seq => install b seq settings

/-- From another state with the same store the computation goes the same way. -/
theorem elsewhere (hx : Backstage x) {s s' t : State} {o : Option (Outcome α)}
    (run : x s = (o, s')) (store : t.store = s.store) :
    ∃ t', x t = (o, t') ∧ t'.store = s'.store := by
  obtain ⟨act, rfl, -⟩ := hx
  unfold StoreAct.run at run ⊢
  rw [store]
  cases run
  exact ⟨_, rfl, rfl⟩

end Backstage

/-- Of the settings, making ready only sees what to tell of. -/
theorem readyAt_settings (source : Scope → Nat → Store → Lowering) (depth : Nat) (b : Body)
    (settings settings' : Settings) (same : settings.debug = settings'.debug) :
    readyAt source depth b settings = readyAt source depth b settings' := by
  have installed : ∀ seq, install b seq settings = install b seq settings' := by
    intro seq
    unfold install
    rw [same]
  cases depth with
  | zero => rfl
  | succ depth => simp only [readyAt, installed]

end Eval

theorem Interpreter.bodyFor_backstage (engine : Nat) (scope : Scope) (parent : Option Module)
    (handle : Handle) : Eval.Backstage (bodyFor engine scope parent handle) := by
  refine .bind .store fun st => ?_
  cases st.definition? engine scope with
  | some b => exact .pure b
  | none =>
    refine .bind .freshModule fun id => .bind (.log _) fun _ => .bind .freshBody fun id' => ?_
    exact .bind (.updateStore _) fun _ => .pure _

end BodyCall
