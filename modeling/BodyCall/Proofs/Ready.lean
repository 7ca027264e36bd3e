import BodyCall.Proofs.Before

/-!
# Making a body ready

How each step of making a body ready ends. None of them touches the context, a source that was asked
either answers or panics, and an installation always ends with the sequence that is installed then.
-/

namespace BodyCall

namespace State

def asked (s : State) (scope : Scope) : State :=
  { s with
    store := s.store.noteLowering scope
    trace := .lowering scope (s.store.loweringCount scope) :: s.trace }

theorem before_asked (s : State) (scope : Scope) : s.Before (s.asked scope) := by
  have step : s.store.Step (s.store.noteLowering scope) := .lowering s.store scope
  exact ⟨step.before, rfl, List.suffix_cons _ s.trace⟩

theorem since_asked (s : State) (scope : Scope) :
    (s.asked scope).since s = [.lowering scope (s.store.loweringCount scope)] :=
  since_of_append rfl

theorem context_aside : Aside fun s _ s' => s'.context = s.context where
  refl _ _ := rfl
  trans h h' := h'.trans h
  told _ _ _ := rfl
  stored _ _ _ := rfl

end State

/-- The scopes whose sources are asked, newest first. -/
def askedScopes (events : List Event) : List Scope :=
  events.filterMap fun
    | .lowering scope _ => some scope
    | _ => none

theorem askedScopes_append (later earlier : List Event) :
    askedScopes (later ++ earlier) = askedScopes later ++ askedScopes earlier :=
  List.filterMap_append

namespace Eval

variable {source : Scope → Nat → Store → Lowering} {ready : Body → Settings → Eval Sequence}
  {b : Body} {seq : Sequence} {settings : Settings} {scope : Scope} {handle : Handle}
  {s s' : State}

theorem install_found {winner : Sequence} (found : s.store.sequence? b = some winner) :
    install b seq settings s =
      (some (.ok winner), { s with trace := .logged (.lostRace b.scope) :: s.trace }) := by
  rw [install, store_bind, found]
  rfl

theorem install_absent (absent : s.store.sequence? b = none) :
    ∃ told : List LogRecord, install b seq settings s =
      (some (.ok seq),
        { s with store := s.store.install b seq, trace := told.map .logged ++ s.trace }) := by
  rw [install, store_bind, absent]
  cases listed : settings.debug.ir with
  | false =>
    refine ⟨[.materialized b.scope seq], ?_⟩
    simp [updateStore, log, emit]
  | true =>
    refine ⟨[.listed b.scope seq, .materialized b.scope seq], ?_⟩
    simp [updateStore, log, emit]

/-- An installation ends, and what it ends with is installed then. -/
theorem install_run (b : Body) (seq : Sequence) (settings : Settings) (s : State) :
    ∃ seq' s', install b seq settings s = (some (.ok seq'), s') ∧
      s'.store.sequence? b = some seq' := by
  cases found : s.store.sequence? b with
  | some winner => exact ⟨winner, _, install_found found, found⟩
  | none =>
    obtain ⟨told, installed⟩ := @install_absent b seq settings s found
    refine ⟨seq, _, installed, ?_⟩
    rw [Store.sequence?_install, if_pos rfl]

theorem lower_run (source : Scope → Nat → Store → Lowering)
    (ready : Body → Settings → Eval Sequence) (scope : Scope) (s : State) :
    lower source ready scope s =
      (reenterAll ready (source scope (s.store.loweringCount scope) s.store).reentries >>= fun _ =>
        ofOutcome (source scope (s.store.loweringCount scope) s.store).result.outcome)
        (s.asked scope) := rfl

/-- No run of the computation fails. -/
def Unfailing {α : Type} (x : Eval α) : Prop := ∀ s f s', x s ≠ (some (.failed f), s')

theorem Unfailing.bind {α β : Type} {x : Eval α} {k : α → Eval β} (hx : Unfailing x)
    (hk : ∀ a, Unfailing (k a)) : Unfailing (x >>= k) := by
  intro s f s' h
  rcases bind_failed h with first | ⟨a, s₁, -, h⟩
  · exact hx s f s' first
  · exact hk a s₁ f s' h

theorem logAll_unfailing (records : List LogRecord) : Unfailing (logAll records) := by
  induction records with
  | nil => exact fun _ _ _ => nofun
  | cons r rest ih => exact .bind (fun _ _ _ => nofun) fun _ => ih

theorem reenter_unfailing (b : Body) (setup : Setup) : Unfailing (reenter ready b setup) := by
  refine .bind (logAll_unfailing _) fun _ => .bind (fun s f s' h => ?_) fun o => ?_
  · rcases run : ready b setup.read.settings s with ⟨_ | o, s₁⟩
    · rw [attempt_of_none run] at h; cases h
    · rw [attempt_of_ended run] at h; cases h
  · cases o with
    | ok seq => exact fun _ _ _ => nofun
    | failed f => exact fun _ _ _ => nofun
    | panicked t => exact fun _ _ _ => nofun

theorem reenterAll_unfailing (reentries : List (Body × Setup)) :
    Unfailing (reenterAll ready reentries) := by
  induction reentries with
  | nil => exact fun _ _ _ => nofun
  | cons r rest ih => exact .bind (reenter_unfailing r.1 r.2) fun _ => ih

theorem lower_unfailing (scope : Scope) : Unfailing (lower source ready scope) := by
  intro s f s' h
  rw [lower_run] at h
  rcases bind_failed h with first | ⟨_, s₁, -, h⟩
  · exact reenterAll_unfailing _ _ _ _ first
  · revert h
    cases (source scope (s.store.loweringCount scope) s.store).result <;> nofun

theorem prepare_refused {reason : String}
    (h : lower source ready scope s = (some (.ok (.error reason)), s')) :
    prepare source ready scope handle s =
      (some (.failed ⟨.materialization scope.text reason, none⟩), s') := bind_of_ok h

/-- The sequence that is prepared from an answer, with the identity that is next. -/
def preparedFrom (st : Store) (scope : Scope) (handle : Handle) (l : Lowered) : Sequence :=
  ⟨st.nextSequence, scope.file, scope.line, l.explicit, l.instrs, handle⟩

theorem prepare_answered {l : Lowered}
    (h : lower source ready scope s = (some (.ok (.ok l)), s')) :
    prepare source ready scope handle s =
      (some (.ok (preparedFrom s'.store scope handle l)),
        { s' with store := { s'.store with nextSequence := s'.store.nextSequence + 1 } }) :=
  bind_of_ok h

theorem prepare_failed_iff {f : Failure} :
    prepare source ready scope handle s = (some (.failed f), s') ↔
      ∃ reason, lower source ready scope s = (some (.ok (.error reason)), s') ∧
        f = ⟨.materialization scope.text reason, none⟩ := by
  constructor
  · intro h
    rcases bind_failed h with lowering | ⟨answer, s₁, lowering, h⟩
    · exact absurd lowering (lower_unfailing scope s f s')
    · cases answer with
      | error reason =>
        cases h
        exact ⟨reason, lowering, rfl⟩
      | ok l => cases h
  · rintro ⟨reason, lowering, rfl⟩
    exact prepare_refused lowering

theorem readyAt_found {depth : Nat} (found : s.store.sequence? b = some seq) :
    readyAt source (depth + 1) b settings s = (some (.ok seq), s) := by
  rw [readyAt, store_bind, found]
  rfl

theorem readyAt_absent {depth : Nat} (absent : s.store.sequence? b = none) :
    readyAt source (depth + 1) b settings s =
      (prepare source (readyAt source depth) b.scope b.handle >>= fun seq =>
        install b seq settings) s := by
  rw [readyAt, store_bind, absent]

/-- A body that has been made ready has its sequence installed. -/
theorem readyAt_run {depth : Nat} (h : readyAt source depth b settings s = (some (.ok seq), s')) :
    s'.store.sequence? b = some seq := by
  cases depth with
  | zero => cases h
  | succ depth =>
    cases found : s.store.sequence? b with
    | some winner =>
      rw [readyAt_found found] at h
      cases h
      exact found
    | none =>
      rw [readyAt_absent found] at h
      obtain ⟨own, s₁, -, h⟩ := bind_ok h
      obtain ⟨seq', s₂, installed, there⟩ := install_run b own settings s₁
      rw [installed] at h
      cases h
      exact there

end Eval

theorem Body.sequence_run {source : Scope → Nat → Store → Lowering} {depth : Nat} (b : Body)
    (s : State) : b.sequence ((Env.interpreting source).reach depth) s =
      Eval.readyAt source depth b s.context.settings s := rfl

/-- Whether a body is ready is found out, and changed, behind the back of the context. -/
theorem Body.sequence_context {source : Scope → Nat → Store → Lowering} {depth : Nat} {b : Body}
    {o : Outcome Sequence} {s s' : State}
    (h : b.sequence ((Env.interpreting source).reach depth) s = (some o, s')) :
    s'.context = s.context :=
  (Eval.Keeps.readyAt State.context_aside.preparing depth b s.context.settings).of_ended h

end BodyCall
