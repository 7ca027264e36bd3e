import BodyCall.Proofs.Ready

/-!
# Many requests for one body

Requests for one body can come in between one another, from other threads or from inside its own
lowering. Each makes up to three steps: it looks whether a sequence is installed, its lowering ends,
and it installs what it has prepared or gets what is installed by then. Whatever the order of the
steps, the first sequence to be installed stays, and every request that ends well gets that one.
-/

namespace BodyCall

namespace Requests

inductive Phase where
  | lowering
  | prepared (own : Sequence)
  | ended (o : Outcome Sequence)

def Phase.ofCheck : Option Sequence → Phase
  | some seq => ended (.ok seq)
  | none => lowering

/-- A store and the requests that have looked at the cache so far, in that order. -/
structure System where
  store : Store
  calls : List Phase := []

inductive Act where
  | checked (call : Nat) (found : Option Sequence)
  | lowered (call : Nat) (o : Outcome Sequence)
  /-- A request has prepared `own` and gets `winner`. -/
  | settled (call : Nat) (own winner : Sequence)
  | other
  deriving DecidableEq

namespace Act

def isOf (n : Nat) : Act → Bool
  | checked m _ | lowered m _ | settled m _ _ => m == n
  | other => false

/-- A request that gets its own sequence has installed it. -/
def installs : Act → Bool
  | settled _ own winner => own == winner
  | _ => false

end Act

/-- The steps of requests for one body. A lowering ends in any way; what it has prepared is a new
object. -/
inductive Step (b : Body) : System → Act → System → Prop where
  | checked (σ : System) :
      Step b σ (.checked σ.calls.length (σ.store.sequence? b))
        ⟨σ.store, σ.calls ++ [.ofCheck (σ.store.sequence? b)]⟩
  | lowered {σ : System} {n : Nat} {own : Sequence} (busy : σ.calls[n]? = some .lowering)
      (new : own.id = σ.store.nextSequence) :
      Step b σ (.lowered n (.ok own))
        ⟨{ σ.store with nextSequence := σ.store.nextSequence + 1 }, σ.calls.set n (.prepared own)⟩
  | stopped {σ : System} {n : Nat} {o : Outcome Sequence} (busy : σ.calls[n]? = some .lowering)
      (stopped : ∀ seq, o ≠ .ok seq) :
      Step b σ (.lowered n o) ⟨σ.store, σ.calls.set n (.ended o)⟩
  | settled {σ : System} {n : Nat} {own winner : Sequence} {settings : Settings} {s s' : State}
      (waiting : σ.calls[n]? = some (.prepared own)) (here : s.store = σ.store)
      (run : Eval.install b own settings s = (some (.ok winner), s')) :
      Step b σ (.settled n own winner) ⟨s'.store, σ.calls.set n (.ended (.ok winner))⟩
  | other {σ : System} {st : Store} (cache : st.sequence? b = σ.store.sequence? b)
      (ids : σ.store.nextSequence ≤ st.nextSequence) : Step b σ .other ⟨st, σ.calls⟩

inductive Run (b : Body) : System → List Act → System → Prop where
  | refl (σ : System) : Run b σ [] σ
  | tail {σ σ₁ σ₂ : System} {acts : List Act} {a : Act} (run : Run b σ acts σ₁)
      (step : Step b σ₁ a σ₂) : Run b σ (acts ++ [a]) σ₂

/-- All that a request has done on its way to a phase. -/
inductive Story (n : Nat) : Phase → List Act → Prop where
  | lowering : Story n .lowering [.checked n none]
  | prepared (own : Sequence) : Story n (.prepared own) [.checked n none, .lowered n (.ok own)]
  | hit (seq : Sequence) : Story n (.ended (.ok seq)) [.checked n (some seq)]
  | stopped {o : Outcome Sequence} (stopped : ∀ seq, o ≠ .ok seq) :
      Story n (.ended o) [.checked n none, .lowered n o]
  | settled (own winner : Sequence) :
      Story n (.ended (.ok winner))
        [.checked n none, .lowered n (.ok own), .settled n own winner]

variable {b : Body} {σ σ₁ σ₂ σ' : System} {acts acts' : List Act} {a : Act}

theorem Run.trans (h : Run b σ acts σ₁) (h' : Run b σ₁ acts' σ') : Run b σ (acts ++ acts') σ' := by
  induction h' with
  | refl => rw [List.append_nil]; exact h
  | tail run step ih =>
    rw [← List.append_assoc]
    exact .tail ih step

theorem Run.single (step : Step b σ a σ') : Run b σ [a] σ' := .tail (.refl σ) step

/-! ## The steps -/

theorem install_cases {own winner : Sequence} {settings : Settings} {s s' : State}
    (run : Eval.install b own settings s = (some (.ok winner), s')) :
    (s.store.sequence? b = some winner ∧ s'.store = s.store) ∨
    (s.store.sequence? b = none ∧ winner = own ∧ s'.store = s.store.install b own) := by
  cases found : s.store.sequence? b with
  | some seq =>
    rw [Eval.install_found found] at run
    cases run
    exact .inl ⟨rfl, rfl⟩
  | none =>
    obtain ⟨told, installed⟩ := @Eval.install_absent b own settings s found
    rw [installed] at run
    cases run
    exact .inr ⟨rfl, rfl, rfl⟩

/-- A step leaves the cache alone, unless it fills the empty cache with what the request that makes
the step has prepared. -/
theorem Step.cache (step : Step b σ a σ') :
    (σ'.store.sequence? b = σ.store.sequence? b ∧
      (a.installs = true → σ.store.sequence? b ≠ none)) ∨
    ∃ n own, a = .settled n own own ∧ σ.store.sequence? b = none ∧
      σ'.store.sequence? b = some own := by
  cases step with
  | checked => exact .inl ⟨rfl, nofun⟩
  | lowered => exact .inl ⟨rfl, nofun⟩
  | stopped => exact .inl ⟨rfl, nofun⟩
  | other cache => exact .inl ⟨cache, nofun⟩
  | @settled n own winner settings s s' waiting here run =>
    rcases install_cases run with ⟨found, store⟩ | ⟨absent, rfl, store⟩
    · rw [here] at found store
      refine .inl ⟨congrArg (·.sequence? b) store, fun _ => ?_⟩
      rw [found]
      exact Option.some_ne_none winner
    · rw [here] at absent store
      refine .inr ⟨n, winner, rfl, absent, ?_⟩
      rw [store, Store.sequence?_install, if_pos rfl]

theorem set_phase {calls : List Phase} {n : Nat} {old : Phase} (busy : calls[n]? = some old)
    (x : Phase) (m : Nat) : (calls.set n x)[m]? = if n = m then some x else calls[m]? := by
  have len : n < calls.length := (List.getElem?_eq_some_iff.mp busy).1
  rw [List.getElem?_set]
  simp [len]

theorem append_phase (calls : List Phase) (x : Phase) (m : Nat) :
    (calls ++ [x])[m]? = if calls.length = m then some x else calls[m]? := by
  by_cases h : calls.length = m
  · subst h
    simp
  · by_cases len : m < calls.length
    · rw [List.getElem?_append_left len, if_neg h]
    · rw [if_neg h, List.getElem?_eq_none (by simp; omega), List.getElem?_eq_none (by omega)]

/-! ## What each request does -/

/-- Every request has done what its phase tells. -/
structure Storied (acts : List Act) (σ : System) : Prop where
  story : ∀ (n : Nat) (phase : Phase), σ.calls[n]? = some phase →
    Story n phase (acts.filter (Act.isOf n))
  silent : ∀ n, σ.calls.length ≤ n → acts.filter (Act.isOf n) = []

theorem filter_snoc (p : Act → Bool) (acts : List Act) (a : Act) :
    (acts ++ [a]).filter p = acts.filter p ++ if p a then [a] else [] := by
  rw [List.filter_append]
  cases h : p a <;> simp [h]

-- The three steps of a request after its check all go from one phase to another.
theorem Storied.step_of {n : Nat} {old new : Phase} {st : Store} (h : Storied acts σ)
    (was : σ.calls[n]? = some old) (mine : ∀ m, a.isOf m = (n == m))
    (grow : ∀ told, Story n old told → Story n new (told ++ [a])) :
    Storied (acts ++ [a]) ⟨st, σ.calls.set n new⟩ := by
  have len : n < σ.calls.length := (List.getElem?_eq_some_iff.mp was).1
  constructor
  · intro m phase at_m
    rw [set_phase was] at at_m
    rw [filter_snoc, mine]
    by_cases same : n = m
    · subst same
      rw [if_pos rfl] at at_m
      cases at_m
      simpa using grow _ (h.story n old was)
    · rw [if_neg same] at at_m
      simpa [same] using h.story m phase at_m
  · intro m beyond
    rw [List.length_set] at beyond
    have other : n ≠ m := by omega
    rw [filter_snoc, mine, h.silent m beyond]
    simp [other]

theorem Storied.step (h : Storied acts σ) (step : Step b σ a σ') : Storied (acts ++ [a]) σ' := by
  cases step with
  | checked =>
    constructor
    · intro m phase at_m
      rw [append_phase] at at_m
      rw [filter_snoc]
      by_cases new : σ.calls.length = m
      · subst new
        rw [if_pos rfl] at at_m
        rw [h.silent _ (Nat.le_refl _)]
        cases found : σ.store.sequence? b with
        | none =>
          rw [found] at at_m
          cases at_m
          simpa [Act.isOf, Phase.ofCheck] using Story.lowering
        | some seq =>
          rw [found] at at_m
          cases at_m
          simpa [Act.isOf, Phase.ofCheck] using Story.hit seq
      · rw [if_neg new] at at_m
        simpa [Act.isOf, new] using h.story m phase at_m
    · intro m beyond
      rw [List.length_append, List.length_singleton] at beyond
      have other : σ.calls.length ≠ m := by omega
      rw [filter_snoc, h.silent m (by omega)]
      simp [Act.isOf, other]
  | other =>
    constructor
    · intro m phase at_m
      simpa [filter_snoc, Act.isOf] using h.story m phase at_m
    · intro m beyond
      simpa [filter_snoc, Act.isOf] using h.silent m beyond
  | @lowered n own busy =>
    refine h.step_of busy (fun _ => rfl) fun told before => ?_
    cases before
    exact .prepared own
  | stopped busy stopped =>
    refine h.step_of busy (fun _ => rfl) fun told before => ?_
    cases before
    exact .stopped stopped
  | @settled n own winner settings s s' waiting =>
    refine h.step_of waiting (fun _ => rfl) fun told before => ?_
    cases before
    exact .settled own winner

/-! ## What is shared -/

/-- No two of the sequences that are waiting to be installed, or are installed, are one object. -/
structure Apart (b : Body) (σ : System) : Prop where
  fresh : ∀ (n : Nat) (own : Sequence), σ.calls[n]? = some (.prepared own) →
    own.id < σ.store.nextSequence
  apart : ∀ (n m : Nat) (own own' : Sequence), σ.calls[n]? = some (.prepared own) →
    σ.calls[m]? = some (.prepared own') → n ≠ m → own.id ≠ own'.id
  cached : ∀ seq, σ.store.sequence? b = some seq → seq.id < σ.store.nextSequence
  lost : ∀ (n : Nat) (own seq : Sequence), σ.calls[n]? = some (.prepared own) →
    σ.store.sequence? b = some seq → own.id ≠ seq.id

/-- The phases of `σ'` in which a sequence waits are those of `σ`. -/
def NoNewer (σ σ' : System) : Prop :=
  ∀ (n : Nat) (own : Sequence), σ'.calls[n]? = some (.prepared own) →
    σ.calls[n]? = some (.prepared own)

theorem Apart.of_noNewer (h : Apart b σ) (phases : NoNewer σ σ')
    (cache : σ'.store.sequence? b = σ.store.sequence? b)
    (ids : σ.store.nextSequence ≤ σ'.store.nextSequence) : Apart b σ' where
  fresh n own at_n := Nat.lt_of_lt_of_le (h.fresh n own (phases n own at_n)) ids
  apart n m own own' at_n at_m := h.apart n m own own' (phases n own at_n) (phases m own' at_m)
  cached seq found := Nat.lt_of_lt_of_le (h.cached seq (cache ▸ found)) ids
  lost n own seq at_n found := h.lost n own seq (phases n own at_n) (cache ▸ found)

theorem noNewer_set {n : Nat} {old new : Phase} {st : Store} (was : σ.calls[n]? = some old)
    (done : ∀ own, new ≠ .prepared own) : NoNewer σ ⟨st, σ.calls.set n new⟩ := by
  intro m own at_m
  rw [set_phase was] at at_m
  by_cases same : n = m
  · rw [if_pos same] at at_m
    exact absurd (Option.some.inj at_m) (done own)
  · rw [if_neg same] at at_m
    exact at_m

theorem Apart.prepare (h : Apart b σ) {n : Nat} {own : Sequence}
    (busy : σ.calls[n]? = some .lowering) (new : own.id = σ.store.nextSequence) :
    Apart b ⟨{ σ.store with nextSequence := σ.store.nextSequence + 1 },
      σ.calls.set n (.prepared own)⟩ := by
  have phase : ∀ (m : Nat) (own' : Sequence),
      (σ.calls.set n (.prepared own))[m]? = some (.prepared own') →
        (n = m ∧ own' = own) ∨ (n ≠ m ∧ σ.calls[m]? = some (.prepared own')) := by
    intro m own' at_m
    rw [set_phase busy] at at_m
    by_cases same : n = m
    · rw [if_pos same] at at_m
      cases at_m
      exact .inl ⟨same, rfl⟩
    · rw [if_neg same] at at_m
      exact .inr ⟨same, at_m⟩
  -- the new sequence is younger than all that wait and than what is installed
  constructor
  · intro m own' at_m
    show own'.id < σ.store.nextSequence + 1
    rcases phase m own' at_m with ⟨-, rfl⟩ | ⟨-, was⟩
    · omega
    · exact Nat.lt_succ_of_lt (h.fresh m own' was)
  · intro m k own₁ own₂ at_m at_k different
    rcases phase m own₁ at_m with ⟨rfl, rfl⟩ | ⟨-, was⟩
    · rcases phase k own₂ at_k with ⟨rfl, rfl⟩ | ⟨-, was'⟩
      · exact absurd rfl different
      · have older := h.fresh k own₂ was'
        omega
    · rcases phase k own₂ at_k with ⟨rfl, rfl⟩ | ⟨-, was'⟩
      · have older := h.fresh m own₁ was
        omega
      · exact h.apart m k own₁ own₂ was was' different
  · exact fun seq found => Nat.lt_succ_of_lt (h.cached seq found)
  · intro m own' seq at_m found
    rcases phase m own' at_m with ⟨-, rfl⟩ | ⟨-, was⟩
    · have older := h.cached seq found
      omega
    · exact h.lost m own' seq was found

theorem Apart.install (h : Apart b σ) {n : Nat} {own : Sequence}
    (waiting : σ.calls[n]? = some (.prepared own)) {st : Store} (store : st = σ.store.install b own) :
    Apart b ⟨st, σ.calls.set n (.ended (.ok own))⟩ := by
  have phases := @noNewer_set σ n _ (.ended (.ok own)) st waiting nofun
  have ids : st.nextSequence = σ.store.nextSequence := by rw [store]; rfl
  have cache : st.sequence? b = some own := by
    rw [store, Store.sequence?_install, if_pos rfl]
  constructor
  · intro m own' at_m
    show own'.id < st.nextSequence
    rw [ids]
    exact h.fresh m own' (phases m own' at_m)
  · intro m k own₁ own₂ at_m at_k
    exact h.apart m k own₁ own₂ (phases m own₁ at_m) (phases k own₂ at_k)
  · intro seq found
    have same := cache.symm.trans found
    cases same
    show own.id < st.nextSequence
    rw [ids]
    exact h.fresh n own waiting
  · intro m own' seq at_m found
    have same := cache.symm.trans found
    cases same
    refine h.apart m n own' own (phases m own' at_m) waiting ?_
    -- the request that has installed its sequence waits no longer
    rintro rfl
    rw [set_phase waiting, if_pos rfl] at at_m
    cases at_m

theorem Apart.step (h : Apart b σ) (step : Step b σ a σ') : Apart b σ' := by
  cases step with
  | checked =>
    refine h.of_noNewer (fun m own at_m => ?_) rfl (Nat.le_refl _)
    rw [append_phase] at at_m
    by_cases new : σ.calls.length = m
    · rw [if_pos new] at at_m
      cases found : σ.store.sequence? b <;> rw [found] at at_m <;> cases at_m
    · rw [if_neg new] at at_m
      exact at_m
  | other cache ids => exact h.of_noNewer (fun _ _ at_n => at_n) cache ids
  | stopped busy stopped => exact h.of_noNewer (noNewer_set busy nofun) rfl (Nat.le_refl _)
  | lowered busy new => exact h.prepare busy new
  | @settled n own winner settings s s' waiting here run =>
    rcases install_cases run with ⟨found, store⟩ | ⟨absent, rfl, store⟩
    · rw [here] at store
      refine h.of_noNewer (noNewer_set waiting nofun) ?_ ?_
      · exact congrArg (·.sequence? b) store
      · exact Nat.le_of_eq (congrArg Store.nextSequence store).symm
    · rw [here] at store
      exact h.install waiting store

/-- The cache holds what was installed, and who has ended well has that. -/
structure Shared (b : Body) (acts : List Act) (σ : System) : Prop where
  agreed : ∀ (n : Nat) (seq : Sequence), σ.calls[n]? = some (.ended (.ok seq)) →
    σ.store.sequence? b = some seq
  empty : σ.store.sequence? b = none → acts.filter Act.installs = []
  filled : ∀ seq, σ.store.sequence? b = some seq →
    ∃ n, acts.filter Act.installs = [.settled n seq seq]

/-- A request that finds a sequence installed, or comes to install its own too late, gets the one
that is installed. -/
theorem Step.late (apart : Apart b σ) (step : Step b σ a σ') {seq : Sequence}
    (cached : σ.store.sequence? b = some seq) :
    σ'.store.sequence? b = some seq ∧
      (∀ n found, a = .checked n found → found = some seq) ∧
      ∀ n own winner, a = .settled n own winner → winner = seq ∧ own.id ≠ seq.id := by
  refine ⟨?_, ?_, ?_⟩
  · rcases step.cache with ⟨same, -⟩ | ⟨n, own, -, none, -⟩
    · exact same.trans cached
    · rw [cached] at none
      cases none
  · rintro n found rfl
    cases step
    exact cached
  · rintro n own winner rfl
    cases step with
    | settled waiting here run =>
      rcases install_cases run with ⟨found, -⟩ | ⟨absent, -⟩
      · rw [here, cached] at found
        cases found
        exact ⟨rfl, apart.lost n own seq waiting cached⟩
      · rw [here, cached] at absent
        cases absent

theorem Step.ends_well (step : Step b σ a σ') {n : Nat} {seq : Sequence}
    (h : σ'.calls[n]? = some (.ended (.ok seq))) :
    σ.calls[n]? = some (.ended (.ok seq)) ∨ σ'.store.sequence? b = some seq := by
  cases step with
  | other => exact .inl h
  | checked =>
    rw [append_phase] at h
    by_cases new : σ.calls.length = n
    · rw [if_pos new] at h
      cases found : σ.store.sequence? b <;> rw [found] at h <;> cases h
      exact .inr rfl
    · rw [if_neg new] at h
      exact .inl h
  | lowered busy =>
    rw [set_phase busy] at h
    split at h
    · cases h
    · exact .inl h
  | stopped busy stopped =>
    rw [set_phase busy] at h
    split at h
    · cases h
      exact absurd rfl (stopped seq)
    · exact .inl h
  | @settled m own winner settings s s' waiting here run =>
    rw [set_phase waiting] at h
    split at h
    · cases h
      refine .inr ?_
      rcases install_cases run with ⟨found, store⟩ | ⟨-, rfl, store⟩
      · exact (congrArg (·.sequence? b) store).trans found
      · show s'.store.sequence? b = some seq
        rw [store, Store.sequence?_install, if_pos rfl]
    · exact .inl h

theorem Act.installs_iff : a.installs = true ↔ ∃ n own, a = .settled n own own := by
  cases a with
  | settled n own winner =>
    constructor
    · intro same
      exact ⟨n, own, by rw [beq_iff_eq.mp same]⟩
    · rintro ⟨m, own', same⟩
      cases same
      exact beq_self_eq_true own
  | _ => exact ⟨nofun, nofun⟩

theorem Shared.step (h : Shared b acts σ) (apart : Apart b σ) (step : Step b σ a σ') :
    Shared b (acts ++ [a]) σ' := by
  have agreed : ∀ (n : Nat) (seq : Sequence), σ'.calls[n]? = some (.ended (.ok seq)) →
      σ'.store.sequence? b = some seq := by
    intro n seq ended
    rcases step.ends_well ended with before | now
    · exact (step.late apart (h.agreed n seq before)).1
    · exact now
  rcases step.cache with ⟨same, full⟩ | ⟨n, own, rfl, absent, cached⟩
  · have idle : a.installs = false := by
      cases installs : a.installs with
      | false => rfl
      | true =>
        obtain ⟨n, own, rfl⟩ := Act.installs_iff.mp installs
        cases cached : σ.store.sequence? b with
        | none => exact absurd cached (full installs)
        | some seq =>
          obtain ⟨now, different⟩ := (step.late apart cached).2.2 n own own rfl
          exact absurd (congrArg Sequence.id now) different
    have history : (acts ++ [a]).filter Act.installs = acts.filter Act.installs := by
      rw [filter_snoc, idle]
      exact List.append_nil _
    refine ⟨agreed, fun none => ?_, fun seq some => ?_⟩
    · rw [history]
      exact h.empty (same ▸ none)
    · rw [history]
      exact h.filled seq (same ▸ some)
  · have history : (acts ++ [Act.settled n own own]).filter Act.installs = [.settled n own own] := by
      rw [filter_snoc, h.empty absent, Act.installs_iff.mpr ⟨n, own, rfl⟩]
      rfl
    refine ⟨agreed, fun none => ?_, fun seq found => ⟨n, ?_⟩⟩
    · rw [cached] at none
      cases none
    · have same := cached.symm.trans found
      cases same
      exact history

/-- What holds after every run from an empty cache and no requests. -/
structure Lawful (b : Body) (acts : List Act) (σ : System) : Prop
    extends Storied acts σ, Apart b σ, Shared b acts σ

theorem Run.lawful {st : Store} (empty : st.sequence? b = none) (run : Run b ⟨st, []⟩ acts σ) :
    Lawful b acts σ := by
  induction run with
  | refl =>
    have absent : ∀ seq, st.sequence? b ≠ some seq := by simp [empty]
    exact {
      story := nofun, silent := fun _ _ => rfl
      fresh := nofun, apart := nofun, lost := nofun, agreed := nofun
      cached := fun seq found => absurd found (absent seq)
      empty := fun _ => rfl
      filled := fun seq found => absurd found (absent seq) }
  | tail run step before =>
    exact ⟨before.toStoried.step step, before.toApart.step step,
      before.toShared.step before.toApart step⟩

/-- Once a sequence is installed, every later run keeps it and hands it to whoever asks. -/
theorem Run.late {st : Store} (empty : st.sequence? b = none) (run : Run b ⟨st, []⟩ acts σ)
    {seq : Sequence} (cached : σ.store.sequence? b = some seq) (later : Run b σ acts' σ') :
    σ'.store.sequence? b = some seq ∧
      (∀ n found, .checked n found ∈ acts' → found = some seq) ∧
      ∀ n own winner, .settled n own winner ∈ acts' → winner = seq ∧ own.id ≠ seq.id := by
  induction later with
  | refl => exact ⟨cached, nofun, nofun⟩
  | @tail σ₁ σ₂ acts' a later step ih =>
    obtain ⟨now, checks, settlements⟩ := ih
    have lawful := (run.trans later).lawful empty
    obtain ⟨next, check, settlement⟩ := step.late lawful.toApart now
    refine ⟨next, fun n found h => ?_, fun n own winner h => ?_⟩
    · rcases List.mem_append.mp h with before | last
      · exact checks n found before
      · exact check n found (List.mem_singleton.mp last).symm
    · rcases List.mem_append.mp h with before | last
      · exact settlements n own winner before
      · exact settlement n own winner (List.mem_singleton.mp last).symm

end Requests

end BodyCall
