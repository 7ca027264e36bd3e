import BodyCall.Proofs.Lifetime
import BodyCall.Proofs.Sound
import Mathlib.Logic.Relation

/-!
# Guests of an engine

A guest is a program with a method of its own for its top body. It shares its engine with others, and
the engine keeps the bodies of all of them in one place, by scope. A run of a guest only comes to the
scopes that the definitions in its code lead to, and what the engine has for other scopes it leaves
alone.
-/

namespace BodyCall

open Eval

/-! ## The bodies of a store -/

/-- What engines have defined is for the scopes of its bodies, each body is in one place only, and none
of them was made by the session. -/
structure Orderly (made : List Body) (st : Store) : Prop extends Identified made st where
  own : ∀ {engine scope b}, st.definition? engine scope = some b → b ∉ made
  keyed : ∀ {engine scope b}, st.definition? engine scope = some b → b.scope.id = scope.id
  once : ∀ {engine engine' scope scope' b}, st.definition? engine scope = some b →
    st.definition? engine' scope' = some b → engine = engine'

namespace Orderly

variable {made : List Body} {st st' : Store} {b : Body}

theorem place (h : Orderly made st) {engine engine' : Nat} {scope scope' : Scope} {b' : Body}
    (found : st.definition? engine scope = some b)
    (found' : st.definition? engine' scope' = some b') (same : b.id = b'.id) :
    engine = engine' ∧ scope.id = scope'.id ∧ b = b' := by
  have one : b = b' := h.identified b b' (.inr ⟨_, _, found⟩) (.inr ⟨_, _, found'⟩) same
  subst one
  exact ⟨h.once found found', (h.keyed found).symm.trans (h.keyed found'), rfl⟩

theorem apart_of_made (h : Orderly made st) {engine : Nat} {scope : Scope} {b' : Body}
    (found : st.definition? engine scope = some b) (among : b' ∈ made) : b.id ≠ b'.id := by
  intro same
  have one : b = b' := h.identified b b' (.inr ⟨_, _, found⟩) (.inl among) same
  exact h.own found (one ▸ among)

theorem sequence?_new (h : Orderly made st) (new : st.nextBody ≤ b.id) :
    st.sequence? b = none := by
  cases found : st.sequence? b with
  | none => rfl
  | some seq =>
    obtain ⟨b', known, same, -⟩ := h.installed b.id seq found
    have older := h.numbered b' known
    omega

theorem of_same (h : Orderly made st) (definitions : st'.definitions = st.definitions)
    (installed : st'.installed = st.installed) (ids : st.nextBody ≤ st'.nextBody) :
    Orderly made st' := by
  have same := Store.definition?_congr definitions
  refine ⟨h.toIdentified.of_same definitions installed ids,
    fun {engine scope b} found => h.own (same engine scope ▸ found),
    fun {engine scope b} found => h.keyed (same engine scope ▸ found),
    fun {engine engine' scope scope' b} found found' => ?_⟩
  exact h.once (same engine scope ▸ found) (same engine' scope' ▸ found')

theorem method (h : Orderly made st) (new : b.id = st.nextBody) :
    Orderly (b :: made) { st with nextBody := st.nextBody + 1 } := by
  refine ⟨h.toIdentified.method new, fun {engine scope b'} found among => ?_, h.keyed, h.once⟩
  rcases List.mem_cons.mp among with rfl | older
  · have lower := h.numbered b' (.inr ⟨engine, scope, found⟩)
    omega
  · exact h.own found older

theorem install (h : Orderly made st) (known : st.Knows made b) {seq : Sequence}
    (handle : seq.handle = b.handle) : Orderly made (st.install b seq) :=
  ⟨h.toIdentified.install known handle, h.own, h.keyed, h.once⟩

theorem define (h : Orderly made st) {engine : Nat} {scope : Scope}
    (absent : st.definition? engine scope = none) (parent : Option Module) (handle : Handle) :
    Orderly made
      (Interpreter.defining st engine (Interpreter.newBody st scope parent handle)) := by
  have older {engine' : Nat} {scope' : Scope} {b : Body}
      (found : st.definition? engine' scope' = some b) :
      b ≠ Interpreter.newBody st scope parent handle := by
    rintro rfl
    exact Nat.lt_irrefl _ (h.numbered _ (.inr ⟨_, _, found⟩))
  refine ⟨h.toIdentified.define absent parent handle, fun found among => ?_, fun found => ?_,
    fun found found' => ?_⟩
  · rcases Identified.found_defining found with ⟨rfl, -⟩ | before
    · exact Nat.lt_irrefl _ (h.numbered _ (.inl among))
    · exact h.own before among
  · rcases Identified.found_defining found with ⟨rfl, -, same⟩ | before
    · exact same
    · exact h.keyed before
  · rcases Identified.found_defining found with ⟨rfl, here, -⟩ | before <;>
      rcases Identified.found_defining found' with ⟨new, here', -⟩ | before'
    · exact here.symm.trans here'
    · exact absurd rfl (older before')
    · exact absurd new (older before)
    · exact h.once before before'

theorem of_empty (undefined : ∀ engine scope, st.definition? engine scope = none)
    (uninstalled : ∀ id, st.installed.get? id = none) (numbered : ∀ b ∈ made, b.id < st.nextBody)
    (identified : ∀ b ∈ made, ∀ b' ∈ made, b.id = b'.id → b = b') : Orderly made st := by
  have known (b : Body) : st.Knows made b ↔ b ∈ made := by
    simp [Store.Knows, undefined]
  refine ⟨⟨fun b h => numbered b ((known b).mp h), fun b b' h h' => ?_, ?_⟩, ?_, ?_, ?_⟩
  · exact identified b ((known b).mp h) b' ((known b').mp h')
  · simp [uninstalled]
  · simp [undefined]
  · simp [undefined]
  · simp [undefined]

end Orderly

theorem Lifetime.orderly {fits : Nat → Handle → Prop} {st : Store} {made : List Body}
    (lived : Lifetime fits st made) : Orderly made st := by
  induction lived with
  | start => exact ⟨(@Tidy.start fits).toIdentified, nofun, nofun, nofun⟩
  | method lived there name scope m ih => exact (ih.method rfl).of_same rfl rfl (Nat.le_refl _)
  | elsewhere lived definitions installed running nextBody handles methods sequences ih =>
    exact ih.of_same definitions installed (Nat.le_of_eq nextBody.symm)
  | installed lived known absent handle ih => exact ih.install known handle
  | @defined _ _ lived engine h _ _ absent parent ih => exact ih.define absent parent h
  | _ => rename_i ih; exact ih.of_same rfl rfl (Nat.le_refl _)

/-! ## Guests -/

structure Guest where
  code : Scope → Lowered
  top : Body

namespace Guest

variable (G : Guest)

def engine : Nat := G.top.handle.engine

/-- The scopes that definitions lead to from the top body. -/
def Reaches : Scope → Prop :=
  Relation.TransGen (fun outer inner => .define inner ∈ (G.code outer).instrs) G.top.scope

/-- The scopes whose code a run can come to. -/
def Has (scope : Scope) : Prop := scope = G.top.scope ∨ G.Reaches scope

/-- The source of each scope of the guest has its code from the start. -/
def Served (source : Scope → Nat → Store → Lowering) : Prop :=
  ∀ scope, G.Has scope → ∀ n st, source scope n st = .prepared (G.code scope)

/-- The place where the engine keeps the body of a scope that the guest reaches. -/
def Owns (engine : Nat) (scope : Scope) : Prop :=
  engine = G.engine ∧ ∃ inner, G.Reaches inner ∧ inner.id = scope.id

/-- The bodies that a run can come to. -/
def Knows (st : Store) (b : Body) : Prop :=
  b = G.top ∨ ∃ scope, G.Reaches scope ∧ st.definition? G.engine scope = some b

/-- The sequence is the code of the body, in all but its identity. -/
structure Prepares (b : Body) (seq : Sequence) : Prop where
  accepted : (G.code b.scope).checked = .ok (G.code b.scope)
  same : seq = ⟨seq.id, b.scope.file, b.scope.line, (G.code b.scope).explicit,
    (G.code b.scope).instrs, b.handle⟩

/-- What the engine has for the guest is the guest's: bodies of scopes that it reaches, which run on
this engine, and sequences with the code of their bodies. -/
structure Housed (made : List Body) (st : Store) : Prop extends Orderly made st where
  top : G.top ∈ made
  within : ∀ {scope b}, G.Reaches scope → st.definition? G.engine scope = some b →
    G.Reaches b.scope
  bound : ∀ {scope b}, G.Reaches scope → st.definition? G.engine scope = some b →
    b.handle.engine = G.engine
  prepared : ∀ {b seq}, G.Knows st b → st.sequence? b = some seq → G.Prepares b seq

/-- From one store to a later one the guest has left alone what the engines have for other scopes, and
the bodies that are not its own. -/
structure Confined (made : List Body) (st₀ st : Store) : Prop extends st₀.Before st where
  housed : G.Housed made st
  cached : ∀ h ∈ st₀.cached, h ∈ st.cached
  ids : st₀.nextBody ≤ st.nextBody
  elsewhere : ∀ engine scope, ¬ G.Owns engine scope →
    st.definition? engine scope = st₀.definition? engine scope
  fresh : ∀ {engine scope b}, st.definition? engine scope = some b →
    st₀.definition? engine scope = some b ∨ st₀.nextBody ≤ b.id
  others : ∀ b : Body, b.id < st₀.nextBody → (∀ b', G.Knows st₀ b' → b'.id ≠ b.id) →
    st.sequence? b = st₀.sequence? b

variable {G} {made : List Body} {st₀ st st' : Store} {b : Body} {scope : Scope}

theorem Has.define {outer inner : Scope} (here : G.Has outer)
    (among : .define inner ∈ (G.code outer).instrs) : G.Reaches inner := by
  rcases here with rfl | reached
  · exact .single among
  · exact reached.tail among

namespace Housed

theorem has (h : G.Housed made st) (known : G.Knows st b) : G.Has b.scope := by
  rcases known with rfl | ⟨scope, reached, found⟩
  · exact .inl rfl
  · exact .inr (h.within reached found)

theorem knows (h : G.Housed made st) (known : G.Knows st b) : st.Knows made b := by
  rcases known with rfl | ⟨scope, -, found⟩
  · exact .inl h.top
  · exact .inr ⟨G.engine, scope, found⟩

theorem engine (h : G.Housed made st) (known : G.Knows st b) : b.handle.engine = G.engine := by
  rcases known with rfl | ⟨scope, reached, found⟩
  · rfl
  · exact h.bound reached found

theorem of_same (h : G.Housed made st) (definitions : st'.definitions = st.definitions)
    (installed : st'.installed = st.installed) (nextBody : st'.nextBody = st.nextBody) :
    G.Housed made st' := by
  have same := Store.definition?_congr definitions
  refine ⟨h.toOrderly.of_same definitions installed (Nat.le_of_eq nextBody.symm), h.top,
    fun reached found => ?_, fun reached found => ?_, fun known found => ?_⟩
  · exact h.within reached (same G.engine _ ▸ found)
  · exact h.bound reached (same G.engine _ ▸ found)
  · rw [Store.sequence?, installed] at found
    rw [Knows] at known
    simp only [same] at known
    exact h.prepared known found

theorem install (h : G.Housed made st) (known : G.Knows st b) {seq : Sequence}
    (prepares : G.Prepares b seq) : G.Housed made (st.install b seq) := by
  have handle : seq.handle = b.handle := by rw [prepares.same]
  refine ⟨h.toOrderly.install (h.knows known) handle, h.top, h.within, h.bound, ?_⟩
  intro b' seq' known' found
  rw [Store.sequence?_install] at found
  split at found
  next same =>
    cases found
    have one : b = b' := h.identified b b' (h.knows known) (h.knows known') same
    exact one ▸ prepares
  next => exact h.prepared known' found

theorem define (h : G.Housed made st) (reached : G.Reaches scope)
    (absent : st.definition? G.engine scope = none) (parent : Option Module) {handle : Handle}
    (here : handle.engine = G.engine) :
    G.Housed made (Interpreter.defining st G.engine
      (Interpreter.newBody st scope parent handle)) := by
  refine ⟨h.toOrderly.define absent parent handle, h.top, fun reached' found => ?_,
    fun reached' found => ?_, ?_⟩
  · rcases Identified.found_defining found with ⟨rfl, -⟩ | older
    · exact reached
    · exact h.within reached' older
  · rcases Identified.found_defining found with ⟨rfl, -⟩ | older
    · exact here
    · exact h.bound reached' older
  · intro b seq known found
    have found : st.sequence? b = some seq := found
    rcases known with rfl | ⟨scope', reached', there⟩
    · exact h.prepared (.inl rfl) found
    · rcases Identified.found_defining there with ⟨rfl, -⟩ | older
      · rw [h.sequence?_new (Nat.le_refl _)] at found
        cases found
      · exact h.prepared (.inr ⟨scope', reached', older⟩) found

end Housed

namespace Confined

theorem refl (h : G.Housed made st) : G.Confined made st st :=
  ⟨.refl st, h, fun _ => id, Nat.le_refl _, fun _ _ _ => rfl, .inl, fun _ _ _ => rfl⟩

theorem of_same (h : G.Confined made st₀ st) (definitions : st'.definitions = st.definitions)
    (installed : st'.installed = st.installed) (nextBody : st'.nextBody = st.nextBody)
    (registry : st'.registry = st.registry) : G.Confined made st₀ st' := by
  have same := Store.definition?_congr definitions
  have sequences := Store.sequence?_congr installed
  have before : st.Before st' :=
    ⟨registry, fun b _ found => (sequences b).trans found,
      fun engine scope _ found => (same engine scope).trans found⟩
  constructor
  · exact h.toBefore.trans before
  · exact h.housed.of_same definitions installed nextBody
  · exact fun handle there => Store.cached_mono before definitions (h.cached handle there)
  · exact nextBody ▸ h.ids
  · exact fun engine scope other => (same engine scope).trans (h.elsewhere engine scope other)
  · exact fun {engine scope b} found => h.fresh (same engine scope ▸ found)
  · exact fun b older other => (sequences b).trans (h.others b older other)

theorem install (h : G.Confined made st₀ st) (known : G.Knows st b)
    (absent : st.sequence? b = none) {seq : Sequence} (prepares : G.Prepares b seq) :
    G.Confined made st₀ (st.install b seq) := by
  have step : st.Step (st.install b seq) := .install absent (by rw [prepares.same])
  refine ⟨h.toBefore.trans step.before, h.housed.install known prepares,
    fun handle there => step.cached (h.cached handle there), h.ids, h.elsewhere, h.fresh, ?_⟩
  intro b' older other
  rw [Store.sequence?_install, if_neg]
  · exact h.others b' older other
  -- a body that the run knows was known before, or has been made since
  · intro same
    rcases known with rfl | ⟨scope, reached, found⟩
    · exact other G.top (.inl rfl) same
    · rcases h.fresh found with before | since
      · exact other b (.inr ⟨scope, reached, before⟩) same
      · omega

theorem define (h : G.Confined made st₀ st) (reached : G.Reaches scope)
    (absent : st.definition? G.engine scope = none) (parent : Option Module) {handle : Handle}
    (here : handle.engine = G.engine) :
    G.Confined made st₀ (Interpreter.defining st G.engine
      (Interpreter.newBody st scope parent handle)) := by
  let st₁ : Store := { st with nextModule := st.nextModule + 1 }
  have first : st.Step st₁ := .module st
  have unknown : st₁.definition? G.engine scope = none := absent
  have second : st₁.Step (Interpreter.defining st G.engine
      (Interpreter.newBody st scope parent handle)) := .define unknown _ handle
  refine ⟨h.toBefore.trans (first.before.trans second.before),
    h.housed.define reached absent parent here,
    fun handle there => second.cached (first.cached (h.cached handle there)),
    Nat.le_succ_of_le h.ids, fun engine scope' other => ?_, fun found => ?_, h.others⟩
  · rw [Interpreter.defining, Store.definition?_define, if_neg]
    · exact h.elsewhere engine scope' other
    · rintro ⟨same, id⟩
      exact other ⟨same.symm, scope, reached, id⟩
  · rcases Identified.found_defining found with ⟨rfl, -⟩ | older
    · exact .inr h.ids
    · exact h.fresh older

end Confined

/-! ## Making a body of a guest ready -/

/-- Nothing has been defined and no call has begun or ended from one store to the other. -/
structure Resting (st st' : Store) : Prop where
  definitions : st'.definitions = st.definitions
  running : st'.running = st.running
  nextModule : st'.nextModule = st.nextModule

/-- A body of the guest is ready, and for the others all is as it was. -/
structure Readied (G : Guest) (made : List Body) (st₀ : Store) (b : Body) (s : State)
    (seq : Sequence) (s' : State) : Prop extends Resting s.store s'.store where
  prepares : G.Prepares b seq
  confined : G.Confined made st₀ s'.store
  context : s'.context = s.context
  installed : s'.store.sequence? b = some seq
  others : ∀ b' : Body, b.id ≠ b'.id → s'.store.sequence? b' = s.store.sequence? b'

variable {source : Scope → Nat → Store → Lowering} {s : State}

theorem readyAt_refused (served : G.Served source) (housed : G.Housed made s.store)
    (known : G.Knows s.store b) {reason : String} (refused : (G.code b.scope).checked = .error reason)
    (depth : Nat) (settings : Settings) : readyAt source (depth + 1) b settings s =
      (some (.failed ⟨.materialization b.scope.text reason, none⟩), s.asked b.scope) := by
  refine Program.prepared_refuses (served b.scope (housed.has known)) ?_ refused depth settings
  cases found : s.store.sequence? b with
  | none => rfl
  | some seq =>
    have accepted := (housed.prepared known found).accepted
    rw [refused] at accepted
    cases accepted

theorem readyAt_readied (served : G.Served source) (confined : G.Confined made st₀ s.store)
    (known : G.Knows s.store b) (accepted : (G.code b.scope).checked = .ok (G.code b.scope))
    (depth : Nat) (settings : Settings) : ∃ seq s',
      readyAt source (depth + 1) b settings s = (some (.ok seq), s') ∧
        G.Readied made st₀ b s seq s' := by
  have housed := confined.housed
  cases found : s.store.sequence? b with
  | some seq =>
    exact ⟨seq, s, readyAt_found found, ⟨rfl, rfl, rfl⟩, housed.prepared known found, confined, rfl,
      found, fun _ _ => rfl⟩
  | none =>
    obtain ⟨told, ready⟩ := Program.prepared_installs (served b.scope (housed.has known)) found
      accepted depth settings
    let seq := preparedFrom s.store b.scope b.handle (G.code b.scope)
    let st : Store := { s.store.noteLowering b.scope with
      nextSequence := s.store.nextSequence + 1 }
    have noted : G.Confined made st₀ st := confined.of_same rfl rfl rfl rfl
    have prepares : G.Prepares b seq := ⟨accepted, rfl⟩
    refine ⟨seq, _, ready, ⟨rfl, rfl, rfl⟩, prepares, noted.install known found prepares, rfl, ?_, ?_⟩
    · exact (Store.sequence?_install st b b seq).trans (if_pos rfl)
    · intro b' other
      exact (Store.sequence?_install st b b' seq).trans (if_neg other)

end Guest

end BodyCall
