import BodyCall.Proofs.Course
import BodyCall.Proofs.Evaluation
import BodyCall.Proofs.Ready

/-!
# Sound caches

What is installed and defined while a program runs belongs to the program: a sequence has the code
of its body, and a body that an engine has for a scope is the body of that scope, made by that
engine. Who each body is, is told by its identity.
-/

namespace BodyCall

open Eval

namespace Table

variable {α β : Type}

def mapValues (g : α → β) (t : Table Nat α) : Table Nat β := ⟨t.entries.map fun e => (e.1, g e.2)⟩

theorem get?_mapValues (g : α → β) (t : Table Nat α) (k : Nat) :
    (t.mapValues g).get? k = (t.get? k).map g := by
  obtain ⟨entries⟩ := t
  simp only [mapValues, get?]
  induction entries with
  | nil => rfl
  | cons e rest ih =>
    by_cases h : e.1 = k
    · simp [lookup, h]
    · simpa [lookup, h] using ih

theorem mapValues_set (g : α → β) (t : Table Nat α) (k : Nat) (a : α) :
    (t.set k a).mapValues g = (t.mapValues g).set k (g a) := by
  obtain ⟨entries⟩ := t
  simp only [mapValues, set, mk.injEq]
  induction entries with
  | nil => rfl
  | cons e rest ih =>
    by_cases h : e.1 = k
    · simp [assign, h]
    · simpa [assign, h] using ih

end Table

namespace Program

def source (P : Program) : Scope → Nat → Store → Lowering :=
  fun scope _ _ => .prepared (P.code scope)

/-- The sequence has the code of the scope. -/
structure Prepares (P : Program) (scope : Scope) (seq : Sequence) : Prop where
  accepted : (P.code scope).checked = .ok (P.code scope)
  explicit : seq.explicit = (P.code scope).explicit
  instrs : seq.instrs = (P.code scope).instrs

end Program

/-- The bodies that have been made, by identity. -/
abbrev Owners := Nat → Option Body

namespace Owners

def Extends (owners owners' : Owners) : Prop := ∀ id b, owners id = some b → owners' id = some b

theorem Extends.refl (owners : Owners) : owners.Extends owners := fun _ _ => id

theorem Extends.trans {owners owners₁ owners₂ : Owners} (h : owners.Extends owners₁)
    (h' : owners₁.Extends owners₂) : owners.Extends owners₂ :=
  fun id b found => h' id b (h id b found)

def insert (owners : Owners) (b : Body) : Owners := fun id => if b.id = id then some b else owners id

end Owners

structure Sound (P : Program) (owners : Owners) (st : Store) : Prop where
  owned : ∀ {id b}, owners id = some b → b.id = id ∧ id < st.nextBody ∧ P.has b.scope
  defined : ∀ {engine scope b}, st.definition? engine scope = some b →
    owners b.id = some b ∧ b.scope.id = scope.id ∧ b.handle = ⟨engine, false⟩
  installed : ∀ {id seq}, st.installed.get? id = some seq →
    ∃ b, owners id = some b ∧ P.Prepares b.scope seq ∧ seq.handle = b.handle

namespace Sound

variable {P : Program} {owners : Owners} {st st' : Store} {b : Body}

theorem of_same (sound : Sound P owners st) (definitions : st'.definitions = st.definitions)
    (installed : st'.installed = st.installed) (ids : st.nextBody ≤ st'.nextBody) :
    Sound P owners st' where
  owned found :=
    let ⟨same, older, part⟩ := sound.owned found
    ⟨same, Nat.lt_of_lt_of_le older ids, part⟩
  defined {engine scope b} found := by
    have found : st.definition? engine scope = some b := by
      rw [Store.definition?, Store.defined, definitions] at found
      exact found
    exact sound.defined found
  installed {id seq} found := by
    rw [installed] at found
    exact sound.installed found

theorem install (sound : Sound P owners st) (owned : owners b.id = some b) {seq : Sequence}
    (prepares : P.Prepares b.scope seq) (handle : seq.handle = b.handle) :
    Sound P owners (st.install b seq) where
  owned := sound.owned
  defined := sound.defined
  installed {id seq'} found := by
    rw [Store.install, Table.get?_set] at found
    by_cases same : b.id = id
    · rw [if_pos same] at found
      cases found
      exact ⟨b, same ▸ owned, prepares, handle⟩
    · rw [if_neg same] at found
      exact sound.installed found

/-- A body that has just been made is new to everyone. -/
theorem create (sound : Sound P owners st) (new : b.id = st.nextBody) (part : P.has b.scope) :
    owners.Extends (owners.insert b) ∧ (owners.insert b) b.id = some b ∧
      Sound P (owners.insert b) { st with nextBody := st.nextBody + 1 } := by
  have kept : owners.Extends (owners.insert b) := by
    intro id b' found
    have older := (sound.owned found).2.1
    have other : b.id ≠ id := by omega
    rw [Owners.insert, if_neg other]
    exact found
  refine ⟨kept, if_pos rfl, ?_, ?_, ?_⟩
  · -- who was known before is older than the new body
    intro id b' found
    rw [Owners.insert] at found
    by_cases same : b.id = id
    · rw [if_pos same] at found
      cases found
      exact ⟨same, by show id < st.nextBody + 1; omega, part⟩
    · rw [if_neg same] at found
      obtain ⟨same', older, part'⟩ := sound.owned found
      exact ⟨same', Nat.lt_succ_of_lt older, part'⟩
  · intro engine scope b' found
    obtain ⟨owned, scope_id, handle⟩ := sound.defined found
    exact ⟨kept _ _ owned, scope_id, handle⟩
  · intro id seq found
    obtain ⟨b', owned, prepares, handle⟩ := sound.installed found
    exact ⟨b', kept _ _ owned, prepares, handle⟩

/-- Nothing is cached yet, and there is one body. -/
theorem fresh (undefined : ∀ engine scope, st.definition? engine scope = none)
    (uninstalled : ∀ id, st.installed.get? id = none) (known : b.id < st.nextBody)
    (part : P.has b.scope) : Sound P (.insert (fun _ => none) b) st where
  owned {id b'} found := by
    rw [Owners.insert] at found
    split at found
    next same =>
      cases found
      exact ⟨same, same ▸ known, part⟩
    next => cases found
  defined {engine scope b'} found := by
    rw [undefined] at found
    cases found
  installed {id seq} found := by
    rw [uninstalled] at found
    cases found

theorem define (sound : Sound P owners st) (owned : owners b.id = some b) {engine : Nat}
    (handle : b.handle = ⟨engine, false⟩) : Sound P owners (st.define engine b.scope b) where
  owned := sound.owned
  installed := sound.installed
  defined {engine' scope b'} found := by
    rw [Store.definition?_define] at found
    by_cases here : engine = engine' ∧ b.scope.id = scope.id
    · rw [if_pos here] at found
      cases found
      exact ⟨owned, here.2, here.1 ▸ handle⟩
    · rw [if_neg here] at found
      exact sound.defined found

theorem prepares (sound : Sound P owners st) (owned : owners b.id = some b) {seq : Sequence}
    (found : st.sequence? b = some seq) : P.Prepares b.scope seq ∧ seq.handle = b.handle := by
  obtain ⟨b', owned', prepares, handle⟩ := sound.installed found
  have same := owned.symm.trans owned'
  cases same
  exact ⟨prepares, handle⟩

end Sound

/-! ## Engines stay alive -/

namespace Store

variable {st st' : Store}

theorem handlesOf_mono (before : st.Before st') {b : Body} {h : Handle}
    (here : h ∈ st.handlesOf b) : h ∈ st'.handlesOf b := by
  unfold handlesOf at here ⊢
  cases found : st.sequence? b with
  | none =>
    rw [found] at here
    simp only [Option.map_none, Option.toList_none, List.mem_singleton] at here
    rw [here]
    exact List.mem_cons_self
  | some seq =>
    rw [before.installed b seq found]
    rw [found] at here
    exact here

theorem held_mono (before : st.Before st') {h : Handle} (here : h ∈ st.held) : h ∈ st'.held := by
  unfold held at here ⊢
  rw [before.registry]
  rcases List.mem_append.mp here with named | reached
  · exact List.mem_append_left _ named
  · obtain ⟨m, known, here⟩ := List.mem_flatMap.mp reached
    refine List.mem_append_right _ (List.mem_flatMap.mpr ⟨m, known, ?_⟩)
    cases m with
    | body b => exact handlesOf_mono before here
    | ordinary m => exact here

theorem cached_mono (before : st.Before st') (definitions : st'.definitions = st.definitions)
    {h : Handle} (here : h ∈ st.cached) : h ∈ st'.cached := by
  unfold cached at here ⊢
  rw [definitions]
  obtain ⟨bodies, known, here⟩ := List.mem_flatMap.mp here
  obtain ⟨b, among, here⟩ := List.mem_flatMap.mp here
  exact List.mem_flatMap.mpr
    ⟨bodies, known, List.mem_flatMap.mpr ⟨b, among, handlesOf_mono before here⟩⟩

/-- What engines have defined only grows. -/
theorem Step.cached (step : st.Step st') {h : Handle} (here : h ∈ st.cached) : h ∈ st'.cached := by
  have before := step.before
  cases step with
  | @define engine scope absent m handle =>
    let new : Body := ⟨st.nextBody, scope, m, handle.downgrade⟩
    obtain ⟨bodies, known, here⟩ := List.mem_flatMap.mp here
    obtain ⟨b, among, here⟩ := List.mem_flatMap.mp here
    rcases Table.mem_values_set known engine ((st.defined engine).set scope.id new) with
      kept | replaced
    · exact List.mem_flatMap.mpr ⟨bodies, kept, List.mem_flatMap.mpr ⟨b, among, here⟩⟩
    · -- the table of the engine gives way to one with a body more, for a scope that had none
      have own : st.defined engine = bodies := by rw [defined, replaced]; rfl
      have there : bodies.set scope.id new ∈ (st.define engine scope new).definitions.values := by
        refine Table.mem_values (k := engine) ?_
        rw [Store.define, Table.get?_set, if_pos rfl, own]
      have still : b ∈ (bodies.set scope.id new).values := by
        rw [definition?, own] at absent
        exact (Table.mem_values_set among scope.id new).resolve_right (by simp [absent])
      exact List.mem_flatMap.mpr ⟨_, there, List.mem_flatMap.mpr ⟨b, still, here⟩⟩
  | module | sequence | lowering | install | hold | release =>
    exact cached_mono before rfl here

theorem reaches_grown (before : st.Before st') (cached : ∀ h ∈ st.cached, h ∈ st'.cached)
    (running : st'.running = st.running) {h : Handle} (live : st.reaches h = true) :
    st'.reaches h = true := by
  unfold reaches alive at live ⊢
  rw [running]
  simp only [Bool.or_eq_true, List.any_append, List.any_eq_true] at live ⊢
  rcases live with owning | called | ⟨k, here, owns⟩ | ⟨k, here, owns⟩
  · exact .inl owning
  · exact .inr (.inl called)
  · exact .inr (.inr (.inl ⟨k, held_mono before here, owns⟩))
  · exact .inr (.inr (.inr ⟨k, cached k here, owns⟩))

theorem reaches_mono (before : st.Before st') (definitions : st'.definitions = st.definitions)
    (running : st'.running = st.running) {h : Handle} (live : st.reaches h = true) :
    st'.reaches h = true :=
  reaches_grown before (fun _ => cached_mono before definitions) running live

end Store

/-! ## Making the bodies of a program ready -/

/-- What making a body ready leaves as it was. -/
structure State.Still (s s' : State) : Prop extends s.store.Before s'.store where
  context : s'.context = s.context
  definitions : s'.store.definitions = s.store.definitions
  running : s'.store.running = s.store.running
  nextModule : s'.store.nextModule = s.store.nextModule

namespace Program

variable {P : Program} {owners : Owners} {b : Body} {s : State}

/-- The store once a body has been lowered and its sequence installed. -/
def installing (st : Store) (b : Body) (l : Lowered) : Store :=
  { st.noteLowering b.scope with nextSequence := st.nextSequence + 1 }.install b
    (preparedFrom st b.scope b.handle l)

section

variable {source : Scope → Nat → Store → Lowering} {code : Lowered}

theorem lower_prepared {scope : Scope} (prepared : ∀ n st, source scope n st = .prepared code)
    (ready : Body → Settings → Eval Sequence) (s : State) :
    lower source ready scope s = (some (.ok code.checked), s.asked scope) := by
  rw [Eval.lower_run, prepared]
  rfl

theorem prepared_refuses (prepared : ∀ n st, source b.scope n st = .prepared code)
    (absent : s.store.sequence? b = none) {reason : String} (refused : code.checked = .error reason)
    (depth : Nat) (settings : Settings) : readyAt source (depth + 1) b settings s =
      (some (.failed ⟨.materialization b.scope.text reason, none⟩), s.asked b.scope) := by
  have lowering := lower_prepared prepared (readyAt source depth) s
  rw [refused] at lowering
  rw [readyAt_absent absent]
  exact bind_of_failed (prepare_refused lowering)

theorem prepared_installs (prepared : ∀ n st, source b.scope n st = .prepared code)
    (absent : s.store.sequence? b = none) {l : Lowered} (accepted : code.checked = .ok l)
    (depth : Nat) (settings : Settings) :
    ∃ told, readyAt source (depth + 1) b settings s =
      (some (.ok (preparedFrom s.store b.scope b.handle l)),
        { s with store := installing s.store b l, trace := told ++ s.trace }) := by
  have lowering := lower_prepared prepared (readyAt source depth) s
  rw [accepted] at lowering
  let seq := preparedFrom s.store b.scope b.handle l
  let s₁ : State := { s.asked b.scope with
    store := { (s.asked b.scope).store with nextSequence := s.store.nextSequence + 1 } }
  obtain ⟨told, installed⟩ := @install_absent b seq settings s₁ absent
  rw [readyAt_absent absent]
  refine ⟨told.map .logged ++ [.lowering b.scope (s.store.loweringCount b.scope)], ?_⟩
  rw [List.append_assoc]
  exact (bind_of_ok (prepare_answered lowering)).trans installed

end

theorem readyAt_refuses (absent : s.store.sequence? b = none) {reason : String}
    (refused : (P.code b.scope).checked = .error reason) (depth : Nat) (settings : Settings) :
    readyAt P.source (depth + 1) b settings s =
      (some (.failed ⟨.materialization b.scope.text reason, none⟩), s.asked b.scope) :=
  prepared_refuses (fun _ _ => rfl) absent refused depth settings

theorem readyAt_installs (absent : s.store.sequence? b = none) {l : Lowered}
    (accepted : (P.code b.scope).checked = .ok l) (depth : Nat) (settings : Settings) :
    ∃ told, readyAt P.source (depth + 1) b settings s =
      (some (.ok (preparedFrom s.store b.scope b.handle l)),
        { s with store := installing s.store b l, trace := told ++ s.trace }) :=
  prepared_installs (fun _ _ => rfl) absent accepted depth settings

theorem readyAt_refused (sound : Sound P owners s.store) (owned : owners b.id = some b)
    {reason : String} (refused : (P.code b.scope).checked = .error reason) (depth : Nat)
    (settings : Settings) : readyAt P.source (depth + 1) b settings s =
      (some (.failed ⟨.materialization b.scope.text reason, none⟩), s.asked b.scope) := by
  refine readyAt_refuses ?_ refused depth settings
  cases found : s.store.sequence? b with
  | none => rfl
  | some seq =>
    have accepted := (sound.prepares owned found).1.accepted
    rw [refused] at accepted
    cases accepted

theorem readyAt_ready (sound : Sound P owners s.store) (owned : owners b.id = some b)
    (accepted : (P.code b.scope).checked = .ok (P.code b.scope)) (depth : Nat)
    (settings : Settings) :
    ∃ seq s', readyAt P.source (depth + 1) b settings s = (some (.ok seq), s') ∧
      P.Prepares b.scope seq ∧ seq.handle = b.handle ∧ Sound P owners s'.store ∧ s.Still s' := by
  cases found : s.store.sequence? b with
  | some seq =>
    obtain ⟨prepares, handle⟩ := sound.prepares owned found
    refine ⟨seq, s, readyAt_found found, prepares, handle, sound, ?_⟩
    exact ⟨.refl s.store, rfl, rfl, rfl, rfl⟩
  | none =>
    let seq := preparedFrom s.store b.scope b.handle (P.code b.scope)
    let st : Store := { s.store.noteLowering b.scope with nextSequence := s.store.nextSequence + 1 }
    obtain ⟨told, ready⟩ := readyAt_installs found accepted depth settings
    have prepares : P.Prepares b.scope seq := ⟨accepted, rfl, rfl⟩
    refine ⟨seq, _, ready, prepares, rfl, ?_, ?_, rfl, rfl, rfl, rfl⟩
    · have noted : Sound P owners st := sound.of_same rfl rfl (Nat.le_refl _)
      exact noted.install owned prepares rfl
    · have noted : s.store.Before st :=
        ((Store.Step.lowering s.store b.scope).before).trans (Store.Step.sequence _).before
      have absent : st.sequence? b = none := found
      have step : st.Step (st.install b seq) := .install absent rfl
      exact noted.trans step.before

end Program

end BodyCall
