import BodyCall.Proofs.Sites
import BodyCall.Session.Plain

/-!
# The lifetime of engines

What an engine has defined never keeps an engine alive: the bodies in there have handles that do not
own, and so have their sequences. So an engine lives as long as someone outside holds an owning handle
to it, or a call on it is in progress. A body that runs on the engine that has defined it is called
from there, and finds it alive.
-/

namespace BodyCall

open Eval

namespace Store

/-- The bodies that were made by the session, and those that engines have defined. -/
def Knows (st : Store) (made : List Body) (b : Body) : Prop :=
  b ∈ made ∨ ∃ engine scope, st.definition? engine scope = some b

theorem Knows.mono {st st' : Store} {made : List Body} {b : Body} (h : st.Knows made b)
    (before : st.Before st') : st'.Knows made b :=
  h.imp_right fun ⟨engine, scope, found⟩ => ⟨engine, scope, before.defined engine scope b found⟩

/-- The engine is being called, or held by an owning handle outside of what engines have defined. -/
def Lives (st : Store) (engine : Nat) : Prop :=
  engine ∈ st.running ∨ ∃ h ∈ st.held, h.owning = true ∧ h.engine = engine

end Store

/-- The histories of a store, up to any moment, with the bodies that the session has made. Handles to
engines are made, cloned, downgraded and dropped, and methods and sequences with them. Meanwhile
bodies are made ready and defined, and engines are called and return. An engine only defines bodies
for sequences with handles that fit it. -/
inductive Lifetime (fits : Nat → Handle → Prop) : Store → List Body → Prop where
  | start : Lifetime fits {} []
  | engine {st : Store} {made : List Body} (lived : Lifetime fits st made) (name : String) :
      Lifetime fits { st with
        nextEngine := st.nextEngine + 1
        registry := { st.registry with
          handles := st.registry.handles.set name ⟨st.nextEngine, true⟩ } } made
  | clone {st : Store} {made : List Body} (lived : Lifetime fits st made) {h : Handle}
      (there : h ∈ st.held ++ st.cached) (name : String) :
      Lifetime fits { st with
        registry := { st.registry with handles := st.registry.handles.set name h } } made
  | downgrade {st : Store} {made : List Body} (lived : Lifetime fits st made) {h : Handle}
      (there : h ∈ st.held ++ st.cached) (name : String) :
      Lifetime fits { st with
        registry := { st.registry with handles := st.registry.handles.set name h.downgrade } } made
  | drop {st : Store} {made : List Body} (lived : Lifetime fits st made) (what : Holding)
      (name : String) :
      Lifetime fits { st with registry := PlainStep.forget what name st.registry } made
  | method {st : Store} {made : List Body} (lived : Lifetime fits st made) {h : Handle}
      (there : h ∈ st.held ++ st.cached) (name : String) (scope : Scope) (m : Module) :
      Lifetime fits { st with
        nextBody := st.nextBody + 1
        registry := { st.registry with
          methods := st.registry.methods.set name (.body ⟨st.nextBody, scope, m, h⟩) } }
        (⟨st.nextBody, scope, m, h⟩ :: made)
  | ordinary {st : Store} {made : List Body} (lived : Lifetime fits st made) (name : String)
      (m : OrdinaryMethod) :
      Lifetime fits { st with
        registry := { st.registry with methods := st.registry.methods.set name (.ordinary m) } } made
  | sequence {st : Store} {made : List Body} (lived : Lifetime fits st made) {seq : Sequence}
      (there : seq.handle ∈ st.held ++ st.cached) (name : String) :
      Lifetime fits { st with
        registry := { st.registry with sequences := st.registry.sequences.set name seq } } made
  | elsewhere {st st' : Store} {made : List Body} (lived : Lifetime fits st made)
      (definitions : st'.definitions = st.definitions) (installed : st'.installed = st.installed)
      (running : st'.running = st.running) (nextBody : st'.nextBody = st.nextBody)
      (handles : st'.registry.handles = st.registry.handles)
      (methods : st'.registry.methods = st.registry.methods)
      (sequences : st'.registry.sequences = st.registry.sequences) : Lifetime fits st' made
  | installed {st : Store} {made : List Body} (lived : Lifetime fits st made) {b : Body}
      {seq : Sequence} (known : st.Knows made b) (absent : st.sequence? b = none)
      (handle : seq.handle = b.handle) : Lifetime fits (st.install b seq) made
  | defined {st : Store} {made : List Body} (lived : Lifetime fits st made) {engine : Nat}
      {h : Handle} (fit : fits engine h) {scope : Scope}
      (absent : st.definition? engine scope = none) (parent : Option Module) :
      Lifetime fits
        (Interpreter.defining st engine (Interpreter.newBody st scope parent h)) made
  | called {st : Store} {made : List Body} (lived : Lifetime fits st made) {h : Handle}
      (reached : st.reaches h = true) : Lifetime fits (st.calling h.engine) made
  | returned {st : Store} {made : List Body} (lived : Lifetime fits st made) (engine : Nat) :
      Lifetime fits (st.back engine) made

/-! ## Identities -/

/-- The bodies that there are, are told apart by their identities, and what is installed is for one of
them and has its handle. -/
structure Identified (made : List Body) (st : Store) : Prop where
  numbered : ∀ b, st.Knows made b → b.id < st.nextBody
  identified : ∀ b b', st.Knows made b → st.Knows made b' → b.id = b'.id → b = b'
  installed : ∀ id seq, st.installed.get? id = some seq →
    ∃ b, st.Knows made b ∧ b.id = id ∧ seq.handle = b.handle

namespace Identified

variable {made : List Body} {st st' : Store} {b : Body}

theorem knows_of_same (definitions : st'.definitions = st.definitions) :
    st'.Knows made b ↔ st.Knows made b := by
  unfold Store.Knows Store.definition? Store.defined
  rw [definitions]

theorem of_same (h : Identified made st) (definitions : st'.definitions = st.definitions)
    (installed : st'.installed = st.installed) (ids : st.nextBody ≤ st'.nextBody) :
    Identified made st' where
  numbered b known := Nat.lt_of_lt_of_le (h.numbered b ((knows_of_same definitions).mp known)) ids
  identified b b' known known' :=
    h.identified b b' ((knows_of_same definitions).mp known) ((knows_of_same definitions).mp known')
  installed id seq found := by
    rw [installed] at found
    obtain ⟨b, known, rest⟩ := h.installed id seq found
    exact ⟨b, (knows_of_same definitions).mpr known, rest⟩

theorem grown (h : Identified made st) (new : b.id = st.nextBody) {knows : Body → Prop}
    (only : ∀ b', knows b' → b' = b ∨ st.Knows made b') :
    (∀ b', knows b' → b'.id < st.nextBody + 1) ∧
      ∀ b' b'', knows b' → knows b'' → b'.id = b''.id → b' = b'' := by
  constructor
  · intro b' known
    rcases only b' known with rfl | older
    · omega
    · exact Nat.lt_succ_of_lt (h.numbered b' older)
  · intro b' b'' known known' same
    rcases only b' known with rfl | older <;> rcases only b'' known' with rfl | older'
    · rfl
    · have lower := h.numbered b'' older'
      omega
    · have lower := h.numbered b' older
      omega
    · exact h.identified b' b'' older older' same

theorem knows_method {n : Nat} {b' : Body}
    (known : Store.Knows { st with nextBody := n } (b :: made) b') : b' = b ∨ st.Knows made b' := by
  rcases known with among | defined
  · exact (List.mem_cons.mp among).imp_right .inl
  · exact .inr (.inr defined)

theorem method (h : Identified made st) (new : b.id = st.nextBody) :
    Identified (b :: made) { st with nextBody := st.nextBody + 1 } := by
  obtain ⟨numbered, identified⟩ := h.grown new fun _ => knows_method
  refine ⟨numbered, identified, fun id seq found => ?_⟩
  obtain ⟨b', known, rest⟩ := h.installed id seq found
  exact ⟨b', known.imp_left (List.mem_cons_of_mem b), rest⟩

theorem install (h : Identified made st) (known : st.Knows made b) {seq : Sequence}
    (handle : seq.handle = b.handle) : Identified made (st.install b seq) where
  numbered := h.numbered
  identified := h.identified
  installed id seq' found := by
    rw [Store.install, Table.get?_set] at found
    split at found
    next same =>
      cases found
      exact ⟨b, known, same, handle⟩
    next => exact h.installed id seq' found

theorem found_defining {engine engine' : Nat} {scope scope' : Scope} {parent : Option Module}
    {handle : Handle} (found : (Interpreter.defining st engine
      (Interpreter.newBody st scope parent handle)).definition? engine' scope' = some b) :
    (b = Interpreter.newBody st scope parent handle ∧ engine = engine' ∧ scope.id = scope'.id) ∨
      st.definition? engine' scope' = some b := by
  rw [Interpreter.defining, Store.definition?_define] at found
  split at found
  next place => exact .inl ⟨(Option.some.inj found).symm, place⟩
  next => exact .inr found

theorem knows_defining {engine : Nat} {scope : Scope} {parent : Option Module} {handle : Handle}
    {b' : Body} (known : (Interpreter.defining st engine
      (Interpreter.newBody st scope parent handle)).Knows made b') :
    b' = Interpreter.newBody st scope parent handle ∨ st.Knows made b' := by
  rcases known with among | ⟨engine', scope', found⟩
  · exact .inr (.inl among)
  · exact (found_defining found).imp And.left fun older => .inr ⟨engine', scope', older⟩

/-- What an engine has defined before is still there when it defines something else. -/
theorem still_defining {engine engine' : Nat} {scope scope' : Scope} {b' : Body}
    (absent : st.definition? engine scope = none) (same : b'.scope.id = scope.id)
    (found : st.definition? engine' scope' = some b) :
    (Interpreter.defining st engine b').definition? engine' scope' = some b := by
  rw [Interpreter.defining, Store.definition?_define, if_neg]
  · exact found
  · rintro ⟨rfl, id⟩
    rw [Store.definition?, ← id, same] at found
    rw [Store.definition?, found] at absent
    cases absent

theorem define (h : Identified made st) {engine : Nat} {scope : Scope}
    (absent : st.definition? engine scope = none) (parent : Option Module) (handle : Handle) :
    Identified made
      (Interpreter.defining st engine (Interpreter.newBody st scope parent handle)) := by
  let b := Interpreter.newBody st scope parent handle
  obtain ⟨numbered, identified⟩ := @grown made st b h rfl _ fun _ => knows_defining
  refine ⟨numbered, identified, fun id seq found => ?_⟩
  obtain ⟨b', known, rest⟩ := h.installed id seq found
  refine ⟨b', ?_, rest⟩
  exact known.imp_right fun ⟨engine', scope', older⟩ =>
    ⟨engine', scope', still_defining absent rfl older⟩

theorem handle (h : Identified made st) (known : st.Knows made b) {seq : Sequence}
    (found : st.sequence? b = some seq) : seq.handle = b.handle := by
  obtain ⟨b', known', same, handle⟩ := h.installed b.id seq found
  rw [handle, h.identified b' b known' known same]

end Identified

/-! ## Caches hold no engine -/

/-- The session only names methods that it has made, and a body that an engine has defined has the
downgraded handle of a sequence that fits the engine. -/
structure Tidy (fits : Nat → Handle → Prop) (made : List Body) (st : Store) : Prop
    extends Identified made st where
  registered : ∀ name b, st.registry.methods.get? name = some (.body b) → b ∈ made
  engines : st.definitions.keys.Nodup
  scopes : ∀ engine, (st.defined engine).keys.Nodup
  defined : ∀ engine scope b, st.definition? engine scope = some b →
    ∃ h, fits engine h ∧ b.handle = h.downgrade

namespace Tidy

variable {fits : Nat → Handle → Prop} {made : List Body} {st st' : Store} {b : Body}

theorem start : Tidy fits [] {} where
  numbered b known := by
    rcases known with among | ⟨engine, scope, found⟩
    · cases among
    · cases found
  identified b b' known := by
    rcases known with among | ⟨engine, scope, found⟩
    · cases among
    · cases found
  registered _ _ found := by cases found
  engines := .nil
  scopes _ := .nil
  defined _ _ _ found := by cases found
  installed _ _ found := by cases found

theorem of_same (tidy : Tidy fits made st) (definitions : st'.definitions = st.definitions)
    (installed : st'.installed = st.installed) (nextBody : st'.nextBody = st.nextBody)
    (methods : ∀ name b, st'.registry.methods.get? name = some (.body b) → b ∈ made) :
    Tidy fits made st' where
  toIdentified := tidy.toIdentified.of_same definitions installed (Nat.le_of_eq nextBody.symm)
  registered := methods
  engines := definitions ▸ tidy.engines
  scopes engine := by
    rw [Store.defined, definitions]
    exact tidy.scopes engine
  defined engine scope b found := by
    rw [Store.definition?, Store.defined, definitions] at found
    exact tidy.defined engine scope b found

theorem method (tidy : Tidy fits made st) (new : b.id = st.nextBody) (name : String) :
    Tidy fits (b :: made) { st with
      nextBody := st.nextBody + 1
      registry := { st.registry with methods := st.registry.methods.set name (.body b) } } := by
  have grown := tidy.toIdentified.method new
  refine ⟨grown.of_same rfl rfl (Nat.le_refl _), fun name' b' found => ?_, tidy.engines,
    tidy.scopes, tidy.defined⟩
  rw [Table.get?_set] at found
  split at found
  · cases found
    exact List.mem_cons_self
  · exact List.mem_cons_of_mem b (tidy.registered name' b' found)

theorem install (tidy : Tidy fits made st) (known : st.Knows made b) {seq : Sequence}
    (handle : seq.handle = b.handle) : Tidy fits made (st.install b seq) where
  toIdentified := tidy.toIdentified.install known handle
  registered := tidy.registered
  engines := tidy.engines
  scopes := tidy.scopes
  defined := tidy.defined

theorem define (tidy : Tidy fits made st) {engine : Nat} {scope : Scope} {h : Handle}
    (fit : fits engine h) (absent : st.definition? engine scope = none) (parent : Option Module) :
    Tidy fits made
      (Interpreter.defining st engine (Interpreter.newBody st scope parent h)) := by
  refine ⟨tidy.toIdentified.define absent parent h, tidy.registered,
    Table.nodup_keys_set tidy.engines _ _, fun engine' => ?_, fun engine' scope' b' found => ?_⟩
  · rw [Interpreter.defining, Store.defined_define]
    split
    · exact Table.nodup_keys_set (tidy.scopes engine) _ _
    · exact tidy.scopes engine'
  · rcases Identified.found_defining found with ⟨rfl, rfl, -⟩ | older
    · exact ⟨h, fit, rfl⟩
    · exact tidy.defined engine' scope' b' older

theorem mem_cached (tidy : Tidy fits made st) {h : Handle} (there : h ∈ st.cached) :
    ∃ engine scope b, st.definition? engine scope = some b ∧ h ∈ st.handlesOf b := by
  obtain ⟨bodies, among, there⟩ := List.mem_flatMap.mp there
  obtain ⟨b, inside, there⟩ := List.mem_flatMap.mp there
  obtain ⟨engine, found⟩ := Table.get?_of_mem_values tidy.engines among
  have same : st.defined engine = bodies := by
    rw [Store.defined, found]
    rfl
  obtain ⟨id, found⟩ := Table.get?_of_mem_values (same ▸ tidy.scopes engine) inside
  refine ⟨engine, ⟨id, .classBody, "", "", 0⟩, b, ?_, there⟩
  rw [Store.definition?, same]
  exact found

/-- A handle in a cache is the downgraded handle of a body there, or of its sequence. -/
theorem cached_weak (tidy : Tidy fits made st) {h : Handle} (there : h ∈ st.cached) :
    h.owning = false := by
  obtain ⟨engine, scope, b, found, there⟩ := tidy.mem_cached there
  obtain ⟨h', -, weak⟩ := tidy.defined engine scope b found
  have same : h = b.handle := by
    rcases List.mem_cons.mp there with same | sequence
    · exact same
    · obtain ⟨seq, found', rfl⟩ := by simpa using sequence
      exact tidy.handle (.inr ⟨engine, scope, found⟩) found'
  rw [same, weak]
  rfl

theorem ordinary (tidy : Tidy fits made st) {name name' : String} {m : OrdinaryMethod}
    (found : (st.registry.methods.set name (.ordinary m)).get? name' = some (.body b)) :
    b ∈ made := by
  rw [Table.get?_set] at found
  split at found
  · cases found
  · exact tidy.registered name' b found

theorem forget (tidy : Tidy fits made st) (what : Holding) (name : String) {name' : String}
    (found : (PlainStep.forget what name st.registry).methods.get? name' = some (.body b)) :
    b ∈ made := by
  refine tidy.registered name' b ?_
  cases what with
  | engine => exact found
  | sequence => exact found
  | method =>
    have found : (st.registry.methods.erase name).get? name' = some (.body b) := found
    rw [Table.get?_erase] at found
    split at found
    · cases found
    · exact found

end Tidy

namespace Lifetime

variable {fits : Nat → Handle → Prop} {made : List Body} {st : Store} {h : Handle}

theorem tidy (lived : Lifetime fits st made) : Tidy fits made st := by
  induction lived with
  | start => exact .start
  | engine _ name tidy => exact tidy.of_same rfl rfl rfl tidy.registered
  | clone _ there name tidy => exact tidy.of_same rfl rfl rfl tidy.registered
  | downgrade _ there name tidy => exact tidy.of_same rfl rfl rfl tidy.registered
  | drop _ what name tidy => exact tidy.of_same rfl rfl rfl fun _ _ => tidy.forget what name
  | method _ there name scope m tidy => exact tidy.method rfl name
  | ordinary _ name m tidy => exact tidy.of_same rfl rfl rfl fun _ _ => tidy.ordinary
  | sequence _ there name tidy => exact tidy.of_same rfl rfl rfl tidy.registered
  | elsewhere _ definitions installed running nextBody handles methods sequences tidy =>
    exact tidy.of_same definitions installed nextBody (methods ▸ tidy.registered)
  | installed _ known absent handle tidy => exact tidy.install known handle
  | defined _ fit absent parent tidy => exact tidy.define fit absent parent
  | called _ reached tidy => exact tidy.of_same rfl rfl rfl tidy.registered
  | returned _ engine tidy => exact tidy.of_same rfl rfl rfl tidy.registered

/-- An engine is alive for nothing that engines have defined. -/
theorem alive_iff (lived : Lifetime fits st made) (engine : Nat) :
    st.alive engine = true ↔ st.Lives engine := by
  unfold Store.alive Store.Lives
  simp only [Bool.or_eq_true, List.contains_iff_mem, List.any_append, List.any_eq_true,
    Bool.and_eq_true, beq_iff_eq]
  constructor
  · rintro (called | outside | ⟨h, there, owning, -⟩)
    · exact .inl called
    · exact .inr outside
    · rw [lived.tidy.cached_weak there] at owning
      cases owning
  · rintro (called | outside)
    · exact .inl called
    · exact .inr (.inl outside)

end Lifetime

namespace Store

/-- Of the handles that there are, those reach an engine whose engines are alive. -/
theorem reaches_eq_alive {st : Store} {h : Handle} (there : h ∈ st.held ++ st.cached) :
    st.reaches h = st.alive h.engine := by
  cases owning : h.owning with
  | false => rw [reaches, owning, Bool.false_or]
  | true =>
    have alive : st.alive h.engine = true := by
      rw [alive, Bool.or_eq_true, List.any_eq_true]
      exact .inr ⟨h, there, by simp [owning]⟩
    rw [reaches, owning, alive, Bool.true_or]

end Store

/-! ## Runs go on with a history -/

/-- Sources hold no handles: a body that one asks for is among those that the session has. -/
def Handleless (source : Scope → Nat → Store → Lowering) : Prop :=
  ∀ scope n (st : Store), ∀ b ∈ (source scope n st).reentries.map Prod.fst,
    ∃ name, st.registry.methods.get? name = some (.body b)

theorem LoweringScript.reentries_registered {g : Registry} {l : LoweringScript} {b : Body}
    (among : b ∈ (l.lowering g).reentries.map Prod.fst) :
    ∃ name, g.methods.get? name = some (.body b) := by
  unfold lowering at among
  split at among
  next => cases among
  next name setup reentry =>
    cases named : g.body name with
    | error name =>
      rw [named] at among
      cases among
    | ok b' =>
      rw [named] at among
      obtain rfl := List.mem_singleton.mp among
      exact ⟨name, Registry.body_registered named⟩

theorem Registry.lowering_handleless : Handleless Registry.lowering := by
  intro scope n st b among
  unfold lowering at among
  split at among
  next source found =>
    cases source with
    | prepared l => cases among
    | scripted lowerings =>
      rw [Source.lowering] at among
      split at among
      next l nth => exact l.reentries_registered among
      next => cases among
  next => cases among

section

variable {source : Scope → Nat → Store → Lowering} (handleless : Handleless source)
  {fits : Nat → Handle → Prop} (made : List Body)

include handleless

theorem Tidy.asked {st : Store} (tidy : Tidy fits made st) {scope : Scope} {n : Nat} {b : Body}
    (among : b ∈ (source scope n st).reentries.map Prod.fst) : st.Knows made b := by
  obtain ⟨name, registered⟩ := handleless scope n st b among
  exact .inl (tidy.registered name b registered)

/-- A run of known bodies, and of sequences that fit, is a history too. -/
def Lifetime.invariant (own : ∀ h : Handle, fits h.engine h) : Invariant source where
  holds st := Lifetime fits st made
  known st b := st.Knows made b
  apt _ := True
  fits := fits
  part _ := True
  kept := Store.Knows.mono
  ready _ _ _ _ := ⟨own _, fun _ _ => trivial⟩
  found _ _ _ found := ⟨.inr ⟨_, _, found⟩, trivial⟩
  asked _ lived _ among := lived.tidy.asked handleless made among
  counted lived same := .elsewhere lived same.definitions same.installed same.running same.nextBody
    (congrArg _ same.registry) (congrArg _ same.registry) (congrArg _ same.registry)
  installed lived known absent _ _ answered := .installed lived known absent answered.handle
  defined parent _ lived fit _ absent := .defined lived fit absent parent
  called lived reached := .called lived reached
  returned engine lived := .returned lived engine

end

end BodyCall
