import BodyCall.Proofs.Visits

/-!
# The chronicle of a run

The incidents of a run, in the order in which they happen: bodies are invoked and made ready, sources
are asked, scopes are defined, and interpretations are left by failures. An incident has its records
in the log, and what it adds to the caches. A run logs and caches what its incidents bring, one after
the other, and nothing else, and it asks the sources that they ask.
-/

namespace BodyCall

open Eval

inductive Incident where
  | invoked (b : Body) (c : Call) (settings : Settings)
  /-- A source reads the settings for a request of its own. -/
  | reading (r : Reading)
  /-- The source of a body that is not ready is asked. -/
  | asked (b : Body)
  /-- A request with these settings makes a body ready. -/
  | installed (b : Body) (seq : Sequence) (settings : Settings)
  /-- A request finds that another one has made its body ready meanwhile. -/
  | overtaken (b : Body)
  | defined (engine : Nat) (b : Body)
  /-- An interpretation is left by a failure. -/
  | left (seq : Sequence) (cause : Cause)

namespace Incident

/-- What an incident leaves in the log. -/
def records : Incident → List LogRecord
  | invoked b c settings =>
    if settings.debug.execution then [.executing b.scope (b.shownName c.name)] else []
  | reading r => r.records
  | asked _ => []
  | installed b seq settings =>
    .materialized b.scope seq :: if settings.debug.ir then [.listed b.scope seq] else []
  | overtaken b => [.lostRace b.scope]
  | defined _ b => [.definedBody b.implementationClass]
  | left _ cause => [.bodyFailed cause]

/-- The sequence that an incident adds, under the identity of its body. -/
def installation : Incident → Option (Nat × Sequence)
  | installed b seq _ => some (b.id, seq)
  | _ => none

/-- The body that an incident adds to what an engine has defined, under the identity of its scope. -/
def definitionOn (engine : Nat) : Incident → Option (Nat × Body)
  | defined engine' b => if engine' = engine then some (b.scope.id, b) else none
  | _ => none

def invocation : Incident → Option (Body × Call × Settings)
  | invoked b c settings => some (b, c, settings)
  | _ => none

def leaving : Incident → Option (Sequence × Cause)
  | left seq cause => some (seq, cause)
  | _ => none

/-- The body whose source is asked. -/
def asking : Incident → Option Body
  | asked b => some b
  | _ => none

end Incident

/-- The records among some events, which come newest first, in the order of the log. -/
def logOf (events : List Event) : List LogRecord :=
  (events.filterMap fun
    | .logged r => some r
    | _ => none).reverse

theorem logOf_append (later earlier : List Event) :
    logOf (later ++ earlier) = logOf earlier ++ logOf later := by
  simp [logOf]

theorem logOf_logged (records : List LogRecord) :
    logOf (records.reverse.map .logged) = records := by
  rw [logOf, List.filterMap_map]
  change (records.reverse.filterMap some).reverse = records
  rw [List.filterMap_some, List.reverse_reverse]

theorem askedScopes_logged (records : List LogRecord) : askedScopes (records.map .logged) = [] := by
  rw [askedScopes, List.filterMap_map]
  exact List.filterMap_eq_nil_iff.mpr fun _ _ => rfl

/-- The scopes of the bodies whose sources are asked, newest first, as a trace has them. -/
def scopesAsked (l : List Incident) : List Scope :=
  ((l.filterMap Incident.asking).map (·.scope)).reverse

theorem scopesAsked_append (l l' : List Incident) :
    scopesAsked (l ++ l') = scopesAsked l' ++ scopesAsked l := by
  simp [scopesAsked]

/-- The incidents of a computation from each state. -/
abbrev Chronicle : Type := State → List Incident

namespace Eval

/-- One chronicle after another one, if there is a value to go on with. -/
def thenChronicle {α : Type} (first : Chronicle) (x : Eval α) (next : α → Chronicle) : Chronicle :=
  fun s =>
    first s ++
      match x s with
      | (some (.ok a), s') => next a s'
      | _ => []

/-! ## Making ready -/

section

variable (source : Scope → Nat → Store → Lowering) (ready : Body → Settings → Eval Sequence)
  (inner : Body → Settings → Chronicle)

def reentryChronicle (b : Body) (setup : Setup) : Chronicle := fun s =>
  .reading setup.read :: inner b setup.read.settings (logAll setup.read.records s).2

def reentriesChronicle : List (Body × Setup) → Chronicle
  | [] => fun _ => []
  | (b, setup) :: rest =>
    thenChronicle (reentryChronicle inner b setup) (reenter ready b setup)
      fun _ => reentriesChronicle rest

/-- The chronicle of asking the source of a body. -/
def askingChronicle (b : Body) : Chronicle := fun s =>
  let lowering := source b.scope (s.store.loweringCount b.scope) s.store
  .asked b :: reentriesChronicle ready inner lowering.reentries (s.asked b.scope)

end

def installChronicle (b : Body) (seq : Sequence) (settings : Settings) : Chronicle := fun s =>
  match s.store.sequence? b with
  | some _ => [.overtaken b]
  | none => [.installed b seq settings]

def readyChronicle (source : Scope → Nat → Store → Lowering) : Nat → Body → Settings → Chronicle
  | 0, _, _ => fun _ => []
  | depth + 1, b, settings => fun s =>
    match s.store.sequence? b with
    | some _ => []
    | none =>
      thenChronicle (askingChronicle source (readyAt source depth) (readyChronicle source depth) b)
        (prepare source (readyAt source depth) b.scope b.handle)
        (fun seq => installChronicle b seq settings) s

end Eval

/-! ## Running -/

/-- Where an invocation calls its engine: with which sequence and label, and in which state. -/
def Body.entrance? (r : Reach) (b : Body) (c : Call) (block : Block) (s : State) :
    Option (Sequence × String × State) :=
  match b.sequence r (b.announced c s), b.scope.label? with
  | (some (.ok seq), s₁), some label =>
    if seq.explicit || s₁.context.exceeded?.isNone then
      some (seq, label, b.opened c block label seq s₁)
    else none
  | _, _ => none

def Body.chronicle (r : Reach) (ready : Body → Settings → Chronicle)
    (inner : Handle → Invocation → Sequence → Chronicle) (b : Body) (c : Call) (block : Block) :
    Chronicle := fun s =>
  .invoked b c s.context.settings :: (ready b s.context.settings (b.announced c s) ++
    match b.entrance? r c block s with
    | some (seq, label, s₁) => inner seq.handle (invocation label c block) seq s₁
    | none => [])

/-- What a visit defines before it invokes the body of its scope. -/
def Visit.making (v : Visit) : List Incident :=
  match v.state.store.definition? v.engine v.scope with
  | some _ => []
  | none => [.defined v.engine v.body]

namespace Interpreter

variable (r : Reach) (inner : Body → Call → Block → Chronicle) (engine : Nat) (i : Invocation)
  (seq : Sequence)

def executeChronicle (s : State) : Instr → List Incident
  | .define scope =>
    let v : Visit := ⟨r, engine, i, seq, scope, s⟩
    v.making ++ inner v.body (definitionCall v.body) .absent v.opened
  | _ => []

def runChronicle : Nat → Value → List Instr → Chronicle
  | _, _, [] => fun _ => []
  | own, last, instr :: rest =>
    thenChronicle (fun s => executeChronicle r inner engine i seq s instr)
      (execute r engine i seq own last instr) fun (own', last') => runChronicle own' last' rest

/-- The incident of leaving a sequence in some way. -/
def leaving (seq : Sequence) : Outcome Value → List Incident
  | .failed f => [.left seq f.cause]
  | .ok _ | .panicked _ => []

def chronicle : Chronicle :=
  thenChronicle (runChronicle r inner engine i seq 0 .nil seq.instrs)
    (run r engine i seq 0 .nil seq.instrs) fun (o, _) _ => leaving seq o

end Interpreter

def Env.chronicleAt (source : Scope → Nat → Store → Lowering) :
    Nat → Handle → Invocation → Sequence → Chronicle
  | 0, _, _, _ => fun _ => []
  | depth + 1, h, i, seq => fun s =>
    if s.store.reaches h then
      let reach := (interpreting source).reach depth
      Interpreter.chronicle reach
        (Body.chronicle reach (readyChronicle source depth) (chronicleAt source depth)) h.engine i
        seq (s.held h.engine)
    else []

/-! ## What the incidents bring -/

/-- These are the incidents from one state to the other. -/
structure Chronicled (s : State) (l : List Incident) (s' : State) : Prop where
  trace : s.trace <:+ s'.trace
  log : logOf (s'.since s) = l.flatMap Incident.records
  installed : s'.store.installed.entries =
    s.store.installed.entries ++ l.filterMap Incident.installation
  defined : ∀ engine, (s'.store.defined engine).entries =
    (s.store.defined engine).entries ++ l.filterMap (Incident.definitionOn engine)
  asked : askedScopes (s'.since s) = scopesAsked l

namespace Chronicled

variable {s s₁ s' : State} {l l' : List Incident}

/-- Nothing is logged or cached, and no source is asked. -/
theorem silent (events : List Event) (trace : s'.trace = events ++ s.trace)
    (still : logOf events = []) (unasked : askedScopes events = [])
    (installed : s'.store.installed = s.store.installed)
    (definitions : s'.store.definitions = s.store.definitions) : Chronicled s [] s' where
  trace := ⟨events, trace.symm⟩
  log := by rw [State.since_of_append trace]; exact still
  installed := by rw [installed]; simp
  defined engine := by rw [Store.defined, definitions]; simp [Store.defined]
  asked := by rw [State.since_of_append trace]; exact unasked

theorem refl (s : State) : Chronicled s [] s := silent [] rfl rfl rfl rfl rfl

theorem trans (h : Chronicled s l s₁) (h' : Chronicled s₁ l' s') : Chronicled s (l ++ l') s' where
  trace := h.trace.trans h'.trace
  log := by
    rw [State.since_append h.trace h'.trace, logOf_append, h.log, h'.log, List.flatMap_append]
  installed := by rw [h'.installed, h.installed, List.filterMap_append, List.append_assoc]
  defined engine := by
    rw [h'.defined, h.defined, List.filterMap_append, List.append_assoc]
  asked := by
    rw [State.since_append h.trace h'.trace, askedScopes_append, h.asked, h'.asked,
      scopesAsked_append]

theorem after (h : Chronicled s [] s₁) (h' : Chronicled s₁ l s') : Chronicled s l s' := h.trans h'

theorem keep (h : Chronicled s l s₁) (h' : Chronicled s₁ [] s') : Chronicled s l s' := by
  have both := h.trans h'
  rw [List.append_nil] at both
  exact both

/-- Records are told, and nothing is cached. -/
theorem told (records : List LogRecord) {incident : Incident} (same : incident.records = records)
    (installs : incident.installation = none)
    (defines : ∀ engine, incident.definitionOn engine = none) (asks : incident.asking = none) :
    Chronicled s [incident] { s with trace := records.reverse.map .logged ++ s.trace } where
  trace := List.suffix_append _ _
  log := by
    rw [State.since_of_append rfl, logOf_logged]
    simp [same]
  installed := by simp [installs]
  defined engine := by simp [defines]
  asked := by
    rw [State.since_of_append rfl, askedScopes_logged]
    simp [scopesAsked, asks]

/-- The passage without an incident. -/
abbrev Uneventful : Passage := fun s _ s' => Chronicled s [] s'

theorem moving : Moving Uneventful where
  refl s _ := .refl s
  trans h h' := h.after h'
  moved _ m backtrace frames := silent [.moved m backtrace frames] rfl rfl rfl rfl rfl

variable {α β : Type} {x : Eval α} {k : α → Eval β}

/-- The chronicle of a computation that goes on with what another one comes to. -/
theorem bind {l : Chronicle} {next : α → Chronicle} (first : Chronicled s (l s) (x s).2)
    (later : ∀ a s₁, x s = (some (.ok a), s₁) → Chronicled s₁ (next a s₁) (k a s₁).2) :
    Chronicled s (thenChronicle l x next s) ((x >>= k) s).2 := by
  unfold thenChronicle
  rcases run : x s with ⟨_ | a | f | t, s₁⟩ <;> rw [run] at first
  · rw [bind_of_none run]
    exact first.trans (.refl s₁)
  · rw [bind_of_ok run]
    exact first.trans (later a s₁ run)
  · rw [bind_of_failed run]
    exact first.trans (.refl s₁)
  · rw [bind_of_panicked run]
    exact first.trans (.refl s₁)

theorem bind_uneventful (first : Chronicled s l (x s).2) (later : ∀ a, Keeps Uneventful (k a)) :
    Chronicled s l ((x >>= k) s).2 :=
  first.keep (Keeps.bind_after moving.toChained later s)

end Chronicled

namespace Eval

variable {source : Scope → Nat → Store → Lowering} {ready : Body → Settings → Eval Sequence}
  {inner : Body → Settings → Chronicle}

theorem logAll_run (records : List LogRecord) (s : State) :
    logAll records s =
      (some (.ok ()), { s with trace := records.reverse.map .logged ++ s.trace }) := by
  induction records generalizing s with
  | nil => rfl
  | cons r rest ih =>
    refine (ih { s with trace := .logged r :: s.trace }).trans ?_
    simp

/-- Requests have their chronicle told by `inner`. -/
def RequestsTold (ready : Body → Settings → Eval Sequence) (inner : Body → Settings → Chronicle) :
    Prop :=
  ∀ b settings s, Chronicled s (inner b settings s) (ready b settings s).2

theorem reenter_chronicled (told : RequestsTold ready inner) (b : Body) (setup : Setup)
    (s : State) : Chronicled s (reentryChronicle inner b setup s) (reenter ready b setup s).2 := by
  let s₀ : State := { s with trace := setup.read.records.reverse.map .logged ++ s.trace }
  have logged : logAll setup.read.records s = (some (.ok ()), s₀) := logAll_run _ s
  have read : Chronicled s [.reading setup.read] s₀ := .told _ rfl rfl (fun _ => rfl) rfl
  have inside := told b setup.read.settings s₀
  rw [reentryChronicle, reenter, bind_of_ok logged, logged]
  refine read.trans ?_
  rcases run : ready b setup.read.settings s₀ with ⟨_ | seq | f | t, s₁⟩ <;> rw [run] at inside
  · rw [bind_of_none (attempt_of_none run)]
    exact inside
  · rw [bind_of_ok (attempt_of_ended run)]
    exact inside.keep (.silent [.reentered (.ok seq)] rfl rfl rfl rfl rfl)
  · rw [bind_of_ok (attempt_of_ended run)]
    exact inside.keep (.silent [.reentered (.error f)] rfl rfl rfl rfl rfl)
  · rw [bind_of_ok (attempt_of_ended run)]
    exact inside

theorem reenterAll_chronicled (told : RequestsTold ready inner) (reentries : List (Body × Setup))
    (s : State) :
    Chronicled s (reentriesChronicle ready inner reentries s) (reenterAll ready reentries s).2 := by
  induction reentries generalizing s with
  | nil => exact .refl s
  | cons r rest ih => exact .bind (reenter_chronicled told r.1 r.2 s) fun _ s₁ _ => ih s₁

theorem lower_chronicled (told : RequestsTold ready inner) (b : Body) (s : State) :
    Chronicled s (askingChronicle source ready inner b s) (lower source ready b.scope s).2 := by
  have asked : Chronicled s [.asked b] (s.asked b.scope) :=
    ⟨List.suffix_cons _ _, by rw [State.since_asked]; rfl, (List.append_nil _).symm,
      fun engine => (List.append_nil _).symm, by rw [State.since_asked]; rfl⟩
  rw [lower_run]
  refine asked.trans (.bind_uneventful (reenterAll_chronicled told _ _) fun _ => ?_)
  exact .ofOutcome Chronicled.moving.toChained _

theorem prepare_chronicled (told : RequestsTold ready inner) (b : Body) (s : State) :
    Chronicled s (askingChronicle source ready inner b s)
      (prepare source ready b.scope b.handle s).2 := by
  refine .bind_uneventful (lower_chronicled told b s) fun answer => ?_
  cases answer with
  | error reason => exact .ofOutcome Chronicled.moving.toChained _
  | ok l => exact fun s => .silent [] rfl rfl rfl rfl rfl

theorem install_chronicled (b : Body) (seq : Sequence) (settings : Settings) (s : State) :
    Chronicled s (installChronicle b seq settings s) (install b seq settings s).2 := by
  unfold installChronicle
  cases found : s.store.sequence? b with
  | some winner =>
    rw [install_found found]
    exact .told [.lostRace b.scope] rfl rfl (fun _ => rfl) rfl
  | none =>
    have run : (install b seq settings s).2 =
        { s with
          store := s.store.install b seq
          trace := (Incident.installed b seq settings).records.reverse.map .logged ++ s.trace } := by
      rw [install, store_bind, found]
      unfold Incident.records
      cases listed : settings.debug.ir <;> simp [listed, updateStore, log, emit]
    have new : b.id ∉ s.store.installed.keys := (Table.get?_eq_none_iff _ _).mp found
    rw [run]
    refine ⟨List.suffix_append _ _, ?_, ?_, ?_, ?_⟩
    · rw [State.since_of_append rfl, logOf_logged]
      simp
    · exact Table.entries_set_of_new new seq
    · intro engine
      exact (List.append_nil _).symm
    · rw [State.since_of_append rfl, askedScopes_logged]
      rfl

theorem readyAt_chronicled (source : Scope → Nat → Store → Lowering) (depth : Nat) :
    RequestsTold (readyAt source depth) (readyChronicle source depth) := by
  induction depth with
  | zero => exact fun b settings s => .refl s
  | succ depth ih =>
    intro b settings s
    unfold readyChronicle
    cases found : s.store.sequence? b with
    | some seq =>
      rw [readyAt_found found]
      exact .refl s
    | none =>
      rw [readyAt_absent found]
      exact .bind (prepare_chronicled ih b s) fun seq s₁ _ => install_chronicled b seq settings s₁

end Eval

/-! ## The chronicle of an invocation -/

namespace Body

variable {r : Reach} {b : Body} {c : Call} {block : Block} {s : State}

theorem entrance?_unready {o : Option (Outcome Sequence)} {s₁ : State}
    (run : b.sequence r (b.announced c s) = (o, s₁)) (unready : ∀ seq, o ≠ some (.ok seq)) :
    b.entrance? r c block s = none := by
  unfold entrance?
  rw [run]
  split
  next h _ => exact absurd (Prod.mk.inj h).1 (unready _)
  next => rfl

section

variable {seq : Sequence} {s₁ : State}
  (ready : b.sequence r (b.announced c s) = (some (.ok seq), s₁))

include ready

theorem entrance?_refused (generic : seq.explicit = false) {max : Nat}
    (limit : s₁.context.exceeded? = some max) : b.entrance? r c block s = none := by
  rw [entrance?, ready]
  cases b.scope.label? with
  | none => rfl
  | some label => simp [generic, limit]

theorem entrance?_invalid (kind : b.scope.label? = none) : b.entrance? r c block s = none := by
  rw [entrance?, ready, kind]

theorem entrance?_run (room : s₁.Admits seq.explicit) {label : String}
    (kind : b.scope.label? = some label) :
    b.entrance? r c block s = some (seq, label, b.opened c block label seq s₁) := by
  have admitted : (seq.explicit || s₁.context.exceeded?.isNone) = true := by
    rcases room with explicit | room
    · rw [explicit, Bool.true_or]
    · rw [room, Option.isNone_none, Bool.or_true]
  rw [entrance?, ready, kind]
  exact if_pos admitted

end

/-- The outcome, once a failure has been given the backtrace that it lacks. -/
def Answers (inside outside : Option (Outcome Value)) : Prop :=
  ∃ stack, outside = inside.map (·.mapFailure (·.attach stack))

/-- Between making its body ready, calling the engine and its end, an invocation only moves. It ends
with the answer of the engine. -/
theorem entrance?_cases {T : Passage} (m : Moving T) (balanced : r.Keeps Balance) (b : Body)
    (c : Call) (block : Block) (s : State) :
    (b.entrance? r c block s = none ∧
      T (b.sequence r (b.announced c s)).2 true (b.invoke r c block s).2) ∨
    ∃ seq label s₁, b.entrance? r c block s = some (seq, label, s₁) ∧
      T (b.sequence r (b.announced c s)).2 true s₁ ∧
      T (r.interpret seq.handle (invocation label c block) seq s₁).2 true
        (b.invoke r c block s).2 ∧
      Answers (r.interpret seq.handle (invocation label c block) seq s₁).1
        (b.invoke r c block s).1 := by
  have framed (s : State) (explicit : Bool) (f : Frame) : T s true (s.framed explicit f) := by
    cases explicit with
    | true => exact m.refl s true
    | false => exact m.moved s _ _ _
  have unframed (s : State) (explicit : Bool) : T s true (s.unframed explicit) := by
    cases explicit with
    | true => exact m.refl s true
    | false => exact m.moved s _ _ _
  rcases run : b.sequence r (b.announced c s) with ⟨_ | seq | f | t, s₁⟩
  · rw [invoke, bind_of_ok (announce_run b c s), bind_of_none run]
    exact .inl ⟨entrance?_unready run (by simp), m.refl s₁ true⟩
  · rcases s₁.admits_or_refuses seq.explicit with room | ⟨generic, max, limit⟩
    · cases kind : b.scope.label? with
      | none =>
        rw [(Course.invalid run room kind).run balanced]
        exact .inl ⟨entrance?_invalid run kind, m.trans (framed s₁ _ _) (unframed _ _)⟩
      | some label =>
        refine .inr ⟨seq, label, _, entrance?_run run room kind,
          m.trans (framed s₁ _ _) (m.moved _ _ _ _), ?_⟩
        rcases ran : r.interpret seq.handle (invocation label c block) seq
          (b.opened c block label seq s₁) with ⟨_ | o, s₂⟩
        · rw [invoke_cut run room kind ran]
          exact ⟨m.refl s₂ true, [], rfl⟩
        · rw [(Course.interpreted run room kind ran).run balanced]
          exact ⟨m.trans (m.moved s₂ _ _ _) (unframed _ _), _, rfl⟩
    · rw [(Course.refused run generic limit).run balanced]
      exact .inl ⟨entrance?_refused run generic limit, m.moved s₁ _ _ _⟩
  · rw [(Course.unready run).run balanced]
    exact .inl ⟨entrance?_unready run (by simp), m.refl s₁ true⟩
  · rw [(Course.broken run).run balanced]
    exact .inl ⟨entrance?_unready run (by simp), m.refl s₁ true⟩

theorem announced_chronicled (b : Body) (c : Call) (s : State) :
    Chronicled s [.invoked b c s.context.settings] (b.announced c s) := by
  have told : b.announced c s =
      { s with trace :=
          (Incident.invoked b c s.context.settings).records.reverse.map .logged ++ s.trace } := by
    unfold announced Incident.records
    cases shown : s.context.settings.debug.execution <;> simp [shown]
  rw [told]
  exact .told _ rfl rfl (fun _ => rfl) rfl

end Body

variable {source : Scope → Nat → Store → Lowering} {depth : Nat}

/-- Calls of engines have their chronicle told by `inner`. -/
def CallsTold (source : Scope → Nat → Store → Lowering) (depth : Nat)
    (inner : Handle → Invocation → Sequence → Chronicle) : Prop :=
  ∀ h i seq s, Chronicled s (inner h i seq s)
    ((Env.interpreting source).interpretAt depth h i seq s).2

theorem Body.invoke_chronicled {inner : Handle → Invocation → Sequence → Chronicle}
    (told : CallsTold source depth inner) (b : Body) (c : Call) (block : Block) (s : State) :
    let reach := (Env.interpreting source).reach depth
    Chronicled s (b.chronicle reach (readyChronicle source depth) inner c block s)
      (b.invoke reach c block s).2 := by
  intro reach
  have announced := b.announced_chronicled c s
  have ready := readyAt_chronicled source depth b s.context.settings (b.announced c s)
  have sequence : b.sequence reach (b.announced c s) =
      readyAt source depth b s.context.settings (b.announced c s) := by
    rw [b.sequence_run, announced_context]
  rw [← sequence] at ready
  refine announced.trans (ready.trans ?_)
  rcases entrance?_cases Chronicled.moving (Balance.reach source depth) b c block s with
    ⟨none, still⟩ | ⟨seq, label, s₁, entrance, before, after, -⟩
  · rw [none]
    exact still
  · rw [entrance]
    exact (before.after (told _ _ _ _)).keep after

/-! ## The chronicle of a run -/

theorem Visit.opened_chronicled (v : Visit) : Chronicled v.state v.making v.opened := by
  have told : Chronicled v.state [] v.told :=
    .silent [.defining v.engine v.scope] rfl rfl rfl rfl rfl
  refine told.after ?_
  unfold making opened
  cases found : v.state.store.definition? v.engine v.scope with
  | some b =>
    rw [Interpreter.bodyFor_known (s := v.told) found]
    exact .refl v.told
  | none =>
    have new : v.scope.id ∉ (v.state.store.defined v.engine).keys :=
      (Table.get?_eq_none_iff _ _).mp found
    let b : Body := Interpreter.newBody v.state.store v.scope v.parent? v.seq.handle
    rw [body_of_absent found, Interpreter.bodyFor_absent (s := v.told) found]
    refine ⟨List.suffix_cons _ _, ?_, (List.append_nil _).symm, ?_, ?_⟩
    · rw [State.since_of_append (List.singleton_append).symm]
      rfl
    · intro engine
      change ((Interpreter.defining v.state.store v.engine b).defined engine).entries =
        (v.state.store.defined engine).entries ++
          [Incident.defined v.engine b].filterMap (Incident.definitionOn engine)
      rw [Interpreter.defining, Store.defined_define]
      by_cases here : v.engine = engine
      · subst here
        have added : (Incident.defined v.engine b).definitionOn v.engine = some (b.scope.id, b) :=
          if_pos rfl
        rw [if_pos rfl, List.filterMap_cons_some added]
        exact Table.entries_set_of_new new b
      · have elsewhere : (Incident.defined v.engine b).definitionOn engine = none := if_neg here
        rw [if_neg here, List.filterMap_cons_none elsewhere]
        exact (List.append_nil _).symm
    · rw [State.since_of_append (List.singleton_append).symm]
      rfl

namespace Interpreter

variable {inner : Body → Call → Block → Chronicle} {engine : Nat} {i : Invocation} {seq : Sequence}
  {r : Reach}

/-- Invocations have their chronicle told by `inner`. -/
def InvocationsTold (r : Reach) (inner : Body → Call → Block → Chronicle) : Prop :=
  ∀ (b : Body) c block s, Chronicled s (inner b c block s) (b.invoke r c block s).2

theorem execute_chronicled (told : InvocationsTold r inner) (own : Nat) (last : Value)
    (instr : Instr) (s : State) : Chronicled s (executeChronicle r inner engine i seq s instr)
      (execute r engine i seq own last instr s).2 := by
  have m := Chronicled.moving
  have c := m.toChained
  cases instr with
  | line n => exact .silent [] rfl rfl rfl rfl rfl
  | put v => exact .refl s
  | putSelf => exact .refl s
  | raise message => exact .refl s
  | pushFrame => exact Keeps.bind c (.pushFrame m _) (fun _ => .pure c _) s
  | popFrame =>
    cases own with
    | zero => exact .refl s
    | succ own => exact Keeps.bind c (.popFrame m) (fun _ => .pure c _) s
  | define scope =>
    let v : Visit := ⟨r, engine, i, seq, scope, s⟩
    have visited : Chronicled s (executeChronicle r inner engine i seq s (.define scope))
        v.run.2 := by
      rw [v.run_eq]
      exact v.opened_chronicled.trans (told _ _ _ _)
    exact visited.bind_uneventful fun value => .pure c (own, value)

theorem run_chronicled (told : InvocationsTold r inner) (own : Nat) (last : Value)
    (instrs : List Instr) (s : State) :
    Chronicled s (runChronicle r inner engine i seq own last instrs s)
      (run r engine i seq own last instrs s).2 := by
  induction instrs generalizing own last s with
  | nil => exact .refl s
  | cons instr rest ih =>
    have first : Chronicled s (executeChronicle r inner engine i seq s instr)
        (execute r engine i seq own last instr s).2 := execute_chronicled told own last instr s
    unfold runChronicle thenChronicle
    rcases step : execute r engine i seq own last instr s with ⟨_ | ⟨own', last'⟩ | f | t, s₁⟩ <;>
      rw [step] at first
    · rw [run_of_none step]
      exact first.trans (.refl s₁)
    · rw [run_of_ok step]
      exact first.trans (ih own' last' s₁)
    · rw [run_of_failed step]
      exact first.trans (.refl s₁)
    · rw [run_of_panicked step]
      exact first.trans (.refl s₁)

theorem report_chronicled (o : Outcome Value) (s : State) :
    Chronicled s (leaving seq o) (report o s).2 := by
  rw [report_run]
  cases o with
  | ok v => exact .refl s
  | panicked t => exact .refl s
  | failed f => exact .told [.bodyFailed f.cause] rfl rfl (fun _ => rfl) rfl

theorem interpret_chronicled (told : InvocationsTold r inner) (s : State) :
    Chronicled s (chronicle r inner engine i seq s) (interpret r engine i seq s).2 := by
  have m := Chronicled.moving
  refine (run_chronicled told 0 .nil seq.instrs s).bind fun result s₁ _ => ?_
  obtain ⟨o, own⟩ := result
  refine (report_chronicled o s₁).bind_uneventful fun _ => ?_
  exact .ensuring m.toChained (.ofOutcome m.toChained o) (.popFrames m own)

end Interpreter

theorem Env.chronicleAt_told (source : Scope → Nat → Store → Lowering) (depth : Nat) :
    CallsTold source depth (chronicleAt source depth) := by
  induction depth with
  | zero => exact fun h i seq s => .refl s
  | succ depth ih =>
    intro h i seq s
    unfold chronicleAt
    cases reached : s.store.reaches h with
    | false =>
      rw [interpretAt_gone reached]
      exact .refl s
    | true =>
      have held : Chronicled s [] (s.held h.engine) := .silent [] rfl rfl rfl rfl rfl
      let reach := (interpreting source).reach depth
      have inside : Chronicled (s.held h.engine) (Interpreter.chronicle reach
          (Body.chronicle reach (readyChronicle source depth) (chronicleAt source depth)) h.engine i
          seq (s.held h.engine)) (Interpreter.interpret reach h.engine i seq (s.held h.engine)).2 :=
        Interpreter.interpret_chronicled (Body.invoke_chronicled ih) (s.held h.engine)
      rw [if_pos rfl, interpretAt_reached reached]
      refine held.after ?_
      rcases run : Interpreter.interpret ((interpreting source).reach depth) h.engine i seq
        (s.held h.engine) with ⟨_ | o, s₁⟩ <;> rw [run] at inside
      · rw [holding_of_none run]
        exact inside
      · rw [holding_of_ended run]
        exact inside.keep (.silent [] rfl rfl rfl rfl rfl)

end BodyCall
