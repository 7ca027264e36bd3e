import BodyCall.Proofs.Catalog
import BodyCall.Proofs.Lifetime
import BodyCall.Proofs.SessionScopes
import BodyCall.Session.Perform

/-!
# Sessions live through histories

Whatever a script does to the store is a part of some history, if all engines are interpreters: each
step makes, clones, downgrades or drops something, runs what is there, or leaves alone what histories
are about. Bodies are only ever called by the names that they were made under, so the history knows
them. Sequences are only run by their names too, so the definitions that runs come to are of scopes
that the session has made.
-/

namespace BodyCall

open Eval

/-- The system of a session in which every engine is an interpreter. -/
abbrev Reach.session (depth : Nat) : Reach := (Env.interpreting Registry.lowering).reach depth

/-- In a history in which engines run any sequences. -/
abbrev Store.Lived (st : Store) (made : List Body) : Prop := Lifetime (fun _ _ => True) st made

/-- What a session has made so far, and the definitions that its runs have come to. -/
structure Past where
  made : List Body := []
  scopes : List Scope := []
  visits : List Visit := []

/-- The store has come about so. -/
structure Store.After (st : Store) (past : Past) : Prop where
  lived : st.Lived past.made
  within : Scoped past.scopes st
  history : ∀ engine, History engine past.visits st
  visited : ∀ v ∈ past.visits, v.scope ∈ past.scopes

theorem Store.After.start : Store.After {} {} :=
  ⟨.start, .start, fun _ => .start rfl, fun _ => nofun⟩

/-- Nothing has been made or visited meanwhile. -/
theorem Store.After.elsewhere {st st' : Store} {past : Past} (h : st.After past)
    (lived : st'.Lived past.made) (within : Scoped past.scopes st') (kept : st.Kept st') :
    st'.After past :=
  ⟨lived, within, fun engine => (h.history engine).elsewhere kept, h.visited⟩

/-- The history goes on, with all that there was and possibly more. -/
abbrev GoesOn : Passage := fun s _ s' => ∀ past, s.store.After past → ∃ past', s'.store.After past'

namespace GoesOn

theorem of_after {s s' : State} {ended : Bool}
    (h : ∀ past, s.store.After past → s'.store.After past) : GoesOn s ended s' :=
  fun past after => ⟨past, h past after⟩

theorem working : Working GoesOn where
  refl _ _ := of_after fun _ => id
  trans h h' past after :=
    have ⟨past', after'⟩ := h past after
    h' past' after'
  told _ _ _ := of_after fun _ => id
  line _ _ := of_after fun _ => id
  moved _ _ _ _ := of_after fun _ => id

theorem chained : Chained GoesOn := working.toChained

end GoesOn

/-! ## Names -/

theorem Store.handle_held {st : Store} {name : String} {h : Handle}
    (found : st.registry.handles.find name = .ok h) : h ∈ st.held ++ st.cached := by
  have there : h ∈ st.registry.handles.values := Table.mem_values (Table.find_ok found)
  simp [held, Registry.held, there]

/-- The registries name the same objects, except for modules. -/
structure Registry.Alike (g g' : Registry) : Prop where
  handles : g'.handles = g.handles
  methods : g'.methods = g.methods
  sequences : g'.sequences = g.sequences
  scopes : g'.scopes = g.scopes
  sources : g'.sources = g.sources

namespace Registry.Alike

variable {g g' g'' : Registry}

theorem refl (g : Registry) : g.Alike g := ⟨rfl, rfl, rfl, rfl, rfl⟩

theorem trans (h : g.Alike g') (h' : g'.Alike g'') : g.Alike g'' :=
  ⟨h'.handles.trans h.handles, h'.methods.trans h.methods, h'.sequences.trans h.sequences,
    h'.scopes.trans h.scopes, h'.sources.trans h.sources⟩

theorem noteModule (g : Registry) (m : Module) : g.Alike (g.noteModule m) := by
  unfold Registry.noteModule
  split
  · exact .refl g
  · exact ⟨rfl, rfl, rfl, rfl, rfl⟩

theorem noteModules (ms : List Module) (g : Registry) :
    g.Alike (ms.foldl Registry.noteModule g) := by
  induction ms generalizing g with
  | nil => exact .refl g
  | cons m rest ih => exact (noteModule g m).trans (ih (g.noteModule m))

end Registry.Alike

/-! ## Changes of the store -/

namespace GoesOn

variable {α : Type} {s : State}

/-- A change that makes no body and no scope. -/
theorem updateStore {g : Store → Store} (lived : ∀ st made, st.Lived made → (g st).Lived made)
    (within : ∀ st scopes, Scoped scopes st → Scoped scopes (g st))
    (kept : ∀ st : Store, st.Kept (g st)) : Keeps GoesOn (updateStore g) := by
  intro s
  refine of_after fun past after => ?_
  exact after.elsewhere (lived s.store past.made after.lived)
    (within s.store past.scopes after.within) (kept s.store)

theorem updateRegistry {g : Registry → Registry} (alike : ∀ r : Registry, r.Alike (g r)) :
    Keeps GoesOn (updateRegistry g) := by
  refine updateStore (fun st _ lived => ?_) (fun st _ within => ?_) fun _ => ⟨rfl, Nat.le_refl _⟩
  · have same := alike st.registry
    exact .elsewhere lived rfl rfl rfl rfl same.handles same.methods same.sequences
  · have same := alike st.registry
    exact within.of_same (Nat.le_refl _) same.scopes same.sources same.sequences rfl

theorem freshModule : Keeps GoesOn freshModule := fun _ =>
  of_after fun _ after => after.elsewhere (.elsewhere after.lived rfl rfl rfl rfl rfl rfl rfl)
    (after.within.of_same (Nat.le_refl _) rfl rfl rfl rfl) ⟨rfl, Nat.le_refl _⟩

theorem settle (setup : Setup) : Keeps GoesOn (settle setup) :=
  .bind chained (.logAll working.toTelling _) fun _ => .pure chained _

theorem noteModules (ms : List Module) :
    Keeps GoesOn (Eval.updateRegistry fun g => ms.foldl Registry.noteModule g) :=
  updateRegistry (Registry.Alike.noteModules ms)

/-! ## Runs -/

/-- The histories with these bodies and scopes, kept by whatever a session runs. -/
abbrev kept (past : Past) : Invariant Registry.lowering :=
  (@Lifetime.invariant _ Registry.lowering_handleless (fun _ _ => True) past.made
    fun _ => trivial).and (Scoped.invariant past.scopes)

variable {past : Past} {depth : Nat}

theorem known (after : s.store.After past) {name : String} {b : Body}
    (registered : s.store.registry.methods.get? name = some (.body b)) :
    (kept past).known s.store b :=
  ⟨.inl (after.lived.tidy.registered name b registered), trivial⟩

/-- A run that comes to no definition. -/
theorem of_kept {bodies : List Body} {x : Eval α}
    (keeps : ∀ past, Keeps ((kept past).Passing bodies) x) (between : Keeps Between x)
    (among : ∀ b ∈ bodies, ∃ name, s.store.registry.methods.get? name = some (.body b)) :
    GoesOn s (x s).1.isSome (x s).2 := by
  refine of_after fun past after => ?_
  have carried := keeps past s ⟨after.lived, after.within⟩ fun b here =>
    have ⟨_, registered⟩ := among b here
    known after registered
  exact after.elsewhere carried.holds.1 carried.holds.2 (between s)

/-- A run adds the definitions that it comes to. -/
theorem of_visits {ended : Bool} {s' : State} {visits : List Visit}
    (runs : ∀ past, s.store.After past → (kept past).Carried s.store ended s'.store ∧
      ∀ v ∈ visits, (kept past).Met s.store v)
    (history : ∀ engine vs, History engine vs s.store → History engine (vs ++ visits) s'.store) :
    GoesOn s ended s' := by
  intro past after
  obtain ⟨carried, met⟩ := runs past after
  refine ⟨{ past with visits := past.visits ++ visits }, carried.holds.1, carried.holds.2,
    fun engine => history engine past.visits (after.history engine), fun v among => ?_⟩
  rcases List.mem_append.mp among with before | here
  · exact after.visited v before
  · exact (met v here).part.2

theorem lower (scope : Scope) :
    Keeps GoesOn (Eval.lower Registry.lowering (Reach.session depth).ready scope) := fun _ =>
  of_kept (fun _ => Invariant.lower (Invariant.readyAt _ depth) scope)
    (.lower Between.preparing (.readyAt Between.preparing depth) scope) fun _ => nofun

theorem interpret {name : String} {seq : Sequence}
    (found : s.store.registry.sequences.get? name = some seq) (h : Handle) (i : Invocation) :
    GoesOn s ((Reach.session depth).interpret h i seq s).1.isSome
      ((Reach.session depth).interpret h i seq s).2 := by
  refine of_visits (fun past after => ?_) fun engine vs history =>
    history.interpreted Registry.lowering depth h i seq
  let I := kept past
  have holds : I.holds s.store := ⟨after.lived, after.within⟩
  have fits : I.fits h.engine seq.handle := ⟨trivial, trivial⟩
  have stays : seq.StaysIn I.part :=
    fun scope among => ⟨trivial, after.within.sequences name seq found scope among⟩
  exact ⟨(I.reach depth).interpret h i seq fits stays s holds nofun,
    I.metWithin depth h i seq s holds fits stays⟩

theorem holdingHandle {h : Handle} {x : Eval α}
    (here : GoesOn s (x s).1.isSome (x s).2)
    (inside : GoesOn (s.held h.engine) (x (s.held h.engine)).1.isSome (x (s.held h.engine)).2) :
    GoesOn s (holdingHandle h x s).1.isSome (holdingHandle h x s).2 := by
  unfold Eval.holdingHandle
  split
  next owning =>
    have reached : s.store.reaches h = true := by rw [Store.reaches, owning, Bool.true_or]
    have called : GoesOn s true (s.held h.engine) := of_after fun past after =>
      after.elsewhere (after.lived.called reached)
        (after.within.of_same (Nat.le_refl _) rfl rfl rfl rfl) ⟨rfl, Nat.le_refl _⟩
    rcases run : x (s.held h.engine) with ⟨_ | o, s₁⟩ <;> rw [run] at inside
    · rw [holding_of_none run]
      exact working.trans called inside
    · rw [holding_of_ended run]
      refine working.trans (working.trans called inside) (of_after fun past after => ?_)
      exact after.elsewhere (after.lived.returned h.engine)
        (after.within.of_same (Nat.le_refl _) rfl rfl rfl rfl) ⟨rfl, Nat.le_refl _⟩
  next => exact here

/-- A method that was just looked up is called. -/
theorem call {name : String} {m : Method} (found : s.store.registry.methods.find name = .ok m)
    (entry : EntryPoint) (c : Call) (args : List Value) (block : Block) :
    GoesOn s (m.call (Reach.session depth) entry c args block s).1.isSome
      (m.call (Reach.session depth) entry c args block s).2 := by
  cases m with
  | body b =>
    refine of_visits (fun past after => ?_) fun engine vs history =>
      history.invoked Registry.lowering depth b c (entry.block block)
    let I := kept past
    have holds : I.holds s.store := ⟨after.lived, after.within⟩
    have b_known : I.known s.store b := known after (Table.find_ok found)
    exact ⟨Invariant.invoke (I.reach depth) holds b_known ⟨trivial, trivial⟩ c _,
      Invariant.invoke_met (I.metWithin depth) holds b_known ⟨trivial, trivial⟩ c _⟩
  | ordinary m =>
    have told : Keeps GoesOn (Method.call (Reach.session depth) (.ordinary m) entry c args block) :=
      .bind chained (.read chained _) fun _ =>
        .bind chained (.bind chained (noteModules _) fun _ => .emit working.toTelling rfl) fun _ =>
          .pure chained _
    exact told s

end GoesOn

/-! ## Steps -/

namespace PlainStep

variable {depth : Nat}

theorem makeModule_goes_on (name : String) (kind : ModuleKind) (shownAs : String)
    (parent : Option String) : Keeps GoesOn (makeModule name kind shownAs parent) := by
  have c := GoesOn.chained
  have made (parent : Option Module) : Keeps GoesOn do
      let m := Module.nested parent (← Eval.freshModule) shownAs kind
      Eval.updateRegistry (·.nameModule name m)
      return Answer.nothing := by
    refine .bind c GoesOn.freshModule fun _ => .bind c ?_ fun _ => .pure c _
    exact GoesOn.updateRegistry fun _ => ⟨rfl, rfl, rfl, rfl, rfl⟩
  cases parent with
  | none => exact .bind c (.pure c _) made
  | some parent => exact .bind c (.bind c (.resolve c _) fun m => .pure c (some m)) made

/-- The identity of a new scope is the next one. -/
theorem makeScope_goes_on (name : String) (l : ScopeLiteral) :
    Keeps GoesOn (makeScope name l) := by
  intro s
  refine Keeps.resolved GoesOn.chained fun source found => ?_
  intro past after
  let scope : Scope := ⟨s.store.nextScope, l.kind, l.name, l.file, l.line⟩
  have new : scope.id = s.store.nextScope := rfl
  have stays (code : Lowered) (prepared : source = .prepared code) :
      code.StaysIn (· ∈ past.scopes) := after.within.source (prepared ▸ found)
  refine ⟨{ past with scopes := scope :: past.scopes },
    .elsewhere after.lived rfl rfl rfl rfl rfl rfl rfl, after.within.scope new stays name,
    fun engine => ?_, fun v among => ?_⟩
  · exact (after.history engine).elsewhere ⟨rfl, Nat.le_refl _⟩
  · exact List.mem_cons_of_mem scope (after.visited v among)

/-- A new engine comes with an owning handle, whatever else is noted about it. -/
theorem newEngine_goes_on (name : String) {g : Nat → Registry → Registry}
    (alike : ∀ engine r,
      { r with handles := r.handles.set name ⟨engine, true⟩ : Registry }.Alike (g engine r)) :
    Keeps GoesOn do
      let engine ← Eval.freshEngine
      Eval.updateRegistry (g engine)
      return Answer.nothing := by
  refine fun s => GoesOn.of_after fun past after => ?_
  have same := alike s.store.nextEngine s.store.registry
  refine after.elsewhere ?_ ?_ ⟨rfl, Nat.le_refl _⟩
  · exact .elsewhere (after.lived.engine name) rfl rfl rfl rfl same.handles same.methods
      same.sequences
  · exact after.within.of_same (Nat.le_refl _) same.scopes same.sources same.sequences rfl

theorem downgrade_goes_on (engine name : String) (r : Reach) :
    Keeps GoesOn ((downgrade engine name).run r) := by
  intro s
  refine Keeps.resolved GoesOn.chained fun h found => GoesOn.of_after fun past after => ?_
  exact after.elsewhere (after.lived.downgrade (Store.handle_held found) name)
    (after.within.of_same (Nat.le_refl _) rfl rfl rfl rfl) ⟨rfl, Nat.le_refl _⟩

theorem makeBody_goes_on (name scope implementationClass engine : String) :
    Keeps GoesOn (makeBody name scope implementationClass engine) := by
  intro s
  have c := GoesOn.chained
  refine Keeps.resolved c fun scope _ => Keeps.resolved c fun m _ => Keeps.resolved c fun h found => ?_
  intro past after
  exact ⟨{ past with made := ⟨s.store.nextBody, scope, m, h⟩ :: past.made },
    after.lived.method (Store.handle_held found) name scope m,
    after.within.of_same (Nat.le_refl _) rfl rfl rfl rfl,
    fun engine => (after.history engine).elsewhere ⟨rfl, Nat.le_succ _⟩, after.visited⟩

theorem makeReady_goes_on (name : String) (setup : Setup) :
    Keeps GoesOn (makeReady (Reach.session depth) name setup) := by
  intro s
  refine Keeps.resolved GoesOn.chained fun b found => ?_
  have ready {T : Passage} (w : Telling T)
      (made : ∀ settings, Keeps T ((Reach.session depth).ready b settings)) :
      Keeps T do return Answer.ready (← (Reach.session depth).ready b (← Eval.settle setup)) := by
    have c := w.toChained
    refine .bind c (.bind c (.logAll w _) fun _ => .pure c _) fun settings => ?_
    exact .bind c (made settings) fun _ => .pure c _
  have named : ∀ b' ∈ [b], ∃ name, s.store.registry.methods.get? name = some (.body b') :=
    List.forall_mem_singleton.mpr ⟨name, Registry.body_registered found⟩
  refine GoesOn.of_kept (fun past => ?_) ?_ named
  · exact ready ((GoesOn.kept past).working [b]).toTelling fun settings =>
      Invariant.readyAt _ depth b settings
  · exact ready Between.preparing.toTelling fun settings =>
      .readyAt Between.preparing depth b settings

theorem makeSequence_goes_on (name scope engine : String) :
    Keeps GoesOn (makeSequence (Reach.session depth) name scope engine) := by
  intro s
  have c := GoesOn.chained
  refine Keeps.resolved c fun scope _ => Keeps.resolved c fun h found => ?_
  let x : Eval Sequence := Eval.prepare Registry.lowering (Reach.session depth).ready scope h
  have keeps (past : Past) : Keeps ((GoesOn.kept past).Passing []) x :=
    Invariant.prepare (Invariant.readyAt _ depth) scope h
  have between : Keeps Between x :=
    .prepare Between.preparing (.readyAt Between.preparing depth) scope h
  have prepared : GoesOn s (x s).1.isSome (x s).2 := GoesOn.of_kept keeps between nofun
  rcases run : x s with ⟨_ | seq | f | t, s₁⟩ <;> rw [run] at prepared
  · rw [bind_of_none run]
    exact prepared
  · rw [bind_of_ok run]
    refine GoesOn.of_after fun past after => ?_
    have carried := keeps past s ⟨after.lived, after.within⟩ nofun
    have kept := between s
    rw [run] at carried kept
    obtain ⟨lived, within⟩ := carried.holds
    have answered := Invariant.prepare_answers run
    obtain ⟨n, answer⟩ := answered.result
    have there : seq.handle ∈ s₁.store.held ++ s₁.store.cached := by
      rw [answered.handle]
      exact Store.handle_held (carried.before.registry ▸ found)
    exact after.elsewhere (lived.sequence there name)
      (within.sequence (after.within.answers answer) name) ⟨kept.definitions, kept.ids⟩
  · rw [bind_of_failed run]
    exact prepared
  · rw [bind_of_panicked run]
    exact prepared

theorem goes_on (p : PlainStep) : Keeps GoesOn (p.run (Reach.session depth)) := by
  have w := GoesOn.working
  have c := w.toChained
  cases p with
  | module name kind shownAs parent => exact makeModule_goes_on name kind shownAs parent
  | scope name l => exact makeScope_goes_on name l
  | interpreter name observed =>
    exact newEngine_goes_on name fun _ _ => ⟨rfl, rfl, rfl, rfl, rfl⟩
  | downgrade engine name => exact downgrade_goes_on engine name _
  | method name scope m engine => exact makeBody_goes_on name scope m engine
  | ensure name setup => exact makeReady_goes_on name setup
  | sequence name scope engine => exact makeSequence_goes_on name scope engine
  | drop what name =>
    refine .bind c (GoesOn.updateStore (fun _ _ lived => lived.drop what name)
      (fun _ _ within => within.forget what name) fun _ => ⟨rfl, Nat.le_refl _⟩) fun _ => ?_
    exact .pure c _
  | ordinary name l =>
    refine .bind c (.resolve c _) fun m => ?_
    refine .bind c (GoesOn.updateStore (fun _ _ lived => lived.ordinary name _)
      (fun _ _ within => ?_) fun _ => ⟨rfl, Nat.le_refl _⟩) fun _ => .pure c _
    exact within.of_same (Nat.le_refl _) rfl rfl rfl rfl
  | lower scope =>
    refine .bind c (.resolve c _) fun scope => .bind c (GoesOn.lower scope) fun answer => ?_
    cases answer <;> exact .pure c _
  | lowered scope =>
    refine .bind c (.resolve c _) fun scope => .bind c (.read c _) fun st => ?_
    split <;> exact .pure c _
  | definedBodies engine =>
    refine .bind c (.read c _) fun st => ?_
    split <;> exact .pure c _
  | scopeInfo scope other =>
    cases other with
    | none => exact .bind c (.resolve c _) fun _ => .pure c _
    | some other =>
      exact .bind c (.resolve c _) fun _ => .bind c (.resolve c _) fun _ => .pure c _
  | reflect name =>
    refine .bind c (.resolve c _) fun method => ?_
    cases method with
    | body b => exact .bind c (.read c _) fun _ => .pure c _
    | ordinary m => exact .pure c _
  | same a b => exact .bind c (.resolve c _) fun _ => .bind c (.resolve c _) fun _ => .pure c _
  | describe _ | showValue _ | showInstr _ | describeEngine _ =>
    exact .bind c (.resolve c _) fun _ => .pure c _
  | setLine n => exact .bind c (.setLine w n) fun _ => .pure c _
  | pushEntry e => exact .bind c (.pushEntry w.toMoving e) fun _ => .pure c _
  | popEntry => exact .bind c (.popEntry w.toMoving) fun _ => .pure c _
  | capture | state => exact .bind c (.read c _) fun _ => .pure c _
  | attach f => exact .bind c (.bind c (.read c _) fun _ => .pure c _) fun _ => .pure c _
  | pushFrame f =>
    refine .bind c (.resolve c _) fun f => ?_
    exact .bind c (.pushFrame w.toMoving f) fun _ => .pure c _
  | popFrame => exact .bind c (.popFrame w.toMoving) fun _ => .pure c _

end PlainStep

/-! ## Scripts -/

section

variable {depth : Nat}

theorem CallLiteral.goes_on (l : CallLiteral) : Keeps GoesOn (l.run (Reach.session depth)) := by
  intro s
  have c := GoesOn.chained
  cases l with
  | mk method entry args block name via receiver site =>
    refine Keeps.resolved c fun m found => ?_
    -- what is looked up in between leaves the state alone, so the method is still there
    have called (via : Module) (receiver : Value) :
        let x : Eval Value := do
          let args ← Eval.resolve fun g => args.mapM g.value
          let block ← Eval.resolve (·.block block)
          m.call (Reach.session depth) entry ⟨site, receiver, via, name⟩ args block
        GoesOn s (x s).1.isSome (x s).2 :=
      Keeps.resolved c fun args _ => Keeps.resolved c fun block _ => GoesOn.call found _ _ _ _
    cases via with
    | none =>
      cases receiver with
      | none => exact called _ _
      | some v => exact Keeps.resolved c fun v _ => called _ v
    | some via =>
      refine Keeps.resolved c fun via _ => ?_
      cases receiver with
      | none => exact called via _
      | some v => exact Keeps.resolved c fun v _ => called via v

theorem InterpretLiteral.goes_on (l : InterpretLiteral) :
    Keeps GoesOn (l.run (Reach.session depth)) := by
  intro s
  have c := GoesOn.chained
  cases l with
  | mk seq engine via tokenClass receiver name site block implicitSelf =>
    refine Keeps.resolved c fun seq found => ?_
    have there := Table.find_ok found
    -- what is looked up before the call leaves the state alone, so the sequence is still there
    have run (h : Handle) (i : Invocation) :
        let x := Eval.holdingHandle seq.handle ((Reach.session depth).interpret h i seq)
        GoesOn s (x s).1.isSome (x s).2 :=
      GoesOn.holdingHandle (GoesOn.interpret there h i)
        (GoesOn.interpret (s := s.held seq.handle.engine) there h i)
    have through (h : Handle) (self : Eval (Option Value))
        (read : ∀ k : Option Value → Eval Value, (∀ o, GoesOn s (k o s).1.isSome (k o s).2) →
          GoesOn s ((self >>= k) s).1.isSome ((self >>= k) s).2) :
        let x : Eval Value := do
          let via ← Eval.resolve (·.modules.find via)
          let tokenClass ← Eval.resolve (·.modules.find tokenClass)
          let receiver ← Eval.resolve (·.value receiver)
          let implicitSelf ← self
          let block ← Eval.resolve (·.block block)
          Eval.holdingHandle seq.handle ((Reach.session depth).interpret h
            ⟨⟨site, receiver, via, name⟩, tokenClass, implicitSelf, block⟩ seq)
        GoesOn s (x s).1.isSome (x s).2 := by
      refine Keeps.resolved c fun via _ => Keeps.resolved c fun tokenClass _ => ?_
      refine Keeps.resolved c fun receiver _ => read _ fun implicitSelf => ?_
      exact Keeps.resolved c fun block _ => run h _
    have with_self (h : Handle) := through h (pure none) fun k known => known none
    have with_given (v : Literal) (h : Handle) := through h (some <$> Eval.resolve (·.value v))
      fun k known => Keeps.resolved_map c some fun v _ => known (some v)
    cases engine with
    | none =>
      cases implicitSelf with
      | none => exact with_self _
      | some v => exact with_given v _
    | some engine =>
      cases implicitSelf with
      | none => exact Keeps.resolved c fun h _ => with_self h
      | some v => exact Keeps.resolved c fun h _ => with_given v h

theorem Eval.Keeps.answered {x : Eval Answer} (hx : Keeps GoesOn x) : Keeps GoesOn (answered x) :=
  .bind GoesOn.chained hx.attempt fun _ =>
    .bind GoesOn.chained (GoesOn.noteModules _) fun _ => .pure GoesOn.chained _

theorem Eval.Keeps.underEntry {α : Type} {x : Eval α} (e : Entry) (hx : Keeps GoesOn x) :
    Keeps GoesOn (underEntry e x) := by
  have w := GoesOn.working
  refine .bind w.toChained (.pushEntry w.toMoving e) fun _ => .ensuring w.toChained hx ?_
  exact .bind w.toChained (.popEntry w.toMoving) fun _ => .pure w.toChained _

theorem Eval.Keeps.onContext {α : Type} {x : Eval α} (context : Context) (hx : Keeps GoesOn x) :
    Keeps GoesOn (onContext context x) := by
  have c := GoesOn.chained
  have exchanged (g : Context → Context) : Keeps GoesOn (updateContext g) := fun s =>
    GoesOn.of_after fun _ => id
  refine .bind c (.read c _) fun outer => .bind c (exchanged _) fun _ => ?_
  exact .ensuring c hx (exchanged _)

mutual

theorem Act.goes_on (a : Act) : Keeps GoesOn (a.run (Reach.session depth)) := by
  have w := GoesOn.working
  have c := w.toChained
  match a with
  | .ret v =>
    rw [Act.run]
    exact .resolve c _
  | .fail _ | .panic _ =>
    rw [Act.run]
    exact .ofOutcome c _
  | .call l =>
    rw [Act.run]
    exact l.goes_on
  | .interpret l =>
    rw [Act.run]
    exact l.goes_on
  | .withBacktrace e script =>
    rw [Act.run]
    exact .withBacktrace w.toMoving e script.goes_on
  | .backtraced e script =>
    rw [Act.run]
    refine .underEntry e (.bind c (.read c _) fun p => ?_)
    exact .bind c (.emit w.toTelling rfl) fun _ => script.goes_on
  | .protocol explicit f script =>
    rw [Act.run]
    refine .bind c (.resolve c _) fun f => .bind c ?_ fun o => ?_
    · refine .attempt (.ite (fun _ => .pure c false) fun _ => ?_)
      exact .bind c (.pushFrame w.toMoving f) fun _ => .pure c true
    · cases o with
      | ok pushed =>
        have entered : Keeps GoesOn (do
            Eval.emit (.enteredProtocol pushed (← Eval.point))
            script.run (Reach.session depth)) :=
          .bind c (.read c _) fun p => .bind c (.emit w.toTelling rfl) fun _ => script.goes_on
        exact .ite (fun _ => .ensuring c entered (.popFrame w.toMoving)) fun _ => entered
      | failed f => exact .bind c (.emit w.toTelling rfl) fun _ => .ofOutcome c _
      | panicked message => exact .ofOutcome c _
  | .withContext setup script =>
    rw [Act.run]
    refine .bind c (GoesOn.settle setup) fun settings => .onContext _ ?_
    exact .ensuring c script.goes_on (.bind c (.read c _) fun _ => .emit w.toTelling rfl)

theorem Step.goes_on (step : Step) : Keeps GoesOn (step.run (Reach.session depth)) := by
  match step with
  | .act a =>
    rw [Step.run]
    exact .bind GoesOn.chained a.goes_on fun _ => .pure GoesOn.chained _
  | .plain p =>
    rw [Step.run]
    exact p.goes_on
  | .scriptedEngine name acts =>
    rw [Step.run]
    exact PlainStep.newEngine_goes_on name fun _ _ => ⟨rfl, rfl, rfl, rfl, rfl⟩

theorem Script.goes_on (script : Script) : Keeps GoesOn (script.run (Reach.session depth)) := by
  have w := GoesOn.working
  have c := w.toChained
  match script with
  | .stop =>
    rw [Script.run]
    exact .pure c _
  | .result a =>
    rw [Script.run]
    exact a.goes_on
  | .step step rest =>
    rw [Script.run]
    refine .bind c step.goes_on.answered fun _ => .bind c (.read c _) fun p => ?_
    exact .bind c (.emit w.toTelling rfl) fun _ => rest.goes_on

end

/-- What a script leaves behind, from nothing, has come about in a history. -/
theorem Script.after (script : Script) (context : Context) (depth : Nat) :
    ∃ past, (script.run (Reach.session depth) ⟨context, {}, []⟩).2.store.After past :=
  script.goes_on ⟨context, {}, []⟩ {} .start

theorem Script.lived (script : Script) (context : Context) (depth : Nat) :
    ∃ made, (script.run (Reach.session depth) ⟨context, {}, []⟩).2.store.Lived made :=
  have ⟨past, after⟩ := script.after context depth
  ⟨past.made, after.lived⟩

/-- After any script, what each engine has defined is what its visits tell. The scopes of the visits
are told apart by their identities, since a session never uses an identity twice. -/
theorem Script.catalogs (script : Script) (context : Context) (depth : Nat) :
    let st := (script.run (Reach.session depth) ⟨context, {}, []⟩).2.store
    ∃ visits : List Visit,
      (∀ v ∈ visits, v.scope.id < st.nextScope) ∧
      (∀ v ∈ visits, ∀ w ∈ visits, v.scope.id = w.scope.id → v.scope = w.scope) ∧
      ∀ engine, History engine visits st ∧ Catalog engine visits st := by
  intro st
  obtain ⟨past, after⟩ := script.after context depth
  have identified (v : Visit) (first : v ∈ past.visits) (w : Visit) (second : w ∈ past.visits) :
      v.scope.id = w.scope.id → v.scope = w.scope :=
    after.within.identified v.scope (after.visited v first) w.scope (after.visited w second)
  refine ⟨past.visits, fun v among => after.within.numbered v.scope (after.visited v among),
    identified, fun engine => ?_⟩
  exact ⟨after.history engine, (after.history engine).catalog identified⟩

end

end BodyCall
