import BodyCall.Proofs.Agreement
import BodyCall.Proofs.Guests

/-!
# Engines in use

An engine is seldom there for one program alone. Bodies of other scopes are invoked there, with sources
that refuse, panic, or answer one thing now and another one later, and sequences are run through any
handles. All that is known of the scopes is who they are, and which code each of them may be given. So
much is then true of all that is installed and defined, and a program that has its scopes among them
finds nothing there but its own code.
-/

namespace BodyCall

open Eval

/-- Scopes that are told apart by their identities, and the code that each of them may be given. -/
structure Stock where
  has : Scope → Prop
  gives : Scope → Lowered → Prop
  closed : ∀ {scope l}, has scope → gives scope l → l.StaysIn has
  identified : ∀ {scope scope'}, has scope → has scope' → scope.id = scope'.id → scope = scope'

namespace Stock

/-- A part of the scopes that no code leads out of. -/
structure Part (S : Stock) (part : Scope → Prop) : Prop where
  within : ∀ {scope}, part scope → S.has scope
  closed : ∀ {scope l}, part scope → S.gives scope l → l.StaysIn part

/-- The scopes of the part have this code, if the check of their frames accepts it. -/
structure Offers (S : Stock) (part : Scope → Prop) (code : Scope → Lowered) : Prop where
  within : ∀ {scope}, part scope → S.has scope
  gives : ∀ {scope l}, part scope → (S.gives scope l ↔ l = code scope ∧ l.checked = .ok l)

/-- The source gives the scopes no other code, and asks for no other bodies than these. -/
structure Serves (S : Stock) (part : Scope → Prop) (made : List Body)
    (source : Scope → Nat → Store → Lowering) : Prop where
  answers : ∀ {scope n st l}, part scope → (source scope n st).result = .answered (.ok l) →
    S.gives scope l
  asks : ∀ scope n st, ∀ b ∈ (source scope n st).reentries.map Prod.fst, b ∈ made ∧ part b.scope

structure Codes (S : Stock) (b : Body) (seq : Sequence) : Prop where
  gives : S.gives b.scope seq.lowered
  file : seq.file = b.scope.file
  line : seq.line = b.scope.line
  handle : seq.handle = b.handle

/-- All bodies are of scopes in stock, and what is installed for them is their code. -/
structure Furnished (S : Stock) (fits : Nat → Handle → Prop) (made : List Body) (st : Store) : Prop
    extends Orderly made st where
  bound : ∀ {engine scope b}, st.definition? engine scope = some b →
    ∃ h, fits engine h ∧ b.handle = h.downgrade
  scopes : ∀ {b}, st.Knows made b → S.has b.scope
  coded : ∀ {b seq}, st.Knows made b → st.sequence? b = some seq → S.Codes b seq

variable {S : Stock} {fits : Nat → Handle → Prop} {made : List Body} {st st' : Store} {b : Body}
  {part : Scope → Prop} {code : Scope → Lowered} {source : Scope → Nat → Store → Lowering}

theorem whole (S : Stock) : S.Part S.has := ⟨id, S.closed⟩

namespace Furnished

theorem scope_eq (h : S.Furnished fits made st) {engine : Nat} {scope : Scope}
    (found : st.definition? engine scope = some b) (here : S.has scope) : b.scope = scope :=
  S.identified (h.scopes (.inr ⟨engine, scope, found⟩)) here (h.keyed found)

theorem of_empty (undefined : ∀ engine scope, st.definition? engine scope = none)
    (uninstalled : ∀ id, st.installed.get? id = none) : S.Furnished fits [] st where
  toOrderly := .of_empty undefined uninstalled (by simp) (by simp)
  bound found := by
    rw [undefined] at found
    cases found
  scopes known := by
    rcases known with among | ⟨engine, scope, found⟩
    · cases among
    · rw [undefined] at found
      cases found
  coded {b seq} _ found := by
    rw [Store.sequence?, uninstalled] at found
    cases found

theorem of_same (h : S.Furnished fits made st) (definitions : st'.definitions = st.definitions)
    (installed : st'.installed = st.installed) (ids : st.nextBody ≤ st'.nextBody) :
    S.Furnished fits made st' where
  toOrderly := h.toOrderly.of_same definitions installed ids
  bound {engine scope _} found :=
    h.bound ((Store.definition?_congr definitions engine scope).symm.trans found)
  scopes known := h.scopes ((Identified.knows_of_same definitions).mp known)
  coded {b _} known found :=
    h.coded ((Identified.knows_of_same definitions).mp known)
      ((Store.sequence?_congr installed b).symm.trans found)

theorem method (h : S.Furnished fits made st) (new : b.id = st.nextBody) (has : S.has b.scope) :
    S.Furnished fits (b :: made) { st with nextBody := st.nextBody + 1 } := by
  refine ⟨h.toOrderly.method new, h.bound, fun known => ?_, fun {b' seq} known found => ?_⟩
  · rcases Identified.knows_method known with rfl | known
    · exact has
    · exact h.scopes known
  · have found : st.sequence? b' = some seq := found
    rcases Identified.knows_method known with rfl | known
    · rw [h.sequence?_new (Nat.le_of_eq new.symm)] at found
      cases found
    · exact h.coded known found

theorem install (h : S.Furnished fits made st) (known : st.Knows made b) {seq : Sequence}
    (codes : S.Codes b seq) : S.Furnished fits made (st.install b seq) := by
  refine ⟨h.toOrderly.install known codes.handle, h.bound, h.scopes, fun {b' seq'} known' found => ?_⟩
  rw [Store.sequence?_install] at found
  split at found
  next same =>
    cases found
    have one : b = b' := h.identified b b' known known' same
    exact one ▸ codes
  next => exact h.coded known' found

theorem define (h : S.Furnished fits made st) {engine : Nat} {handle : Handle}
    (fit : fits engine handle) {scope : Scope} (absent : st.definition? engine scope = none)
    (has : S.has scope) (parent : Option Module) :
    S.Furnished fits made
      (Interpreter.defining st engine (Interpreter.newBody st scope parent handle)) := by
  refine ⟨h.toOrderly.define absent parent handle, fun found => ?_, fun known => ?_,
    fun {b' seq} known found => ?_⟩
  · rcases Identified.found_defining found with ⟨rfl, rfl, -⟩ | before
    · exact ⟨handle, fit, rfl⟩
    · exact h.bound before
  · rcases Identified.knows_defining known with rfl | known
    · exact has
    · exact h.scopes known
  · have found : st.sequence? b' = some seq := found
    rcases Identified.knows_defining known with rfl | known
    · rw [h.sequence?_new (Nat.le_refl _)] at found
      cases found
    · exact h.coded known found

end Furnished

theorem Codes.of_answered (serves : S.Serves part made source) (here : part b.scope) {st : Store}
    {seq : Sequence} (answered : Answered source b.scope b.handle st seq) : S.Codes b seq :=
  have ⟨_, answer⟩ := answered.result
  ⟨serves.answers here answer, answered.file, answered.line, answered.handle⟩

/-- Runs that begin in a part of the scopes stay in there, and leave the store furnished. -/
def invariant (closed : S.Part part) (serves : S.Serves part made source)
    (own : ∀ h : Handle, fits h.engine h) : Invariant source where
  holds := S.Furnished fits made
  known st b := st.Knows made b ∧ part b.scope
  apt _ := True
  fits := fits
  part := part
  kept known before := ⟨known.1.mono before, known.2⟩
  ready h known _ found := ⟨own _, closed.closed known.2 (h.coded known.1 found).gives⟩
  found h _ here found :=
    ⟨⟨.inr ⟨_, _, found⟩, (h.scope_eq found (closed.within here)).symm ▸ here⟩, trivial⟩
  asked _ _ b among :=
    have ⟨made, here⟩ := serves.asks _ _ _ b among
    ⟨.inl made, here⟩
  counted h same := h.of_same same.definitions same.installed (Nat.le_of_eq same.nextBody.symm)
  installed h known _ _ _ answered := h.install known.1 (.of_answered serves known.2 answered)
  defined parent _ h fit here absent := h.define fit absent (closed.within here) parent
  called h _ := h.of_same rfl rfl (Nat.le_refl _)
  returned _ h := h.of_same rfl rfl (Nat.le_refl _)

/-! ## Histories -/

/-- The stores that come about while scopes of the stock are in use, with the methods made for them.
Bodies are made ready and invoked, scopes are lowered, and sequences are run through handles, each
time with any source that serves the stock, from any context and with any end, or up to some depth of
calls. In between, all but the caches may change. -/
inductive InUse (S : Stock) (fits : Nat → Handle → Prop) : Store → List Body → Prop where
  | start {st : Store} (undefined : ∀ engine scope, st.definition? engine scope = none)
      (uninstalled : ∀ id, st.installed.get? id = none) : InUse S fits st []
  | method {st : Store} {made : List Body} (used : InUse S fits st made) {scope : Scope}
      (has : S.has scope) (m : Module) (handle : Handle) :
      InUse S fits { st with nextBody := st.nextBody + 1 } (⟨st.nextBody, scope, m, handle⟩ :: made)
  | elsewhere {st st' : Store} {made : List Body} (used : InUse S fits st made)
      (definitions : st'.definitions = st.definitions) (installed : st'.installed = st.installed)
      (ids : st.nextBody ≤ st'.nextBody) : InUse S fits st' made
  | lowered {made : List Body} {s : State} (used : InUse S fits s.store made)
      {source : Scope → Nat → Store → Lowering} (serves : S.Serves S.has made source) (depth : Nat)
      (scope : Scope) : InUse S fits (lower source (readyAt source depth) scope s).2.store made
  | ready {made : List Body} {s : State} (used : InUse S fits s.store made)
      {source : Scope → Nat → Store → Lowering} (serves : S.Serves S.has made source) {b : Body}
      (known : s.store.Knows made b) (depth : Nat) (settings : Settings) :
      InUse S fits (readyAt source depth b settings s).2.store made
  | invoked {made : List Body} {s : State} (used : InUse S fits s.store made)
      {source : Scope → Nat → Store → Lowering} (serves : S.Serves S.has made source) {b : Body}
      (known : s.store.Knows made b) (depth : Nat) (c : Call) (block : Block) :
      InUse S fits (b.invoke ((Env.interpreting source).reach depth) c block s).2.store made
  | interpreted {made : List Body} {s : State} (used : InUse S fits s.store made)
      {source : Scope → Nat → Store → Lowering} (serves : S.Serves S.has made source) {h : Handle}
      {seq : Sequence} (fit : fits h.engine seq.handle) (stays : seq.StaysIn S.has) (depth : Nat)
      (i : Invocation) :
      InUse S fits ((Env.interpreting source).interpretAt depth h i seq s).2.store made

theorem InUse.furnished (own : ∀ h : Handle, fits h.engine h) (used : S.InUse fits st made) :
    S.Furnished fits made st := by
  induction used with
  | start undefined uninstalled => exact .of_empty undefined uninstalled
  | method used has m handle ih => exact ih.method rfl has
  | elsewhere used definitions installed ids ih => exact ih.of_same definitions installed ids
  | @lowered _ s used source serves depth scope ih =>
    let I := invariant S.whole serves own
    exact (Invariant.lower (I.readyAt depth) scope s ih nofun).holds
  | @ready _ s used source serves b known depth settings ih =>
    let I := invariant S.whole serves own
    have b_known : I.known s.store b := ⟨known, ih.scopes known⟩
    exact (I.readyAt depth b settings s ih (List.forall_mem_singleton.mpr b_known)).holds
  | @invoked _ s used source serves b known depth c block ih =>
    let I := invariant S.whole serves own
    exact (Invariant.invoke (I.reach depth) ih ⟨known, ih.scopes known⟩ trivial c block).holds
  | @interpreted _ s used source serves h seq fit stays depth i ih =>
    let I := invariant S.whole serves own
    exact ((I.reach depth).interpret h i seq fit stays s ih nofun).holds

/-! ## Guests -/

/-- A guest whose code is in stock is housed wherever engines have only run sequences through handles
of their own. -/
theorem InUse.housed {G : Guest} (used : S.InUse (fun engine h => h.engine = engine) st made)
    (offers : S.Offers G.Has G.code) (top : G.top ∈ made) : G.Housed made st := by
  have furnished := used.furnished fun _ => rfl
  have scope {scope : Scope} {b : Body} (reached : G.Reaches scope)
      (found : st.definition? G.engine scope = some b) : b.scope = scope :=
    furnished.scope_eq found (offers.within (.inr reached))
  refine ⟨furnished.toOrderly, top, fun reached found => ?_, fun reached found => ?_,
    fun {b seq} known found => ?_⟩
  · exact (scope reached found).symm ▸ reached
  · obtain ⟨h, fit, weak⟩ := furnished.bound found
    rw [weak]
    exact fit
  · obtain ⟨there, here⟩ : st.Knows made b ∧ G.Has b.scope := by
      rcases known with rfl | ⟨inner, reached, defined⟩
      · exact ⟨.inl top, .inl rfl⟩
      · exact ⟨.inr ⟨_, _, defined⟩, .inr ((scope reached defined).symm ▸ reached)⟩
    obtain ⟨gives, file, line, handle⟩ := furnished.coded there found
    obtain ⟨same, accepted⟩ := (offers.gives here).mp gives
    rw [same] at accepted
    refine ⟨accepted, ?_⟩
    rw [← same]
    cases seq
    cases file
    cases line
    cases handle
    rfl

end Stock

/-! ## Programs -/

variable {P : Program} {S : Stock}

theorem Stock.Offers.part (offers : S.Offers P.has P.code) : S.Part P.has where
  within := offers.within
  closed here given := by
    rw [((offers.gives here).mp given).1]
    exact fun _ => P.closed here

theorem Stock.Offers.serves (offers : S.Offers P.has P.code) (made : List Body) :
    S.Serves P.has made P.source where
  answers {scope n st l} here answer := by
    have accepted : (P.code scope).checked = .ok l := SourceEnd.answered.inj answer
    have same := Lowered.checked_ok accepted
    rw [← same] at accepted
    exact (offers.gives here).mpr ⟨same, accepted⟩
  asks _ _ _ _ among := by cases among

namespace Program

def stock (P : Program) : Stock where
  has := P.has
  gives scope l := l = P.code scope ∧ l.checked = .ok l
  closed here given := by
    rw [given.1]
    exact fun _ => P.closed here
  identified := P.identified

theorem stock_offers (P : Program) : P.stock.Offers P.has P.code := ⟨id, fun _ => Iff.rfl⟩

/-- Where nothing but the program has been run, it is in use. -/
theorem Reached.inUse {st : Store} {methods : List Body} (reached : P.Reached st methods) :
    P.stock.InUse (fun _ _ => True) st methods := by
  have served (made : List Body) : P.stock.Serves P.stock.has made P.source :=
    P.stock_offers.serves made
  induction reached with
  | start undefined uninstalled => exact .start undefined uninstalled
  | method reached part m handle used => exact .method used part m handle
  | elsewhere reached definitions installed ids used =>
    exact .elsewhere used definitions installed ids
  | @ready methods s s' reached b known depth settings o run used =>
    have after := used.ready (served methods) (.inl known) depth settings
    rw [run] at after
    exact after
  | @invoked methods s s' reached b known depth c block o run used =>
    have after := used.invoked (served methods) (.inl known) depth c block
    rw [run] at after
    exact after
  | @interpreted methods s s' reached scope part seq prepares depth i o run used =>
    have stays : seq.StaysIn P.has := by
      intro inner among
      rw [Sequence.lowered, prepares.instrs] at among
      exact P.closed part among
    have after := used.interpreted (h := seq.handle) (served methods) trivial stays depth i
    rw [run] at after
    exact after

end Program

/-! ## Runs of programs have an end -/

theorem Interpreter.execute_plain_ends {r : Reach} {engine : Nat} {i : Invocation} {seq : Sequence}
    {instr : Instr} (plain : ∀ scope, instr ≠ .define scope) (own : Nat) (last : Value) (s : State) :
    ∃ o s', execute r engine i seq own last instr s = (some o, s') := by
  cases instr with
  | define scope => exact absurd rfl (plain scope)
  | line n => exact ⟨_, _, rfl⟩
  | put v => exact ⟨_, _, rfl⟩
  | putSelf => exact ⟨_, _, rfl⟩
  | raise message => exact ⟨_, _, execute_raise message⟩
  | pushFrame =>
    cases room : s.context.exceeded? with
    | none => exact ⟨_, _, bind_of_ok (pushFrame_run room)⟩
    | some max => exact ⟨_, _, bind_of_failed (pushFrame_refused room)⟩
  | popFrame =>
    cases own with
    | zero => exact ⟨_, _, execute_underflow⟩
    | succ own =>
      cases stack : s.context.frames with
      | nil => exact ⟨_, _, bind_of_panicked (popFrame_empty stack)⟩
      | cons f rest => exact ⟨_, _, bind_of_ok (popFrame_run stack)⟩

theorem Program.readyAt_ends (P : Program) (depth : Nat) (b : Body) (settings : Settings) (s : State) :
    ∃ o s', readyAt P.source (depth + 1) b settings s = (some o, s') := by
  cases found : s.store.sequence? b with
  | some seq => exact ⟨_, _, readyAt_found found⟩
  | none =>
    cases checked : (P.code b.scope).checked with
    | error reason => exact ⟨_, _, Program.readyAt_refuses found checked depth settings⟩
    | ok l =>
      obtain ⟨told, ready⟩ := Program.readyAt_installs found checked depth settings
      exact ⟨_, _, ready⟩

namespace Stock.Offers

variable {fits : Nat → Handle → Prop} {made : List Body} {depth engine : Nat} {seq : Sequence}
  {s : State} {b : Body} (offers : S.Offers P.has P.code) (own : ∀ h : Handle, fits h.engine h)

abbrev kept (offers : S.Offers P.has P.code) (made : List Body)
    (own : ∀ h : Handle, fits h.engine h) : Invariant P.source :=
  S.invariant offers.part (offers.serves made) own

/-- Within this depth of calls, bodies of the program come to an end. -/
def Halts (P : Program) (S : Stock) (fits : Nat → Handle → Prop) (made : List Body) (depth : Nat) :
    Prop :=
  ∀ (b : Body) (s : State) (c : Call) (block : Block), S.Furnished fits made s.store →
    s.store.Knows made b → P.has b.scope → P.height b.scope < depth →
    ∃ o s', b.invoke ((Env.interpreting P.source).reach depth) c block s = (some o, s')

include offers own

theorem define_ends (halts : Halts P S fits made depth) (i : Invocation)
    (fit : fits engine seq.handle) {scope : Scope} (part : P.has scope)
    (low : P.height scope < depth) (furnished : S.Furnished fits made s.store) :
    ∃ o s', Interpreter.define ((Env.interpreting P.source).reach depth) engine i seq scope s =
      (some o, s') := by
  let I := offers.kept made own
  let s₀ : State := { s with trace := .defining engine scope :: s.trace }
  obtain ⟨b, s₁, ran, there, -⟩ :=
    Interpreter.bodyFor_run engine scope i.call.receiver.module? seq.handle s₀
  obtain ⟨_, _, ran', carried, ⟨known, here⟩, -⟩ :=
    Invariant.bodyFor (I := I) (s := s₀) fit part i.call.receiver.module? furnished
  cases ran.symm.trans ran'
  have same : b.scope = scope := carried.holds.scope_eq there (offers.within part)
  obtain ⟨o, s', ended⟩ := halts b s₁ (Interpreter.definitionCall b) .absent carried.holds known here
    (same.symm ▸ low)
  exact ⟨o, s', (Interpreter.define_run ran).trans ended⟩

theorem run_ends (halts : Halts P S fits made depth) (i : Invocation)
    (fit : fits engine seq.handle) {instrs : List Instr}
    (inside : ∀ inner, .define inner ∈ instrs → P.has inner ∧ P.height inner < depth) (pushed : Nat)
    (last : Value) (furnished : S.Furnished fits made s.store) :
    ∃ o pushed' s', Interpreter.run ((Env.interpreting P.source).reach depth) engine i seq pushed last
      instrs s = (some (.ok (o, pushed')), s') := by
  let I := offers.kept made own
  induction instrs generalizing pushed last s with
  | nil => exact ⟨_, _, _, rfl⟩
  | cons instr rest ih =>
    have here (scope : Scope) (same : instr = .define scope) :
        P.has scope ∧ P.height scope < depth := inside scope (same ▸ List.mem_cons_self)
    obtain ⟨o, s₁, step⟩ : ∃ o s₁, Interpreter.execute ((Env.interpreting P.source).reach depth) engine
        i seq pushed last instr s = (some o, s₁) := by
      cases instr with
      | define scope =>
        obtain ⟨part, low⟩ := here scope rfl
        obtain ⟨o, s₁, defined⟩ := define_ends offers own halts i fit part low furnished
        refine ⟨o.map fun v => (pushed, v), s₁, ?_⟩
        rw [Interpreter.execute, bind_pure_run, defined]
        rfl
      | _ => exact Interpreter.execute_plain_ends (by intro _ same; cases same) pushed last s
    rcases o with ⟨pushed', last'⟩ | f | t
    · have keeps := Invariant.execute (I.reach depth) fit i pushed last
        fun scope same => (here scope same).1
      have furnished' := (keeps.of_ended step furnished (by simp)).holds
      obtain ⟨o, pushed'', s', ran⟩ :=
        ih (fun inner among => inside inner (List.mem_cons_of_mem instr among)) pushed' last' furnished'
      exact ⟨o, pushed'', s', (Interpreter.run_of_ok step rest).trans ran⟩
    · exact ⟨_, _, _, Interpreter.run_of_failed step rest⟩
    · exact ⟨_, _, _, Interpreter.run_of_panicked step rest⟩

theorem interpretAt_ends (halts : Halts P S fits made depth) (h : Handle) (i : Invocation)
    (fit : fits h.engine seq.handle)
    (inside : ∀ inner, .define inner ∈ seq.instrs → P.has inner ∧ P.height inner < depth)
    (furnished : S.Furnished fits made s.store) :
    ∃ o s', (Env.interpreting P.source).interpretAt (depth + 1) h i seq s = (some o, s') := by
  cases reached : s.store.reaches h with
  | false => exact ⟨_, _, Env.interpretAt_gone reached⟩
  | true =>
    have called : S.Furnished fits made (s.held h.engine).store :=
      furnished.of_same rfl rfl (Nat.le_refl _)
    obtain ⟨o, pushed, s₁, ran⟩ := run_ends offers own halts i fit inside 0 .nil called
    obtain ⟨s₂, popped, -⟩ := Interpreter.popFrames_of_run (Balance.reach P.source depth) ran
    exact ⟨_, _, Env.interpretAt_ended reached (Interpreter.interpret_of_popped ran popped)⟩

/-- The definitions that are nested inside a body are bounded, so a run of the body ends. -/
theorem halts (made : List Body) (depth : Nat) : Halts P S fits made depth := by
  let I := offers.kept made own
  induction depth with
  | zero => exact fun b s c block _ _ _ low => absurd low (Nat.not_lt_zero _)
  | succ depth ih =>
    intro b s c block furnished known part low
    have balanced := Balance.reach P.source (depth + 1)
    obtain ⟨o, s₁, ready⟩ :=
      P.readyAt_ends depth b (b.announced c s).context.settings (b.announced c s)
    rw [← Body.sequence_run] at ready
    rcases o with seq | f | t
    · have b_known : I.known s.store b := ⟨known, part⟩
      obtain ⟨carried, installed⟩ := Invariant.readied (I.reach (depth + 1)) furnished b_known ready
      have codes := carried.holds.coded (known.mono carried.before) installed
      have code := ((offers.gives part).mp codes.gives).1
      have inside (inner : Scope) (among : .define inner ∈ seq.instrs) :
          P.has inner ∧ P.height inner < depth := by
        have among : .define inner ∈ seq.lowered.instrs := among
        rw [code] at among
        have nested := P.nested among
        exact ⟨P.closed part among, by omega⟩
      rcases s₁.admits_or_refuses seq.explicit with room | ⟨generic, max, limit⟩
      · cases kind : b.scope.label? with
        | none => exact ⟨_, _, (Body.Course.invalid ready room kind).run balanced⟩
        | some label =>
          have opened : S.Furnished fits made (b.opened c block label seq s₁).store :=
            (b.alike_opened c block label seq s₁).store ▸ carried.holds
          obtain ⟨o, s₂, ran⟩ := interpretAt_ends offers own ih seq.handle
            (Body.invocation label c block) (own _) inside opened
          exact ⟨_, _, (Body.Course.interpreted ready room kind ran).run balanced⟩
      · exact ⟨_, _, (Body.Course.refused ready generic limit).run balanced⟩
    · exact ⟨_, _, (Body.Course.unready ready).run balanced⟩
    · exact ⟨_, _, (Body.Course.broken ready).run balanced⟩

end Stock.Offers

end BodyCall
