import BodyCall.Proofs.Chronicle
import BodyCall.Proofs.Origins

/-!
# What the incidents of a run tell

The invocations among the incidents of a run are its visits, in the order in which they begin: an outer
one comes before those inside it, and each lies within the run. A run that does not fail has left no
interpretation by a failure. One that fails has left all that were under way, innermost first, with
the cause that it fails for.
-/

namespace BodyCall

open Eval

/-- An incident of making a body ready. -/
def Incident.OfReadiness : Incident → Prop
  | reading _ | asked _ | installed .. | overtaken _ => True
  | invoked .. | defined .. | left .. => False

theorem Eval.mem_thenChronicle {α : Type} {first : Chronicle} {x : Eval α} {next : α → Chronicle}
    {s : State} {incident : Incident} (among : incident ∈ thenChronicle first x next s) :
    incident ∈ first s ∨ ∃ a s', incident ∈ next a s' := by
  rcases List.mem_append.mp among with before | later
  · exact .inl before
  · split at later
    next a s' _ => exact .inr ⟨a, s', later⟩
    next => cases later

namespace Eval

variable {source : Scope → Nat → Store → Lowering} {ready : Body → Settings → Eval Sequence}
  {inner : Body → Settings → Chronicle}

/-- The incidents of requests from inside a source are those of the requests. -/
theorem mem_reentriesChronicle {reentries : List (Body × Setup)} {s : State} {x : Incident}
    (among : x ∈ reentriesChronicle ready inner reentries s) :
    (∃ r, x = .reading r) ∨ ∃ b setup s', (b, setup) ∈ reentries ∧
      x ∈ inner b setup.read.settings s' := by
  induction reentries generalizing s with
  | nil => cases among
  | cons r rest ih =>
    rcases mem_thenChronicle among with here | ⟨_, s', later⟩
    · rcases List.mem_cons.mp here with rfl | inside
      · exact .inl ⟨_, rfl⟩
      · exact .inr ⟨r.1, r.2, _, List.mem_cons_self, inside⟩
    · rcases ih later with reading | ⟨b, setup, s'', within, inside⟩
      · exact .inl reading
      · exact .inr ⟨b, setup, s'', List.mem_cons_of_mem r within, inside⟩

/-- An incident of making a body ready is one of the body itself, or of a request from inside its
source. -/
theorem mem_readyChronicle {depth : Nat} {b : Body} {settings : Settings} {s : State} {x : Incident}
    (among : x ∈ readyChronicle source (depth + 1) b settings s) :
    (x = .asked b ∨ (∃ r, x = .reading r) ∨ (∃ seq, x = .installed b seq settings) ∨
        x = .overtaken b) ∨
      ∃ n st b' setup s', (b', setup) ∈ (source b.scope n st).reentries ∧
        x ∈ readyChronicle source depth b' setup.read.settings s' := by
  unfold readyChronicle at among
  split at among
  next => cases among
  next =>
    rcases mem_thenChronicle among with asking | ⟨seq, s', installing⟩
    · rcases List.mem_cons.mp asking with here | inside
      · exact .inl (.inl here)
      · rcases mem_reentriesChronicle inside with reading | ⟨b', setup, s', within, inside⟩
        · exact .inl (.inr (.inl reading))
        · exact .inr ⟨_, _, b', setup, s', within, inside⟩
    · unfold installChronicle at installing
      split at installing <;> have here := List.mem_singleton.mp installing
      · exact .inl (.inr (.inr (.inr here)))
      · exact .inl (.inr (.inr (.inl ⟨seq, here⟩)))

theorem ready_of_readiness (source : Scope → Nat → Store → Lowering) (depth : Nat) (b : Body)
    (settings : Settings) (s : State) :
    ∀ x ∈ readyChronicle source depth b settings s, x.OfReadiness := by
  induction depth generalizing b settings s with
  | zero => exact fun x among => nomatch among
  | succ depth ih =>
    intro x among
    rcases mem_readyChronicle among with (rfl | ⟨r, rfl⟩ | ⟨seq, rfl⟩ | rfl) |
      ⟨n, st, b', setup, s', -, inside⟩
    · trivial
    · trivial
    · trivial
    · trivial
    · exact ih _ _ _ x inside

/-- Making a body ready invokes nothing. -/
theorem ready_invocations (source : Scope → Nat → Store → Lowering) (depth : Nat) (b : Body)
    (settings : Settings) (s : State) :
    (readyChronicle source depth b settings s).filterMap Incident.invocation = [] := by
  apply List.filterMap_eq_nil_iff.mpr
  intro x among
  have kind := ready_of_readiness source depth b settings s x among
  cases x <;> first | rfl | exact kind.elim

/-- Making a body ready leaves no interpretation. -/
theorem ready_leavings (source : Scope → Nat → Store → Lowering) (depth : Nat) (b : Body)
    (settings : Settings) (s : State) :
    (readyChronicle source depth b settings s).filterMap Incident.leaving = [] := by
  apply List.filterMap_eq_nil_iff.mpr
  intro x among
  have kind := ready_of_readiness source depth b settings s x among
  cases x <;> first | rfl | exact kind.elim

end Eval

/-! ## Invocations -/

/-- The body that a visit invokes, how, and under which settings. -/
def Visit.invoked (v : Visit) : Body × Call × Settings :=
  (v.body, Interpreter.definitionCall v.body, v.opened.context.settings)

theorem Visit.making_invocations (v : Visit) :
    v.making.filterMap Incident.invocation = [] := by
  unfold making
  split <;> rfl

theorem Visit.making_leavings (v : Visit) : v.making.filterMap Incident.leaving = [] := by
  unfold making
  split <;> rfl

theorem Body.visits_entrance (r : Reach) (inner : Handle → Invocation → Sequence → State → List Visit)
    (b : Body) (c : Call) (block : Block) (s : State) :
    b.visits r inner c block s =
      match b.entrance? r c block s with
      | some (seq, label, s₁) => inner seq.handle (invocation label c block) seq s₁
      | none => [] := by
  unfold visits entrance?
  rcases b.sequence r (b.announced c s) with ⟨_ | seq | f | t, s₁⟩ <;>
    cases b.scope.label? <;> try rfl
  dsimp only
  split <;> rfl

section

variable {source : Scope → Nat → Store → Lowering} {depth : Nat}

/-- Calls of engines invoke the bodies of their visits, in order. -/
def InvokesVisits (chronicle : Handle → Invocation → Sequence → Chronicle)
    (visits : Handle → Invocation → Sequence → State → List Visit) : Prop :=
  ∀ h i seq s, (chronicle h i seq s).filterMap Incident.invocation =
    (visits h i seq s).map Visit.invoked

theorem Body.chronicle_invocations {inner : Handle → Invocation → Sequence → Chronicle}
    {visits : Handle → Invocation → Sequence → State → List Visit}
    (called : InvokesVisits inner visits) (r : Reach) (b : Body) (c : Call) (block : Block)
    (s : State) :
    (b.chronicle r (readyChronicle source depth) inner c block s).filterMap Incident.invocation =
      (b, c, s.context.settings) :: (b.visits r visits c block s).map Visit.invoked := by
  have here : (Incident.invoked b c s.context.settings).invocation =
      some (b, c, s.context.settings) := rfl
  rw [chronicle, List.filterMap_cons_some here, List.filterMap_append, ready_invocations,
    visits_entrance]
  rcases b.entrance? r c block s with _ | ⟨seq, label, s₁⟩
  · rfl
  · exact congrArg ((b, c, s.context.settings) :: ·) (called _ _ _ _)

namespace Interpreter

variable {r : Reach} {inner : Body → Call → Block → Chronicle}
  {visitsOf : Body → Call → Block → State → List Visit} {engine : Nat} {i : Invocation}
  {seq : Sequence}

theorem runChronicle_invocations
    (invoked : ∀ b c block s, (inner b c block s).filterMap Incident.invocation =
      (b, c, s.context.settings) :: (visitsOf b c block s).map Visit.invoked)
    (own : Nat) (last : Value) (instrs : List Instr) (s : State) :
    (runChronicle r inner engine i seq own last instrs s).filterMap Incident.invocation =
      (visits r visitsOf engine i seq own last instrs s).map Visit.invoked := by
  induction instrs generalizing own last s with
  | nil => rfl
  | cons instr rest ih =>
    have here : (executeChronicle r inner engine i seq s instr).filterMap Incident.invocation =
        (visitsHere r visitsOf engine i seq s instr).map Visit.invoked := by
      cases instr with
      | define scope =>
        let v : Visit := ⟨r, engine, i, seq, scope, s⟩
        rw [executeChronicle, List.filterMap_append, v.making_invocations, invoked]
        rfl
      | _ => rfl
    rw [runChronicle, thenChronicle, visits, List.filterMap_append, List.map_append, here]
    congr 1
    rcases execute r engine i seq own last instr s with ⟨_ | ⟨own', last'⟩ | f | t, s₁⟩
    · rfl
    · exact ih own' last' s₁
    · rfl
    · rfl

theorem leaving_invocations (seq : Sequence) (o : Outcome Value) :
    (leaving seq o).filterMap Incident.invocation = [] := by
  cases o <;> rfl

end Interpreter

theorem Env.chronicleAt_invocations (source : Scope → Nat → Store → Lowering) (depth : Nat) :
    InvokesVisits (chronicleAt source depth) (visitsAt source depth) := by
  induction depth with
  | zero => exact fun h i seq s => rfl
  | succ depth ih =>
    intro h i seq s
    unfold chronicleAt visitsAt
    cases s.store.reaches h with
    | false => rfl
    | true =>
      unfold Interpreter.chronicle thenChronicle
      rw [if_pos rfl, if_pos rfl, List.filterMap_append,
        Interpreter.runChronicle_invocations (Body.chronicle_invocations ih _)]
      split
      next o own s₁ _ => rw [Interpreter.leaving_invocations, List.append_nil]
      next => exact List.append_nil _

end

/-! ## Interpretations that are left -/

/-- The interpretations that a failure leaves, innermost first, of those that were under way, outermost
first. An engine that is gone has not begun with the last of them. -/
def Cause.leaves (cause : Cause) (underway : List Sequence) : List (Sequence × Cause) :=
  ((if cause = .engineDropped then underway.dropLast else underway).map fun seq =>
    (seq, cause)).reverse

theorem Cause.leaves_nil (cause : Cause) : cause.leaves [] = [] := by
  unfold leaves
  split <;> rfl

theorem Cause.leaves_cons {cause : Cause} {underway : List Sequence} (seq : Sequence)
    (inside : cause = .engineDropped → underway ≠ []) :
    cause.leaves (seq :: underway) = cause.leaves underway ++ [(seq, cause)] := by
  unfold leaves
  by_cases dropped : cause = .engineDropped
  · rw [if_pos dropped, if_pos dropped, List.dropLast_cons_of_ne_nil (inside dropped)]
    simp
  · rw [if_neg dropped, if_neg dropped]
    simp

/-- The sequences that were being interpreted, outermost first. -/
def Origin.sequences (origin : Origin) : List Sequence := origin.chain.map (·.seq)

section

variable {source : Scope → Nat → Store → Lowering} {depth : Nat}

namespace Interpreter

variable {r : Reach} {inner : Body → Call → Block → Chronicle} {engine : Nat} {i : Invocation}
  {seq : Sequence}

/-- Invocations that do not fail leave no interpretation by a failure. -/
def InvocationsLeaveNone (r : Reach) (inner : Body → Call → Block → Chronicle) : Prop :=
  ∀ (b : Body) c block s, (∀ f, (b.invoke r c block s).1 ≠ some (.failed f)) →
    (inner b c block s).filterMap Incident.leaving = []

theorem execute_leavings (invoked : InvocationsLeaveNone r inner) {own : Nat} {last : Value}
    {instr : Instr} {s : State}
    (unfailed : ∀ f, (execute r engine i seq own last instr s).1 ≠ some (.failed f)) :
    (executeChronicle r inner engine i seq s instr).filterMap Incident.leaving = [] := by
  cases instr with
  | define scope =>
    let v : Visit := ⟨r, engine, i, seq, scope, s⟩
    rw [executeChronicle, List.filterMap_append, v.making_leavings]
    apply invoked
    intro f failed
    have ended := congrArg Prod.fst
      (bind_pure_run (define r engine i seq scope) (fun value => (own, value)) s)
    change _ = v.run.1.map _ at ended
    rw [v.run_eq, failed] at ended
    exact unfailed f ended
  | _ => rfl

theorem run_leavings (invoked : InvocationsLeaveNone r inner) {own : Nat} {last : Value}
    {instrs : List Instr} {s : State}
    (unfailed : ∀ f own', (run r engine i seq own last instrs s).1 ≠ some (.ok (.failed f, own'))) :
    (runChronicle r inner engine i seq own last instrs s).filterMap Incident.leaving = [] := by
  induction instrs generalizing own last s with
  | nil => rfl
  | cons instr rest ih =>
    unfold runChronicle thenChronicle
    rw [List.filterMap_append]
    rcases step : execute r engine i seq own last instr s with ⟨_ | ⟨own', last'⟩ | f | t, s₁⟩
    · rw [execute_leavings invoked (by rw [step]; simp)]
      rfl
    · rw [run_of_ok step] at unfailed
      rw [execute_leavings invoked (by rw [step]; simp)]
      exact ih unfailed
    · rw [run_of_failed step] at unfailed
      exact absurd rfl (unfailed f own)
    · rw [execute_leavings invoked (by rw [step]; simp)]
      rfl

theorem interpret_leavings (balanced : r.Keeps Balance) (invoked : InvocationsLeaveNone r inner)
    {s : State} (unfailed : ∀ f, (interpret r engine i seq s).1 ≠ some (.failed f)) :
    (chronicle r inner engine i seq s).filterMap Incident.leaving = [] := by
  have ends : ∀ o own s₁, run r engine i seq 0 .nil seq.instrs s = (some (.ok (o, own)), s₁) →
      ∀ f, o ≠ .failed f := by
    rintro o own s₁ ran f rfl
    obtain ⟨s', ended, -⟩ := interpret_of_run balanced ran
    exact unfailed f (congrArg Prod.fst ended)
  have inside : (runChronicle r inner engine i seq 0 .nil seq.instrs s).filterMap
      Incident.leaving = [] := by
    apply run_leavings invoked
    intro f own failed
    exact ends _ _ _ (Prod.ext failed rfl) f rfl
  unfold chronicle thenChronicle
  rw [List.filterMap_append, inside]
  split
  next result s₁ ran =>
    obtain ⟨o, own⟩ := result
    cases o with
    | ok v => rfl
    | panicked t => rfl
    | failed f => exact absurd rfl (ends _ _ _ ran f)
  next => rfl

end Interpreter

/-- Calls of engines that do not fail leave no interpretation by a failure. -/
def CallsLeaveNone (source : Scope → Nat → Store → Lowering) (depth : Nat) : Prop :=
  ∀ h i seq s, (∀ f, ((Env.interpreting source).interpretAt depth h i seq s).1 ≠ some (.failed f)) →
    (Env.chronicleAt source depth h i seq s).filterMap Incident.leaving = []

theorem Body.invoke_leavings (called : CallsLeaveNone source depth) :
    Interpreter.InvocationsLeaveNone ((Env.interpreting source).reach depth)
      (Body.chronicle ((Env.interpreting source).reach depth) (readyChronicle source depth)
        (Env.chronicleAt source depth)) := by
  intro b c block s unfailed
  have here : (Incident.invoked b c s.context.settings).leaving = none := rfl
  rw [chronicle, List.filterMap_cons_none here, List.filterMap_append, ready_leavings]
  rcases entrance?_cases Chronicled.moving (Balance.reach source depth) b c block s with
    ⟨none, -⟩ | ⟨seq, label, s₁, entrance, -, -, stack, answer⟩
  · rw [none]
    rfl
  · rw [entrance]
    apply called
    intro f failed
    exact unfailed _ (answer.trans (congrArg (Option.map _) failed))

theorem Env.calls_leavings (source : Scope → Nat → Store → Lowering) (depth : Nat) :
    CallsLeaveNone source depth := by
  induction depth with
  | zero => exact fun h i seq s _ => rfl
  | succ depth ih =>
    intro h i seq s unfailed
    unfold chronicleAt
    cases reached : s.store.reaches h with
    | false => rfl
    | true =>
      rw [if_pos rfl]
      apply Interpreter.interpret_leavings (Balance.reach source depth) (Body.invoke_leavings ih)
      intro f failed
      exact unfailed f (congrArg Prod.fst (interpretAt_ended reached (Prod.ext failed rfl)))

/-! ### By a failure -/

/-- Instructions of one's own do not lose an engine. -/
theorem Interpreter.Stops.sequences_ne_nil {faults : Faults} {engine : Nat} {i : Invocation}
    {seq : Sequence} {own : Nat} {last : Value} {instrs : List Instr} {s : State} {cause : Cause}
    {origin : Origin} (stops : Stops source depth faults engine i seq own last instrs s cause origin)
    (dropped : cause = .engineDropped) : origin.sequences ≠ [] := by
  induction stops with
  | later step stops ih => exact ih dropped
  | raised | underflow | overflow => cases dropped
  | nested known fails =>
    cases fails with
    | unprepared | overflow => cases dropped
    | inside => exact List.cons_ne_nil _ _

/-- Calls of engines that fail as described leave the interpretations of the chain. -/
def FaultsLeave (source : Scope → Nat → Store → Lowering) (depth : Nat) : Prop :=
  ∀ {h i seq s cause origin}, Env.faults source depth h i seq s cause origin →
    (Env.chronicleAt source depth h i seq s).filterMap Incident.leaving =
      cause.leaves (seq :: origin.sequences)

theorem Body.Fails.leaves (faults : FaultsLeave source depth) {b : Body} {c : Call} {block : Block}
    {s : State} {cause : Cause} {origin : Origin}
    (fails : b.Fails source depth (Env.faults source depth) c block s cause origin) :
    (b.chronicle ((Env.interpreting source).reach depth) (readyChronicle source depth)
      (Env.chronicleAt source depth) c block s).filterMap Incident.leaving =
      cause.leaves origin.sequences := by
  have here : (Incident.invoked b c s.context.settings).leaving = none := rfl
  rw [chronicle, List.filterMap_cons_none here, List.filterMap_append, ready_leavings]
  cases fails with
  | unprepared refused =>
    obtain ⟨s', failed⟩ := sequence_failed_iff.mpr ⟨_, refused, rfl⟩
    rw [entrance?_unready failed nofun]
    exact (Cause.leaves_nil _).symm
  | overflow ready generic limit =>
    rw [entrance?_refused ready generic limit]
    exact (Cause.leaves_nil _).symm
  | inside ready room kind fault =>
    rw [entrance?_run ready room kind]
    exact faults fault

theorem Interpreter.Stops.leaves (faults : FaultsLeave source depth) {engine : Nat} {i : Invocation}
    {seq : Sequence} {own : Nat} {last : Value} {instrs : List Instr} {s : State} {cause : Cause}
    {origin : Origin}
    (stops : Stops source depth (Env.faults source depth) engine i seq own last instrs s cause
      origin) :
    let reach := (Env.interpreting source).reach depth
    (runChronicle reach (Body.chronicle reach (readyChronicle source depth)
        (Env.chronicleAt source depth)) engine i seq own last instrs s).filterMap Incident.leaving =
      cause.leaves origin.sequences := by
  intro reach
  have none := Body.invoke_leavings (Env.calls_leavings source depth)
  induction stops with
  | later step stops ih =>
    unfold runChronicle thenChronicle
    rw [List.filterMap_append, execute_leavings none (by rw [step]; simp), step]
    exact ih
  | raised => exact (Cause.leaves_nil _).symm
  | underflow => exact (Cause.leaves_nil _).symm
  | overflow limit =>
    unfold runChronicle thenChronicle
    rw [execute, bind_of_failed (pushFrame_refused limit)]
    exact (Cause.leaves_nil _).symm
  | @nested own last scope rest s s₁ b cause origin known fails =>
    let v : Visit := ⟨reach, engine, i, seq, scope, s⟩
    cases known.symm.trans v.bodyFor_run
    obtain ⟨s', failed⟩ := (define_failed_iff (Env.faults_explain depth)).mpr
      ⟨_, _, _, _, known, fails, rfl⟩
    have inside := fails.leaves faults
    unfold runChronicle thenChronicle
    rw [execute, bind_of_failed failed, List.append_nil]
    change (v.making ++ _).filterMap Incident.leaving = _
    rw [List.filterMap_append, v.making_leavings]
    exact inside

theorem Env.faults_leave (source : Scope → Nat → Store → Lowering) (depth : Nat) :
    FaultsLeave source depth := by
  induction depth with
  | zero => exact fun fault => fault.elim
  | succ depth ih =>
    intro h i seq s cause origin fault
    unfold chronicleAt
    rcases fault with ⟨gone, rfl, rfl⟩ | ⟨reached, stops⟩
    · rw [gone]
      rfl
    · obtain ⟨own, s', ran⟩ := Interpreter.run_of_stops (faults_explain depth) stops
        (List.nil_append _).symm rfl
      unfold Interpreter.chronicle thenChronicle
      rw [reached, if_pos rfl, List.filterMap_append, stops.leaves ih, ran,
        Cause.leaves_cons seq stops.sequences_ne_nil]
      rfl

/-! ## Invocations that lie in a run -/

/-- The visit lies in a run from one state to the other. -/
structure Visit.Amid (source : Scope → Nat → Store → Lowering) (s : State) (v : Visit) (s' : State) :
    Prop where
  reach : ∃ depth, v.reach = (Env.interpreting source).reach depth
  before : s.Before v.state
  after : v.run.2.Before s'

namespace Visit.Amid

variable {s s₁ s' : State} {v : Visit}

theorem later (h : v.Amid source s₁ s') (before : s.Before s₁) : v.Amid source s s' :=
  ⟨h.reach, before.trans h.before, h.after⟩

theorem earlier (h : v.Amid source s s₁) (after : s₁.Before s') : v.Amid source s s' :=
  ⟨h.reach, h.before, h.after.trans after⟩

theorem opened (h : v.Amid source s s') : s.Before v.opened := by
  have told : v.state.Before v.told := State.Before.stepwise.told v.state _ rfl
  have found : v.told.Before v.opened :=
    Interpreter.bodyFor_keeps State.Before.stepwise.toAside _ _ _ _ v.told
  exact h.before.trans (told.trans found)

end Visit.Amid

/-- The announcement is the first thing that an invocation does. -/
theorem Body.announced_first (b : Body) (c : Call) (block : Block) (s : State) :
    (b.announced c s).Before (b.invoke ((Env.interpreting source).reach depth) c block s).2 := by
  have w := State.Before.stepwise
  have reach : ((Env.interpreting source).reach depth).Keeps fun s _ s' => s.Before s' :=
    w.reach depth
  rw [invoke, bind_of_ok (b.announce_run c s)]
  refine Keeps.bind w.toChained (b.sequence_keeps w.toChained reach) (fun seq => ?_) _
  exact w.guarded.withProtocol _ _ _ (b.dispatch_keeps w.guarded reach c seq block)

theorem Body.invoke_amid
    (called : ∀ h i seq s, ∀ v ∈ Env.visitsAt source depth h i seq s,
      v.Amid source s ((Env.interpreting source).interpretAt depth h i seq s).2)
    (b : Body) (c : Call) (block : Block) (s : State) :
    let reach := (Env.interpreting source).reach depth
    ∀ v ∈ b.visits reach (Env.visitsAt source depth) c block s,
      v.Amid source s (b.invoke reach c block s).2 := by
  intro reach v among
  have announced : s.Before (b.announced c s) :=
    (b.announce_keeps State.Before.stepwise.toAside c).of_ended (b.announce_run c s)
  have ready : (b.announced c s).Before (b.sequence reach (b.announced c s)).2 :=
    Keeps.readyAt State.Before.stepwise.toAside.preparing depth b _ _
  rw [visits_entrance] at among
  rcases entrance?_cases State.Before.stepwise.toMoving (Balance.reach source depth) b c block s with
    ⟨none, -⟩ | ⟨seq, label, s₁, entrance, before, after, -⟩
  · rw [none] at among
    cases among
  · rw [entrance] at among
    have inside := called _ _ _ _ v among
    exact (inside.earlier after).later (announced.trans (ready.trans before))

theorem Interpreter.run_amid {r : Reach} {visitsOf : Body → Call → Block → State → List Visit}
    (reach : ∃ depth, r = (Env.interpreting source).reach depth)
    (invoked : ∀ (b : Body) c block s, ∀ v ∈ visitsOf b c block s,
      v.Amid source s (b.invoke r c block s).2)
    (engine : Nat) (i : Invocation) (seq : Sequence) (own : Nat) (last : Value)
    (instrs : List Instr) (s : State) :
    ∀ v ∈ visits r visitsOf engine i seq own last instrs s,
      v.Amid source s (run r engine i seq own last instrs s).2 := by
  have grows : r.Keeps fun s _ s' => s.Before s' := by
    obtain ⟨depth, rfl⟩ := reach
    exact State.Before.stepwise.reach depth
  induction instrs generalizing own last s with
  | nil => exact fun v among => nomatch among
  | cons instr rest ih =>
    intro v among
    have first : s.Before (execute r engine i seq own last instr s).2 :=
      execute_keeps State.Before.stepwise grows engine i seq own last instr s
    have here : v ∈ visitsHere r visitsOf engine i seq s instr →
        v.Amid source s (execute r engine i seq own last instr s).2 := by
      intro within
      cases instr with
      | define scope =>
        let v₀ : Visit := ⟨r, engine, i, seq, scope, s⟩
        have ended : (execute r engine i seq own last (.define scope) s).2 = v₀.run.2 :=
          congrArg Prod.snd (bind_pure_run _ _ s)
        rw [ended]
        rcases List.mem_cons.mp within with rfl | inside
        · exact ⟨reach, .refl s, .refl _⟩
        · rw [v₀.run_eq]
          have here : v₀.Amid source s v₀.run.2 := ⟨reach, .refl s, .refl _⟩
          exact (invoked _ _ _ _ v inside).later here.opened
      | _ => cases within
    rw [visits] at among
    rcases step : execute r engine i seq own last instr s with ⟨_ | ⟨own', last'⟩ | f | t, s₁⟩ <;>
      rw [step] at first here among <;> rcases List.mem_append.mp among with within | later
    · rw [run_of_none step]
      exact here within
    · cases later
    · rw [run_of_ok step]
      exact (here within).earlier
        (run_keeps State.Before.stepwise grows engine i seq own' last' rest s₁)
    · rw [run_of_ok step]
      exact (ih own' last' s₁ v later).later first
    · rw [run_of_failed step]
      exact here within
    · cases later
    · rw [run_of_panicked step]
      exact here within
    · cases later

theorem Env.interpretAt_amid (source : Scope → Nat → Store → Lowering) (depth : Nat) (h : Handle)
    (i : Invocation) (seq : Sequence) (s : State) :
    ∀ v ∈ visitsAt source depth h i seq s,
      v.Amid source s ((interpreting source).interpretAt depth h i seq s).2 := by
  induction depth generalizing h i seq s with
  | zero => exact fun v among => nomatch among
  | succ depth ih =>
    intro v among
    rw [visitsAt] at among
    split at among
    next reached =>
      have held : s.Before (s.held h.engine) :=
        State.Before.stepwise.stored s _ (.hold s.store h.engine)
      have released (s₁ : State) : s₁.Before (s₁.released h.engine) :=
        State.Before.stepwise.stored s₁ _ (.release s₁.store h.engine)
      have inside := Interpreter.run_amid ⟨depth, rfl⟩ (Body.invoke_amid ih) h.engine i seq 0 .nil
        seq.instrs (s.held h.engine) v among
      have popped : (Interpreter.run ((interpreting source).reach depth) h.engine i seq 0 .nil
          seq.instrs (s.held h.engine)).2.Before (Interpreter.interpret
            ((interpreting source).reach depth) h.engine i seq (s.held h.engine)).2 := by
        have w := State.Before.stepwise
        refine Keeps.bind_after w.toChained (fun result => ?_) (s.held h.engine)
        obtain ⟨o, own⟩ := result
        refine .bind w.toChained (Interpreter.report_keeps w.toTelling o) fun _ => ?_
        exact .ensuring w.toChained (.ofOutcome w.toChained o) (.popFrames w.toMoving own)
      rw [interpretAt_reached reached]
      rcases run : Interpreter.interpret ((interpreting source).reach depth) h.engine i seq
        (s.held h.engine) with ⟨_ | o, s₁⟩ <;> rw [run] at popped
      · rw [holding_of_none run]
        exact (inside.earlier popped).later held
      · rw [holding_of_ended run]
        exact (inside.earlier (popped.trans (released s₁))).later held
    next => cases among

end

end BodyCall
