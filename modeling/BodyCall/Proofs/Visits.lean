import BodyCall.Proofs.Course
import BodyCall.Proofs.Ready

/-!
# The definitions that a run comes to

A visit is the execution of a definition: where it stands, for which invocation, and in which state.
`visits` lists those of a run in order, a nested one after the one whose body it stands in, however
the run goes on from there. Between them the run leaves alone what engines have defined.
-/

namespace BodyCall

open Eval

structure Visit where
  reach : Reach
  engine : Nat
  /-- The invocation whose sequence the definition stands in. -/
  invocation : Invocation
  seq : Sequence
  scope : Scope
  state : State

namespace Visit

def parent? (v : Visit) : Option Module := v.invocation.call.receiver.module?

/-- The state once the definition has been told of. -/
def told (v : Visit) : State :=
  { v.state with trace := .defining v.engine v.scope :: v.state.trace }

/-- The body that the engine has for the scope, or makes for it here. -/
def body (v : Visit) : Body :=
  (v.state.store.definition? v.engine v.scope).getD
    (Interpreter.newBody v.state.store v.scope v.parent? v.seq.handle)

/-- The state in which that body is invoked. -/
def opened (v : Visit) : State :=
  (Interpreter.bodyFor v.engine v.scope v.parent? v.seq.handle v.told).2

variable {v : Visit}

theorem body_of_known {b : Body} (found : v.state.store.definition? v.engine v.scope = some b) :
    v.body = b := by
  rw [body, found]
  rfl

theorem body_of_absent (absent : v.state.store.definition? v.engine v.scope = none) :
    v.body = Interpreter.newBody v.state.store v.scope v.parent? v.seq.handle := by
  rw [body, absent]
  rfl

theorem opened_of_known {b : Body} (found : v.state.store.definition? v.engine v.scope = some b) :
    v.opened.store = v.state.store := by
  rw [opened, Interpreter.bodyFor_known (s := v.told) found]
  rfl

theorem opened_of_absent (absent : v.state.store.definition? v.engine v.scope = none) :
    v.opened.store = Interpreter.defining v.state.store v.engine v.body := by
  rw [opened, Interpreter.bodyFor_absent (s := v.told) absent, body_of_absent absent]
  rfl

theorem bodyFor_run (v : Visit) :
    Interpreter.bodyFor v.engine v.scope v.parent? v.seq.handle v.told =
      (some (.ok v.body), v.opened) := by
  unfold opened
  cases found : v.state.store.definition? v.engine v.scope with
  | some b => rw [Interpreter.bodyFor_known (s := v.told) found, body_of_known found]
  | none => rw [Interpreter.bodyFor_absent (s := v.told) found, body_of_absent found]; rfl

/-- The instruction that is executed. -/
def run (v : Visit) : Option (Outcome Value) × State :=
  Interpreter.define v.reach v.engine v.invocation v.seq v.scope v.state

/-- A visit invokes the body of its scope, with the module of that body as the receiver. -/
theorem run_eq (v : Visit) :
    v.run = v.body.invoke v.reach (Interpreter.definitionCall v.body) .absent v.opened :=
  Interpreter.define_run v.bodyFor_run

end Visit

/-! ## The visits of a run -/

namespace Interpreter

/-- The visits of one instruction. Those of the body of a definition come from `inner`. -/
def visitsHere (r : Reach) (inner : Body → Call → Block → State → List Visit) (engine : Nat)
    (i : Invocation) (seq : Sequence) (s : State) : Instr → List Visit
  | .define scope =>
    let v : Visit := ⟨r, engine, i, seq, scope, s⟩
    v :: inner v.body (definitionCall v.body) .absent v.opened
  | _ => []

/-- The visits of the rest of a sequence. -/
def visits (r : Reach) (inner : Body → Call → Block → State → List Visit) (engine : Nat)
    (i : Invocation) (seq : Sequence) : Nat → Value → List Instr → State → List Visit
  | _, _, [], _ => []
  | own, last, instr :: rest, s =>
    visitsHere r inner engine i seq s instr ++
      match execute r engine i seq own last instr s with
      | (some (.ok (own', last')), s') => visits r inner engine i seq own' last' rest s'
      | _ => []

end Interpreter

/-- The visits of an invocation, which are those of the sequence that it gets to run. -/
def Body.visits (r : Reach) (inner : Handle → Invocation → Sequence → State → List Visit) (b : Body)
    (c : Call) (block : Block) (s : State) : List Visit :=
  match b.sequence r (b.announced c s), b.scope.label? with
  | (some (.ok seq), s₁), some label =>
    if seq.explicit || s₁.context.exceeded?.isNone then
      inner seq.handle (invocation label c block) seq (b.opened c block label seq s₁)
    else []
  | _, _ => []

namespace Env

variable (source : Scope → Nat → Store → Lowering)

def visitsAt : Nat → Handle → Invocation → Sequence → State → List Visit
  | 0, _, _, _, _ => []
  | depth + 1, h, i, seq, s =>
    if s.store.reaches h then
      let reach := (interpreting source).reach depth
      Interpreter.visits reach (Body.visits reach (visitsAt depth)) h.engine i seq 0 .nil seq.instrs
        (s.held h.engine)
    else []

end Env

/-! ## Between visits -/

namespace Store

/-- Engines have defined neither more nor less, and no identity comes back. -/
structure Kept (st st' : Store) : Prop where
  definitions : st'.definitions = st.definitions
  ids : st.nextBody ≤ st'.nextBody

theorem Kept.refl (st : Store) : st.Kept st := ⟨rfl, Nat.le_refl _⟩

theorem Kept.trans {st st₁ st' : Store} (h : st.Kept st₁) (h' : st₁.Kept st') : st.Kept st' :=
  ⟨h'.definitions.trans h.definitions, Nat.le_trans h.ids h'.ids⟩

theorem Step.kept {st st' : Store} (h : st.Step st')
    (definitions : st'.definitions = st.definitions) : st.Kept st' := by
  refine ⟨definitions, ?_⟩
  cases h with
  | define absent m h => exact Nat.le_succ _
  | _ => exact Nat.le_refl _

end Store

/-- From one store to another by way of these visits, one after the other. -/
inductive Passes : Store → List Visit → Store → Prop where
  | rest {st st' : Store} (kept : st.Kept st') : Passes st [] st'
  | visit {st st' : Store} {v : Visit} {vs : List Visit} (kept : st.Kept v.state.store)
      (later : Passes v.opened.store vs st') : Passes st (v :: vs) st'

namespace Passes

variable {st st₁ st₂ : Store} {vs ws : List Visit}

theorem refl (st : Store) : Passes st [] st := .rest (.refl st)

theorem after (kept : st.Kept st₁) (h : Passes st₁ vs st₂) : Passes st vs st₂ := by
  cases h with
  | rest kept' => exact .rest (kept.trans kept')
  | visit kept' later => exact .visit (kept.trans kept') later

theorem trans (h : Passes st vs st₁) (h' : Passes st₁ ws st₂) : Passes st (vs ++ ws) st₂ := by
  induction h with
  | rest kept => exact h'.after kept
  | visit kept _ ih => exact .visit kept (ih h')

theorem keep (h : Passes st vs st₁) (kept : st₁.Kept st₂) : Passes st vs st₂ := by
  have both := h.trans (.rest kept)
  rw [List.append_nil] at both
  exact both

/-- Before any of the visits the way has led past the earlier ones, and to no others. -/
theorem split {before after : List Visit} {v : Visit} (h : Passes st (before ++ v :: after) st₂) :
    Passes st before v.state.store ∧ Passes v.opened.store after st₂ := by
  induction before generalizing st with
  | nil =>
    cases h with
    | visit kept later => exact ⟨.rest kept, later⟩
  | cons w before ih =>
    cases h with
    | visit kept later => exact ⟨.visit kept (ih later).1, (ih later).2⟩

end Passes

/-- No definition is visited from one state to the other. -/
abbrev Between : Passage := fun s _ s' => s.store.Kept s'.store

theorem Between.preparing : Preparing Between where
  refl s _ := .refl s.store
  trans := .trans
  told s _ _ := .refl s.store
  prepared _ _ step definitions := step.kept definitions

theorem Between.moving : Moving Between where
  refl s _ := .refl s.store
  trans := .trans
  moved s _ _ _ := .refl s.store

theorem Passes.bind {α β : Type} {x : Eval α} {k : α → Eval β} {s : State} {vs : List Visit}
    (hx : Passes s.store vs (x s).2.store) (hk : ∀ a, Keeps Between (k a)) :
    Passes s.store vs ((x >>= k) s).2.store := by
  rcases run : x s with ⟨_ | a | f | t, s₁⟩ <;> rw [run] at hx
  · rw [bind_of_none run]
    exact hx
  · rw [bind_of_ok run]
    exact hx.keep (hk a s₁)
  · rw [bind_of_failed run]
    exact hx
  · rw [bind_of_panicked run]
    exact hx

/-! ## Runs pass by their visits -/

namespace Interpreter

variable {r : Reach} {inner : Body → Call → Block → State → List Visit} {engine : Nat}
  {i : Invocation} {seq : Sequence}

theorem execute_between (instr : Instr) (other : ∀ scope, instr ≠ .define scope) (own : Nat)
    (last : Value) : Keeps Between (execute r engine i seq own last instr) := by
  have c := Between.moving.toChained
  cases instr with
  | line n => exact fun s => .refl s.store
  | put v => exact .pure c _
  | putSelf => exact .pure c _
  | raise message => exact .failHere c _
  | pushFrame => exact .bind c (.pushFrame Between.moving _) fun _ => .pure c _
  | popFrame =>
    cases own with
    | zero => exact .failHere c _
    | succ own => exact .bind c (.popFrame Between.moving) fun _ => .pure c _
  | define scope => exact absurd rfl (other scope)

theorem execute_passes (invoked : ∀ (b : Body) c block s,
      Passes s.store (inner b c block s) (b.invoke r c block s).2.store) (own : Nat) (last : Value)
    (instr : Instr) (s : State) : Passes s.store (visitsHere r inner engine i seq s instr)
      (execute r engine i seq own last instr s).2.store := by
  cases instr with
  | define scope =>
    let v : Visit := ⟨r, engine, i, seq, scope, s⟩
    have visited : Passes s.store (visitsHere r inner engine i seq s (.define scope))
        v.run.2.store := by
      rw [v.run_eq]
      exact .visit (.refl _) (invoked _ _ _ _)
    exact visited.bind fun value => .pure Between.moving.toChained (own, value)
  | _ => exact .rest (execute_between _ (by intro _ same; cases same) own last s)

theorem run_passes (invoked : ∀ (b : Body) c block s,
      Passes s.store (inner b c block s) (b.invoke r c block s).2.store) (own : Nat) (last : Value)
    (instrs : List Instr) (s : State) :
    Passes s.store (visits r inner engine i seq own last instrs s)
      (run r engine i seq own last instrs s).2.store := by
  induction instrs generalizing own last s with
  | nil => exact .refl s.store
  | cons instr rest ih =>
    have first : Passes s.store (visitsHere r inner engine i seq s instr)
        (execute r engine i seq own last instr s).2.store :=
      execute_passes invoked own last instr s
    rw [visits]
    refine first.trans ?_
    rcases step : execute r engine i seq own last instr s with ⟨_ | ⟨own', last'⟩ | f | t, s₁⟩
    · rw [run_of_none step]
      exact .refl s₁.store
    · rw [run_of_ok step]
      exact ih own' last' s₁
    · rw [run_of_failed step]
      exact .refl s₁.store
    · rw [run_of_panicked step]
      exact .refl s₁.store

theorem interpret_passes (invoked : ∀ (b : Body) c block s,
      Passes s.store (inner b c block s) (b.invoke r c block s).2.store) (s : State) :
    Passes s.store (visits r inner engine i seq 0 .nil seq.instrs s)
      (interpret r engine i seq s).2.store := by
  have c := Between.moving.toChained
  refine (run_passes invoked 0 .nil seq.instrs s).bind fun result => ?_
  obtain ⟨o, own⟩ := result
  refine .bind c (report_keeps Between.preparing.toTelling o) fun _ => ?_
  exact .ensuring c (.ofOutcome c o) (.popFrames Between.moving own)

end Interpreter

namespace Body

section

variable {r : Reach} {inner : Handle → Invocation → Sequence → State → List Visit} {b : Body}
  {c : Call} {block : Block} {seq : Sequence} {s s₁ : State}

theorem visits_run (ready : b.sequence r (b.announced c s) = (some (.ok seq), s₁))
    (room : s₁.Admits seq.explicit) {label : String} (kind : b.scope.label? = some label) :
    b.visits r inner c block s =
      inner seq.handle (invocation label c block) seq (b.opened c block label seq s₁) := by
  have admitted : (seq.explicit || s₁.context.exceeded?.isNone) = true := by
    rcases room with explicit | room
    · rw [explicit, Bool.true_or]
    · rw [room, Option.isNone_none, Bool.or_true]
  rw [visits, ready, kind]
  exact if_pos admitted

theorem visits_refused (ready : b.sequence r (b.announced c s) = (some (.ok seq), s₁))
    (generic : seq.explicit = false) {max : Nat} (limit : s₁.context.exceeded? = some max) :
    b.visits r inner c block s = [] := by
  rw [visits, ready]
  cases b.scope.label? with
  | none => rfl
  | some label => simp [generic, limit]

theorem visits_invalid (kind : b.scope.label? = none) : b.visits r inner c block s = [] := by
  unfold visits
  split
  next label _ known =>
    rw [kind] at known
    cases known
  next => rfl

theorem visits_unready {o : Option (Outcome Sequence)}
    (run : b.sequence r (b.announced c s) = (o, s₁)) (unready : ∀ seq, o ≠ some (.ok seq)) :
    b.visits r inner c block s = [] := by
  unfold visits
  split
  next ready _ =>
    rw [run] at ready
    exact absurd (Prod.mk.inj ready).1 (unready _)
  next => rfl

end

variable {source : Scope → Nat → Store → Lowering} {depth : Nat}
  {inner : Handle → Invocation → Sequence → State → List Visit}

theorem sequence_kept (b : Body) (c : Call) (s : State) : s.store.Kept
    (b.sequence ((Env.interpreting source).reach depth) (b.announced c s)).2.store := by
  rw [← b.announced_store c s]
  exact Keeps.readyAt Between.preparing depth b _ (b.announced c s)

theorem invoke_passes (interpreted : ∀ h i seq s, Passes s.store (inner h i seq s)
      (((Env.interpreting source).reach depth).interpret h i seq s).2.store)
    (b : Body) (c : Call) (block : Block) (s : State) :
    Passes s.store (b.visits ((Env.interpreting source).reach depth) inner c block s)
      (b.invoke ((Env.interpreting source).reach depth) c block s).2.store := by
  have balanced := Balance.reach source depth
  have ready : s.store.Kept
      (b.sequence ((Env.interpreting source).reach depth) (b.announced c s)).2.store :=
    b.sequence_kept c s
  rcases run : b.sequence ((Env.interpreting source).reach depth) (b.announced c s) with
    ⟨_ | seq | f | t, s₁⟩ <;> rw [run] at ready
  · rw [visits_unready run (by intro _ same; cases same), invoke, bind_of_ok (announce_run b c s),
      bind_of_none run]
    exact .rest ready
  · rcases s₁.admits_or_refuses seq.explicit with room | ⟨generic, max, limit⟩
    · cases kind : b.scope.label? with
      | none =>
        have same := (s₁.alike_framed seq.explicit (b.frame c block)).trans
          (State.alike_unframed _ seq.explicit)
        rw [visits_invalid kind, (Course.invalid run room kind).run balanced, same.store]
        exact .rest ready
      | some label =>
        have opened := b.alike_opened c block label seq s₁
        have through := interpreted seq.handle (invocation label c block) seq
          (b.opened c block label seq s₁)
        rw [opened.store] at through
        rw [visits_run run room kind]
        rcases ran : ((Env.interpreting source).reach depth).interpret seq.handle
          (invocation label c block) seq (b.opened c block label seq s₁) with ⟨_ | o, s₂⟩ <;>
          rw [ran] at through
        · rw [invoke_cut run room kind ran]
          exact through.after ready
        · rw [(Course.interpreted run room kind ran).run balanced,
            (s₂.alike_closed seq.explicit).store]
          exact through.after ready
    · rw [visits_refused run generic limit, (Course.refused run generic limit).run balanced]
      exact .rest ready
  · rw [visits_unready run (by intro _ same; cases same), (Course.unready run).run balanced]
    exact .rest ready
  · rw [visits_unready run (by intro _ same; cases same), (Course.broken run).run balanced]
    exact .rest ready

end Body

namespace Env

variable {source : Scope → Nat → Store → Lowering}

theorem interpretAt_passes (depth : Nat) (h : Handle) (i : Invocation) (seq : Sequence) (s : State) :
    Passes s.store (visitsAt source depth h i seq s)
      ((interpreting source).interpretAt depth h i seq s).2.store := by
  induction depth generalizing h i seq s with
  | zero => exact .refl s.store
  | succ depth ih =>
    cases reached : s.store.reaches h with
    | false =>
      rw [visitsAt, reached, interpretAt_gone reached]
      exact .refl s.store
    | true =>
      let reach := (interpreting source).reach depth
      have through : Passes (s.held h.engine).store
          (Interpreter.visits reach (Body.visits reach (visitsAt source depth)) h.engine i seq 0
            .nil seq.instrs (s.held h.engine))
          (Interpreter.interpret reach h.engine i seq (s.held h.engine)).2.store :=
        Interpreter.interpret_passes (Body.invoke_passes ih) (s.held h.engine)
      have held : s.store.Kept (s.held h.engine).store := ⟨rfl, Nat.le_refl _⟩
      rw [visitsAt, if_pos reached, interpretAt_reached reached]
      rcases run : Interpreter.interpret ((interpreting source).reach depth) h.engine i seq
        (s.held h.engine) with ⟨_ | o, s₁⟩ <;> rw [run] at through
      · rw [holding_of_none run]
        exact through.after held
      · rw [holding_of_ended run]
        exact (through.after held).keep ⟨rfl, Nat.le_refl _⟩

end Env

end BodyCall
