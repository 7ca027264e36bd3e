import BodyCall.Proofs.Invariants
import BodyCall.Proofs.Origins
import BodyCall.Proofs.Visits

/-!
# Where in a run

A failure that leaves a run has its place there: the invocation that was called for, or one of the
definitions that the run comes to, each of which invokes a body. So what holds at all these places is
enough to exclude a failure, and an invariant of the store holds at all of them.
-/

namespace BodyCall

open Eval

/-- Instructions stop at one of their own that is no definition. -/
inductive Interpreter.StopsHere (r : Reach) (engine : Nat) (i : Invocation) (seq : Sequence) :
    Nat → Value → List Instr → State → Cause → Prop where
  | later {own own' : Nat} {last last' : Value} {instr : Instr} {rest : List Instr} {s s₁ : State}
      {cause : Cause}
      (step : execute r engine i seq own last instr s = (some (.ok (own', last')), s₁))
      (stops : StopsHere r engine i seq own' last' rest s₁ cause) :
      StopsHere r engine i seq own last (instr :: rest) s cause
  | now {own : Nat} {last : Value} {instr : Instr} {rest : List Instr} {s s₁ : State} {f : Failure}
      {cause : Cause} (plain : ∀ scope, instr ≠ .define scope)
      (step : execute r engine i seq own last instr s = (some (.failed f), s₁))
      (same : f.cause = cause) : StopsHere r engine i seq own last (instr :: rest) s cause

/-- Instructions of one's own do not lose an engine. -/
theorem Interpreter.StopsHere.not_dropped {r : Reach} {engine : Nat} {i : Invocation}
    {seq : Sequence} {own : Nat} {last : Value} {instrs : List Instr} {s : State} {cause : Cause}
    (stops : StopsHere r engine i seq own last instrs s cause) : cause ≠ .engineDropped := by
  induction stops with
  | later step stops ih => exact ih
  | now plain step same =>
    obtain ⟨cause', rfl, reason⟩ := execute_plain_failed plain step
    rw [← same, Failure.attach_cause]
    rcases reason with ⟨_, -, rfl⟩ | ⟨_, -, -, rfl⟩ | ⟨-, -, rfl⟩ <;> nofun

/-- A call through a handle fails of itself: its engine is gone, or its sequence stops. -/
inductive Handle.FailsHere (h : Handle) (i : Invocation) (seq : Sequence) (s : State) :
    Cause → Prop where
  | gone (gone : s.store.reaches h = false) : FailsHere h i seq s .engineDropped
  | stopped {r : Reach} {cause : Cause}
      (stops : Interpreter.StopsHere r h.engine i seq 0 .nil seq.instrs (s.held h.engine) cause) :
      FailsHere h i seq s cause

/-- An invocation fails of itself: its body is not ready, its frame is refused, or its call of the
engine fails. -/
inductive Body.FailsHere (r : Reach) (b : Body) (c : Call) (block : Block) (s : State) :
    Cause → Prop where
  | unready {reason : String} : FailsHere r b c block s (.materialization b.scope.text reason)
  | refused {max : Nat} : FailsHere r b c block s (.stackOverflow max)
  | inside {seq : Sequence} {s₁ : State} {label : String} {cause : Cause}
      (ready : b.sequence r (b.announced c s) = (some (.ok seq), s₁))
      (room : s₁.Admits seq.explicit) (kind : b.scope.label? = some label)
      (fails : seq.handle.FailsHere (invocation label c block) seq
        (b.opened c block label seq s₁) cause) :
      FailsHere r b c block s cause

def Visit.FailsHere (v : Visit) (cause : Cause) : Prop :=
  v.body.FailsHere v.reach (Interpreter.definitionCall v.body) .absent v.opened cause

variable {source : Scope → Nat → Store → Lowering} {depth : Nat}

/-! ## Failures -/

def Placed (source : Scope → Nat → Store → Lowering) (depth : Nat) (faults : Faults) : Prop :=
  ∀ {h : Handle} {i : Invocation} {seq : Sequence} {s : State} {cause : Cause} {origin : Origin},
    faults h i seq s cause origin → h.FailsHere i seq s cause ∨
      ∃ v ∈ Env.visitsAt source depth h i seq s, v.FailsHere cause

variable {faults : Faults}

theorem Body.Fails.placed (hf : Placed source depth faults) {b : Body} {c : Call} {block : Block}
    {s : State} {cause : Cause} {origin : Origin}
    (fails : b.Fails source depth faults c block s cause origin) :
    b.FailsHere ((Env.interpreting source).reach depth) c block s cause ∨
      ∃ v ∈ b.visits ((Env.interpreting source).reach depth) (Env.visitsAt source depth) c block s,
        v.FailsHere cause := by
  cases fails with
  | unprepared refused => exact .inl .unready
  | overflow ready generic limit => exact .inl .refused
  | inside ready room kind fault =>
    rw [visits_run ready room kind]
    rcases hf fault with here | nested
    · exact .inl (.inside ready room kind here)
    · exact .inr nested

theorem Interpreter.Stops.placed (hf : Placed source depth faults) {engine : Nat} {i : Invocation}
    {seq : Sequence} {own : Nat} {last : Value} {instrs : List Instr} {s : State} {cause : Cause}
    {origin : Origin}
    (stops : Stops source depth faults engine i seq own last instrs s cause origin) :
    let reach := (Env.interpreting source).reach depth
    StopsHere reach engine i seq own last instrs s cause ∨
      ∃ v ∈ visits reach (Body.visits reach (Env.visitsAt source depth)) engine i seq own last
        instrs s, v.FailsHere cause := by
  intro reach
  induction stops with
  | @later own own' last last' instr rest s s₁ cause origin step stops ih =>
    rw [visits, step]
    rcases ih with here | ⟨v, among, fails⟩
    · exact .inl (.later step here)
    · exact .inr ⟨v, List.mem_append_right _ among, fails⟩
  | raised own last message rest s =>
    exact .inl (.now (by simp) (execute_raise message) (Failure.attach_cause _ _))
  | underflow last rest s => exact .inl (.now (by simp) execute_underflow (Failure.attach_cause _ _))
  | overflow limit =>
    exact .inl (.now (by simp) (bind_of_failed (pushFrame_refused limit)) (Failure.attach_cause _ _))
  | @nested own last scope rest s s₁ b cause origin known fails =>
    let v : Visit := ⟨reach, engine, i, seq, scope, s⟩
    have same := known.symm.trans v.bodyFor_run
    cases same
    rw [visits]
    rcases fails.placed hf with here | ⟨v', among, fails'⟩
    · exact .inr ⟨v, List.mem_append_left _ List.mem_cons_self, here⟩
    · exact .inr ⟨v', List.mem_append_left _ (List.mem_cons_of_mem v among), fails'⟩

theorem Env.faults_placed (source : Scope → Nat → Store → Lowering) (depth : Nat) :
    Placed source depth (Env.faults source depth) := by
  induction depth with
  | zero => exact fun fault => fault.elim
  | succ depth ih =>
    intro h i seq s cause origin fault
    rcases fault with ⟨gone, rfl, -⟩ | ⟨reached, stops⟩
    · exact .inl (.gone gone)
    · rw [visitsAt, if_pos reached]
      rcases stops.placed ih with here | nested
      · exact .inl (.stopped here)
      · exact .inr nested

/-! ## Nothing catches a failure -/

def EndsIn (cause : Cause) (ended : Option (Outcome Value) × State) : Prop :=
  ∃ f s', ended = (some (.failed f), s') ∧ f.cause = cause

theorem EndsIn.of_failed {f : Failure} {ended : Option (Outcome Value) × State}
    (failed : ended.1 = some (.failed f)) : EndsIn f.cause ended :=
  ⟨f, ended.2, Prod.ext failed rfl, rfl⟩

section

variable {cause : Cause} {inner : Handle → Invocation → Sequence → State → List Visit}

theorem Interpreter.run_of_visit {r : Reach} {inner : Body → Call → Block → State → List Visit}
    (nested : ∀ b c block s, ∀ v ∈ inner b c block s, EndsIn cause v.run →
      EndsIn cause (b.invoke r c block s))
    {engine : Nat} {i : Invocation} {seq : Sequence} {own : Nat} {last : Value}
    {instrs : List Instr} {s : State} {v : Visit}
    (among : v ∈ visits r inner engine i seq own last instrs s) (failed : EndsIn cause v.run) :
    ∃ f own' s', run r engine i seq own last instrs s = (some (.ok (.failed f, own')), s') ∧
      f.cause = cause := by
  induction instrs generalizing own last s with
  | nil => cases among
  | cons instr rest ih =>
    rw [visits] at among
    rcases List.mem_append.mp among with here | later
    · cases instr with
      | define scope =>
        let v₀ : Visit := ⟨r, engine, i, seq, scope, s⟩
        have stopped : EndsIn cause v₀.run := by
          rcases List.mem_cons.mp here with rfl | inside
          · exact failed
          · rw [v₀.run_eq]
            exact nested _ _ _ _ v inside failed
        obtain ⟨f, s', ended, same⟩ := stopped
        exact ⟨f, own, s', run_of_failed (bind_of_failed ended) rest, same⟩
      | _ => cases here
    · rcases step : execute r engine i seq own last instr s with
        ⟨_ | ⟨own', last'⟩ | f | t, s₁⟩ <;> rw [step] at later
      · cases later
      · rw [run_of_ok step]
        exact ih later
      · cases later
      · cases later

theorem Body.invoke_of_visit
    (called : ∀ h i seq s, ∀ v ∈ inner h i seq s, EndsIn cause v.run →
      EndsIn cause ((Env.interpreting source).interpretAt depth h i seq s))
    {b : Body} {c : Call} {block : Block} {s : State} {v : Visit}
    (among : v ∈ b.visits ((Env.interpreting source).reach depth) inner c block s)
    (failed : EndsIn cause v.run) :
    EndsIn cause (b.invoke ((Env.interpreting source).reach depth) c block s) := by
  unfold visits at among
  split at among
  next seq s₁ label ready kind =>
    split at among
    next admitted =>
      have room : s₁.Admits seq.explicit := by
        simpa [State.Admits, Bool.or_eq_true] using admitted
      obtain ⟨f, s₂, ended, same⟩ := called _ _ _ _ v among failed
      refine ⟨_, _, (Course.interpreted ready room kind ended).run (Balance.reach source depth), ?_⟩
      exact (Failure.attach_cause _ f).trans same
    next => cases among
  next => cases among

/-- A failure of a definition is the failure of the whole run. -/
theorem Env.interpretAt_of_visit {h : Handle} {i : Invocation} {seq : Sequence} {s : State}
    {v : Visit} (among : v ∈ visitsAt source depth h i seq s) (failed : EndsIn cause v.run) :
    EndsIn cause ((interpreting source).interpretAt depth h i seq s) := by
  induction depth generalizing h i seq s v with
  | zero => cases among
  | succ depth ih =>
    rw [visitsAt] at among
    split at among
    next reached =>
      have nested (b : Body) (c : Call) (block : Block) (s : State) (v : Visit)
          (inside : v ∈ b.visits ((interpreting source).reach depth) (visitsAt source depth) c block s)
          (failed : EndsIn cause v.run) :
          EndsIn cause (b.invoke ((interpreting source).reach depth) c block s) :=
        b.invoke_of_visit (fun _ _ _ _ _ => ih) inside failed
      obtain ⟨f, own, s₁, ran, same⟩ := Interpreter.run_of_visit nested among failed
      obtain ⟨s₂, ended, -⟩ := Interpreter.interpret_of_run (Balance.reach source depth) ran
      exact ⟨f, _, interpretAt_ended reached ended, same⟩
    next => cases among

end

/-! ## Invariants -/

namespace Invariant

/-- An invariant is there when a run from the store comes to a definition, and so is the engine. -/
structure Met (I : Invariant source) (st : Store) (v : Visit) : Prop where
  reach : ∃ depth, v.reach = (Env.interpreting source).reach depth
  holds : I.holds v.state.store
  fits : I.fits v.engine v.seq.handle
  part : I.part v.scope
  before : st.Before v.state.store
  running : ∀ engine ∈ st.running, engine ∈ v.state.store.running
  called : v.engine ∈ v.state.store.running

variable {I : Invariant source} {st st₁ : Store} {v : Visit} {ended : Bool}

theorem Met.after (h : I.Met st₁ v) (before : st.Before st₁)
    (running : ∀ engine ∈ st.running, engine ∈ st₁.running) : I.Met st v :=
  ⟨h.reach, h.holds, h.fits, h.part, before.trans h.before,
    fun engine called => h.running engine (running engine called), h.called⟩

theorem Met.carried (h : I.Met st₁ v) (carried : I.Carried st true st₁) : I.Met st v :=
  h.after carried.before fun _ called => (carried.running rfl).symm ▸ called

theorem Met.opened (h : I.Met st v) :
    I.Carried v.state.store true v.opened.store ∧ I.known v.opened.store v.body ∧
      I.apt v.body.handle := by
  obtain ⟨b, s₁, ran, rest⟩ := bodyFor (s := v.told) h.fits h.part v.parent? h.holds
  have same := v.bodyFor_run.symm.trans ran
  cases same
  exact rest

def MetWithin (I : Invariant source) (depth : Nat) : Prop :=
  ∀ (h : Handle) (i : Invocation) (seq : Sequence) (s : State), I.holds s.store →
    I.fits h.engine seq.handle → seq.StaysIn I.part →
    ∀ v ∈ Env.visitsAt source depth h i seq s, I.Met s.store v

theorem invoke_met (within : I.MetWithin depth) {b : Body} {s : State} (holds : I.holds s.store)
    (known : I.known s.store b) (apt : I.apt b.handle) (c : Call) (block : Block) :
    ∀ v ∈ b.visits ((Env.interpreting source).reach depth) (Env.visitsAt source depth) c block s,
      I.Met s.store v := by
  intro v among
  unfold Body.visits at among
  split at among
  next seq s₁ label ready kind =>
    obtain ⟨carried, installed⟩ := readied (I.reach depth) holds known ready
    obtain ⟨fits, stays⟩ := I.ready carried.holds (I.kept known carried.before) apt installed
    split at among
    · have alike := b.alike_opened c block label seq s₁
      have met := within _ _ _ _ (alike.store ▸ carried.holds) fits stays v among
      rw [alike.store] at met
      exact met.carried carried
    · cases among
  next => cases among

theorem visits_met (within : I.MetWithin depth) {engine : Nat} {seq : Sequence}
    (fits : I.fits engine seq.handle) (i : Invocation) (own : Nat) (last : Value)
    {instrs : List Instr} (stays : ∀ scope, .define scope ∈ instrs → I.part scope) {s : State}
    (holds : I.holds s.store) (called : engine ∈ s.store.running) :
    let reach := (Env.interpreting source).reach depth
    ∀ v ∈ Interpreter.visits reach (Body.visits reach (Env.visitsAt source depth)) engine i seq own
      last instrs s, I.Met s.store v := by
  intro reach
  -- on the instructions: the invariant holds before each of them, while the engine is being called
  induction instrs generalizing own last s with
  | nil =>
    intro v among
    cases among
  | cons instr rest ih =>
    intro v among
    rw [Interpreter.visits] at among
    rcases List.mem_append.mp among with here | later
    · cases instr with
      | define scope =>
        let v₀ : Visit := ⟨reach, engine, i, seq, scope, s⟩
        have met : I.Met s.store v₀ := ⟨⟨depth, rfl⟩, holds, fits, stays scope List.mem_cons_self,
          .refl s.store, fun _ => id, called⟩
        rcases List.mem_cons.mp here with rfl | inside
        · exact met
        · obtain ⟨carried, known, apt⟩ := met.opened
          have within := invoke_met within carried.holds known apt _ _ v inside
          exact within.carried carried
      | _ => cases here
    · have part (scope : Scope) (here : instr = .define scope) : I.part scope :=
        stays scope (here ▸ List.mem_cons_self)
      have carried := execute (I.reach depth) fits i own last part s holds (by simp)
      rcases step : Interpreter.execute reach engine i seq own last instr s with
        ⟨_ | ⟨own', last'⟩ | f | t, s₁⟩ <;> rw [step] at carried later
      · cases later
      · have rest (scope : Scope) (among : .define scope ∈ rest) : I.part scope :=
          stays scope (List.mem_cons_of_mem instr among)
        have met := ih own' last' rest carried.holds ((carried.running rfl).symm ▸ called) v later
        exact met.carried carried
      · cases later
      · cases later

theorem metWithin (I : Invariant source) (depth : Nat) : I.MetWithin depth := by
  induction depth with
  | zero => exact fun _ _ _ _ _ _ _ v among => nomatch among
  | succ depth ih =>
    intro h i seq s holds fits stays v among
    rw [Env.visitsAt] at among
    split at among
    next reached =>
      have step : s.store.Step (s.store.calling h.engine) := .hold s.store h.engine
      have met := visits_met ih fits i 0 .nil stays (s := s.held h.engine)
        (I.called holds reached) List.mem_cons_self v among
      exact met.after step.before fun _ => List.mem_cons_of_mem h.engine
    next => cases among

end Invariant

end BodyCall
