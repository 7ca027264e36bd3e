import BodyCall.Proofs.Agreement
import BodyCall.Proofs.Framing
import BodyCall.Proofs.Lockstep
import BodyCall.Proofs.Overflow

/-!
# Both call protocols come to the same

A program and the same program with some frames taken by the bodies themselves are run side by side.
Their stores differ in the sequences of those bodies. The caller pushes a frame before the body has
its entry, the body itself pushes one after that. Where the instructions in between run, the stacks
are equally high, and on the way out the frame and the entry go in either order.
-/

namespace BodyCall

open Eval

/-- One sequence is the other, or the other with a frame of its own around it. -/
inductive Sequence.Matches (seq : Sequence) : Sequence → Prop where
  | same : Matches seq seq
  | framed (generic : seq.explicit = false) (frameless : Frameless seq.instrs) :
      Matches seq { seq with explicit := true, instrs := framedInstrs seq.instrs }

theorem Sequence.Matches.handle {seq seq' : Sequence} (h : seq.Matches seq') :
    seq'.handle = seq.handle := by
  cases h <;> rfl

/-- The stores differ at most in the sequences of the bodies that are ready. -/
inductive Store.Matches (st : Store) : Store → Prop where
  | intro (installed : Table Nat Sequence)
      (sequences : ∀ id, Option.Rel Sequence.Matches (st.installed.get? id) (installed.get? id)) :
      Matches st { st with installed }

namespace Store.Matches

variable {st st' : Store}

theorem refl (st : Store) : st.Matches st := by
  refine .intro st.installed fun id => ?_
  cases st.installed.get? id with
  | none => exact .none
  | some seq => exact .some .same

theorem sequence? (h : st.Matches st') (b : Body) :
    Option.Rel Sequence.Matches (st.sequence? b) (st'.sequence? b) := by
  obtain ⟨installed, sequences⟩ := h
  exact sequences b.id

theorem install (h : st.Matches st') (b : Body) {seq seq' : Sequence} (matching : seq.Matches seq') :
    (st.install b seq).Matches (st'.install b seq') := by
  obtain ⟨installed, sequences⟩ := h
  refine .intro (installed.set b.id seq') fun id => ?_
  rw [Store.install, Table.get?_set, Table.get?_set]
  split
  · exact .some matching
  · exact sequences id

theorem noteLowering (h : st.Matches st') (scope : Scope) :
    (st.noteLowering scope).Matches (st'.noteLowering scope) := by
  obtain ⟨installed, sequences⟩ := h
  exact .intro installed sequences

theorem definitions (h : st.Matches st') : st'.definitions = st.definitions := by
  obtain ⟨installed, -⟩ := h
  rfl

theorem nextModule (h : st.Matches st') : st'.nextModule = st.nextModule := by
  obtain ⟨installed, -⟩ := h
  rfl

theorem handlesOf (h : st.Matches st') : st'.handlesOf = st.handlesOf := by
  funext b
  have found := h.sequence? b
  unfold Store.handlesOf
  generalize st.sequence? b = one at found ⊢
  generalize st'.sequence? b = other at found ⊢
  cases found with
  | none => rfl
  | some matching => exact congrArg (b.handle :: [·]) matching.handle

theorem reaches (h : st.Matches st') (handle : Handle) : st'.reaches handle = st.reaches handle := by
  have handles := h.handlesOf
  obtain ⟨installed, sequences⟩ := h
  unfold Store.reaches alive held cached
  rw [handles]

theorem stores : Stores Store.Matches where
  definition := by rintro _ _ ⟨installed, -⟩ engine scope; rfl
  newBody := by rintro _ _ ⟨installed, -⟩ scope parent handle; rfl
  defining := by rintro _ _ ⟨installed, sequences⟩ engine b; exact .intro installed sequences
  running := by rintro _ _ ⟨installed, sequences⟩ g; exact .intro installed sequences
  reaches := reaches

end Store.Matches

/-! ## Making the bodies ready -/

namespace Program

/-- The code of a scope in both programs, as far as it is accepted. -/
inductive Lowers (l : Lowered) : Lowered → Prop where
  | same : Lowers l l
  | framed (generic : l.explicit = false) (frameless : Frameless l.instrs) : Lowers l l.framed

variable {P : Program} {X : Framing P} {under : Settings} {depth : Nat}

theorem lowers (P : Program) (X : Framing P) (scope : Scope) :
    (∃ reason, (P.code scope).checked = .error reason ∧
      ((P.framed X).code scope).checked = .error reason) ∨
    ∃ l l', (P.code scope).checked = .ok l ∧ ((P.framed X).code scope).checked = .ok l' ∧
      Lowers l l' := by
  by_cases chosen : X.chosen scope = true
  · have lower := Lowers.framed (X.implicit chosen) (X.frameless chosen)
    refine .inr ⟨_, _, accepted_of_chosen chosen, ?_, lower⟩
    rw [framed_code_chosen chosen]
    exact framed_accepted chosen
  · have code := framed_code_other (P := P) chosen
    cases checked : (P.code scope).checked with
    | error reason => exact .inl ⟨reason, rfl, code ▸ checked⟩
    | ok l => exact .inr ⟨l, l, rfl, code ▸ checked, .same⟩

theorem Lowers.matches {l l' : Lowered} (h : Lowers l l') {st st' : Store} (stores : st.Matches st')
    (scope : Scope) (handle : Handle) :
    (preparedFrom st scope handle l).Matches (preparedFrom st' scope handle l') := by
  obtain ⟨installed, -⟩ := stores
  cases h with
  | same => exact .same
  | framed generic frameless => exact .framed generic frameless

theorem Lowers.installing {l l' : Lowered} (h : Lowers l l') {st st' : Store}
    (stores : st.Matches st') (b : Body) : (installing st b l).Matches (installing st' b l') := by
  have sequence := h.matches stores b.scope b.handle
  obtain ⟨installed, sequences⟩ := stores
  let st₁ : Store := { st.noteLowering b.scope with nextSequence := st.nextSequence + 1 }
  have lowered : st₁.Matches { st₁ with installed } := .intro installed sequences
  exact lowered.install b sequence

theorem sequence_lockstep (depth : Nat) (b : Body) :
    Eval.Lockstep (Twin under Store.Matches) Sequence.Matches
      (b.sequence ((Env.interpreting P.source).reach depth))
      (b.sequence ((Env.interpreting (P.framed X).source).reach depth)) := by
  intro s t twin
  rw [Body.sequence_run, Body.sequence_run, twin.settings]
  cases depth with
  | zero => exact .cut s t
  | succ depth =>
    have found := twin.store.sequence? b
    rcases one : s.store.sequence? b with _ | seq <;>
      rcases other : t.store.sequence? b with _ | seq' <;> rw [one, other] at found
    · rcases P.lowers X b.scope with
        ⟨reason, refused, refused'⟩ | ⟨l, l', accepted, accepted', lower⟩
      · rw [readyAt_refuses one refused, readyAt_refuses other refused']
        exact .ended (.failed _) ((twin.stored (twin.store.noteLowering b.scope)).told _ _)
      · obtain ⟨told, ready⟩ := readyAt_installs one accepted depth s.context.settings
        obtain ⟨told', ready'⟩ := readyAt_installs other accepted' depth s.context.settings
        rw [ready, ready']
        exact .ended (.ok (lower.matches twin.store _ _))
          ((twin.stored (lower.installing twin.store b)).told _ _)
    · cases found
    · cases found
    · rw [readyAt_found one, readyAt_found other]
      cases found with
      | some matching => exact .ended (.ok matching) twin

end Program

/-! ## Instructions that leave frames alone -/

namespace Interpreter

variable {r : Reach} {engine : Nat} {i : Invocation} {seq : Sequence}

/-- The end of an instruction, with another count of frames. -/
def recount (own : Nat) (p : Option (Outcome (Nat × Value)) × State) :
    Option (Outcome (Nat × Value)) × State :=
  (p.1.map (Outcome.map fun result => (own, result.2)), p.2)

theorem execute_frameless {instr : Instr} (h : instr.isFrame = false) (own own' : Nat) (last : Value)
    (s : State) : execute r engine i seq own' last instr s =
      recount own' (execute r engine i seq own last instr s) := by
  cases instr with
  | pushFrame => cases h
  | popFrame => cases h
  | define scope =>
    rcases defined : define r engine i seq scope s with ⟨_ | v | f | t, s₁⟩
    · rw [execute, execute, bind_of_none defined, bind_of_none defined]
      rfl
    · rw [execute, execute, bind_of_ok defined, bind_of_ok defined]
      rfl
    · rw [execute, execute, bind_of_failed defined, bind_of_failed defined]
      rfl
    · rw [execute, execute, bind_of_panicked defined, bind_of_panicked defined]
      rfl
  | _ => rfl

/-- The frames of the sequence are only counted for its frame instructions. -/
theorem run_frameless {instrs : List Instr} (h : Frameless instrs) (own own' : Nat) (last : Value)
    (s : State) : run r engine i seq own' last instrs s =
      ((run r engine i seq own last instrs s).1.map (Outcome.map fun result => (result.1, own')),
        (run r engine i seq own last instrs s).2) := by
  induction instrs generalizing own own' last s with
  | nil => rfl
  | cons instr rest ih =>
    have first : execute r engine i seq own' last instr s =
        recount own' (execute r engine i seq own last instr s) :=
      execute_frameless (h instr List.mem_cons_self) own own' last s
    rcases step : execute r engine i seq own last instr s with ⟨_ | ⟨own₁, last₁⟩ | f | t, s₁⟩ <;>
      rw [step] at first
    · rw [run_of_none step, run_of_none first]
      rfl
    · rw [run_of_ok step, run_of_ok first]
      exact ih h.tail own₁ own' last₁ s₁
    · rw [run_of_failed step, run_of_failed first]
      rfl
    · rw [run_of_panicked step, run_of_panicked first]
      rfl

theorem run_append (instrs more : List Instr) (own : Nat) (last : Value) (s : State) :
    run r engine i seq own last (instrs ++ more) s =
      match run r engine i seq own last instrs s with
      | (some (.ok (.ok v, own')), s') => run r engine i seq own' v more s'
      | stopped => stopped := by
  induction instrs generalizing own last s with
  | nil => rfl
  | cons instr rest ih =>
    rw [List.cons_append]
    rcases step : execute r engine i seq own last instr s with ⟨_ | ⟨own₁, last₁⟩ | f | t, s₁⟩
    · rw [run_of_none step, run_of_none step]
    · rw [run_of_ok step, run_of_ok step]
      exact ih own₁ last₁ s₁
    · rw [run_of_failed step, run_of_failed step]
    · rw [run_of_panicked step, run_of_panicked step]

end Interpreter

/-! ## One frame apart -/

/-- States under the same settings that differ at most in their stacks, in what has happened and, as
far as `R` allows, in their stores. -/
structure Beside (under : Settings) (R : Store → Store → Prop) (s t : State) : Prop where
  settings : t.context.settings = s.context.settings
  line : t.context.line = s.context.line
  kept : s.context.settings = under
  store : R s.store t.store

/-- As twins, but that the first state has one frame more. -/
structure Ahead (under : Settings) (R : Store → Store → Prop) (s t : State) : Prop
    extends Beside under R s t where
  backtrace : t.context.backtrace = s.context.backtrace
  depth : s.context.frames.length = t.context.frames.length + 1

variable {under : Settings} {R : Store → Store → Prop} {s t : State}

theorem Beside.alike {s' t' : State} (h : Beside under R s t) (left : s.Alike s')
    (right : t.Alike t') : Beside under R s' t' where
  settings := by rw [left.settings, right.settings, h.settings]
  line := by rw [left.line, right.line, h.line]
  kept := left.settings.trans h.kept
  store := by
    rw [left.store, right.store]
    exact h.store

theorem Twin.beside (h : Twin under R s t) : Beside under R s t :=
  ⟨h.settings, h.line, h.kept, h.store⟩

theorem Beside.twin (h : Beside under R s t) (backtrace : t.context.backtrace = s.context.backtrace)
    (depth : t.context.frames.length = s.context.frames.length) : Twin under R s t :=
  ⟨⟨h.settings, h.line, backtrace, depth⟩, h.kept, h.store⟩

theorem Ahead.calls (stores : Stores R) : Calls (Ahead under R) where
  backtrace ahead := ahead.backtrace
  reaches ahead := stores.reaches ahead.store
  running ahead g := { ahead with store := stores.running ahead.store g }

/-- Without a limit there is room for a frame on both sides. -/
theorem Beside.room (h : Beside under R s t) (unlimited : under.maxDepth = none) :
    s.context.exceeded? = none ∧ t.context.exceeded? = none := by
  rw [Context.exceeded?, Context.exceeded?, h.settings, h.kept, unlimited]
  exact ⟨rfl, rfl⟩

namespace Interpreter

variable {r r' : Reach} {engine : Nat} {i i' : Invocation} {seq : Sequence}

/-- Frameless instructions with a frame of their own around them come out as they do on a frame that
is there already. -/
theorem run_framed (engine : Nat) (balanced : r'.Keeps Balance) (stores : Stores R)
    (hr : r.Lockstep under R r') (receiver : i.call.receiver = i'.call.receiver)
    (unlimited : under.maxDepth = none) (frameless : Frameless seq.instrs) {seq' : Sequence}
    (handle : seq.handle = seq'.handle) (ahead : Ahead under R s t) :
    (∃ s' t', run r engine i seq 0 .nil seq.instrs s = (none, s') ∧
      run r' engine i' seq' 0 .nil (framedInstrs seq.instrs) t = (none, t')) ∨
    ∃ o own own' s' t', run r engine i seq 0 .nil seq.instrs s = (some (.ok (o, own)), s') ∧
      run r' engine i' seq' 0 .nil (framedInstrs seq.instrs) t = (some (.ok (o, own')), t') ∧
      Beside under R s' t' := by
  let t₁ := t.move .framePushed t.context.backtrace (ownFrame i' :: t.context.frames)
  have twin : Twin under R s t₁ :=
    (ahead.toBeside.alike ⟨rfl, rfl, rfl⟩ (t.alike_move _ _ _)).twin ahead.backtrace ahead.depth.symm
  have pushed : execute r' engine i' seq' 0 .nil .pushFrame t = (some (.ok (1, .nil)), t₁) :=
    bind_of_ok (pushFrame_run (ahead.room unlimited).2)
  have met : Met (Twin under R) Eq (run r engine i seq 0 .nil seq.instrs s)
      (run r' engine i' seq' 0 .nil seq.instrs t₁) :=
    run_lockstep stores hr receiver handle 0 .nil seq.instrs s t₁ twin
  have counted : run r' engine i' seq' 1 .nil seq.instrs t₁ =
      ((run r' engine i' seq' 0 .nil seq.instrs t₁).1.map
        (Outcome.map fun result => (result.1, 1)), (run r' engine i' seq' 0 .nil seq.instrs t₁).2) :=
    run_frameless frameless 0 1 .nil t₁
  have confined : RunConfined t.context.frames t₁ (run r' engine i' seq' 1 .nil seq.instrs t₁) :=
    run_confined (s := t₁) balanced engine i' seq' .nil seq.instrs [ownFrame i'] rfl
  rw [framedInstrs, run_of_ok pushed, run_append]
  rw [counted] at confined ⊢
  generalize run r engine i seq 0 .nil seq.instrs s = p at met ⊢
  generalize run r' engine i' seq' 0 .nil seq.instrs t₁ = q at met confined ⊢
  cases met with
  | cut s' t' => exact .inl ⟨s', t', rfl, rfl⟩
  | @ended end₁ end₂ s' t' like twin' =>
    cases like with
    | failed f => exact confined.elim
    | panicked m => exact confined.elim
    | @ok result _ same =>
      subst same
      obtain ⟨o, own⟩ := result
      obtain ⟨others, frames, count⟩ := OwnFrames.frames confined
      cases o with
      | failed f => exact .inr ⟨_, own, 1, s', t', rfl, rfl, twin'.beside⟩
      | panicked m => exact .inr ⟨_, own, 1, s', t', rfl, rfl, twin'.beside⟩
      | ok v =>
        -- the frame that was pushed first is there for the last pop
        obtain ⟨f, rfl⟩ := List.length_eq_one_iff.mp count
        have popped : execute r' engine i' seq' 1 v .popFrame t' = (some (.ok (0, v)),
            t'.move .framePopped t'.context.backtrace t.context.frames) :=
          bind_of_ok (popFrame_run frames)
        exact .inr ⟨.ok v, own, 0, s', _, rfl, run_of_ok popped [],
          twin'.beside.alike ⟨rfl, rfl, rfl⟩ (t'.alike_move _ _ _)⟩

theorem interpret_framed (balanced : r.Keeps Balance) (balanced' : r'.Keeps Balance)
    (stores : Stores R) (hr : r.Lockstep under R r')
    (receiver : i.call.receiver = i'.call.receiver) (unlimited : under.maxDepth = none)
    (frameless : Frameless seq.instrs) {seq' : Sequence} (handle : seq.handle = seq'.handle)
    (instrs : seq'.instrs = framedInstrs seq.instrs) :
    Eval.Lockstep (Ahead under R) Eq (interpret r engine i seq) (interpret r' engine i' seq') := by
  intro s t ahead
  rcases run_framed engine balanced' stores hr receiver unlimited frameless handle
    ahead with ⟨s', t', ran, ran'⟩ | ⟨o, own, own', s', t', ran, ran', beside⟩ <;>
    rw [← instrs] at ran'
  · rw [interpret, interpret, bind_of_none ran, bind_of_none ran']
    exact .cut s' t'
  · obtain ⟨s₁, ended, balance, before, store, line⟩ := interpret_of_run balanced ran
    obtain ⟨t₁, ended', balance', before', store', line'⟩ := interpret_of_run balanced' ran'
    rw [ended, ended']
    refine .ended (.refl o) ⟨beside.alike ⟨store, line, before.settings⟩
      ⟨store', line', before'.settings⟩, ?_, ?_⟩
    · rw [balance.backtrace rfl, balance'.backtrace rfl, ahead.backtrace]
    · rw [balance.frames rfl, balance'.frames rfl, ahead.depth]

end Interpreter

namespace Body

variable {r r' : Reach} {b : Body} {c c' : Call} {block block' : Block} {seq seq' : Sequence}

theorem opened_ahead (twin : Twin under R s t) (generic : seq.explicit = false)
    (own : seq'.explicit = true) (file : seq.file = seq'.file) (label : String) :
    Ahead under R (b.opened c block label seq s) (b.opened c' block' label seq' t) where
  toBeside := twin.beside.alike (b.alike_opened _ _ _ _ _) (b.alike_opened _ _ _ _ _)
  backtrace := by
    rw [opened_backtrace, opened_backtrace, twin.backtrace, entry, entry, file, twin.line]
  depth := by
    rw [opened_depth, opened_depth, generic, own, twin.depth]
    rfl

theorem closed_twin (ahead : Ahead under R s t) : Twin under R (s.closed false) (t.closed true) := by
  refine (ahead.toBeside.alike (s.alike_closed false) (t.alike_closed true)).twin ?_ ?_
  · exact congrArg List.tail ahead.backtrace
  · show t.context.frames.length = s.context.frames.tail.length
    rw [List.length_tail, ahead.depth, Nat.add_sub_cancel]

/-- A frame under the entry of a body is as good as one of its own above. -/
theorem enter_framed (balanced : r.Keeps Balance) (balanced' : r'.Keeps Balance)
    (unlimited : under.maxDepth = none) (generic : seq.explicit = false)
    (own : seq'.explicit = true) (file : seq.file = seq'.file)
    (run : ∀ label, Eval.Lockstep (Ahead under R) Eq
      (r.interpret seq.handle (invocation label c block) seq)
      (r'.interpret seq'.handle (invocation label c' block') seq')) :
    Eval.Lockstep (Twin under R) Eq
      (withProtocol seq.explicit (b.frame c block) (b.dispatch r c seq block))
      (withProtocol seq'.explicit (b.frame c' block') (b.dispatch r' c' seq' block')) := by
  intro s t twin
  have room : s.Admits seq.explicit := .inr (twin.beside.room unlimited).1
  have room' : t.Admits seq'.explicit := .inl own
  cases kind : b.scope.label? with
  | none =>
    rw [enter_invalid balanced room kind, enter_invalid balanced' room' kind, generic, own]
    exact .ended (.panicked _)
      ⟨⟨twin.settings, twin.line, twin.backtrace, twin.depth⟩, twin.kept, twin.store⟩
  | some label =>
    have ahead : Ahead under R (b.opened c block label seq s) (b.opened c' block' label seq' t) :=
      opened_ahead twin generic own file label
    have met := run label _ _ ahead
    generalize left : r.interpret seq.handle _ seq _ = p at met
    generalize right : r'.interpret seq'.handle _ seq' _ = q at met
    cases met with
    | cut s₁ t₁ =>
      rw [enter_cut room kind left, enter_cut room' kind right]
      exact .cut s₁ t₁
    | @ended o o' s₁ t₁ like ahead =>
      obtain rfl := like.eq
      rw [enter_ended balanced room kind left, enter_ended balanced' room' kind right, generic,
        own, twin.backtrace, entry, entry, file, twin.line]
      exact .ended (.refl _) (closed_twin ahead)

end Body

namespace Program

variable {P : Program} {X : Framing P} {depth : Nat}

/-- At a depth of calls, each sequence comes out alike in both programs, and a frameless one also
comes out as it does with a frame of its own over one frame less. -/
structure Abreast (under : Settings) (P : Program) (X : Framing P) (depth : Nat) : Prop where
  same : ∀ (h : Handle) (i i' : Invocation) (seq : Sequence), i.call.receiver = i'.call.receiver →
    Eval.Lockstep (Twin under Store.Matches) Eq
      ((Env.interpreting P.source).interpretAt depth h i seq)
      ((Env.interpreting (P.framed X).source).interpretAt depth h i' seq)
  framed : ∀ (h : Handle) (i i' : Invocation) (seq seq' : Sequence),
    i.call.receiver = i'.call.receiver → Frameless seq.instrs → seq.handle = seq'.handle →
    seq'.instrs = framedInstrs seq.instrs → Eval.Lockstep (Ahead under Store.Matches) Eq
      ((Env.interpreting P.source).interpretAt depth h i seq)
      ((Env.interpreting (P.framed X).source).interpretAt depth h i' seq')

theorem reach_of_abreast (unlimited : under.maxDepth = none) (run : Abreast under P X depth) :
    ((Env.interpreting P.source).reach depth).Lockstep under Store.Matches
      ((Env.interpreting (P.framed X).source).reach depth) := by
  intro b c c' block block' receiver
  refine Body.invoke_lockstep (sequence_lockstep depth b) fun seq seq' matching => ?_
  cases matching with
  | same =>
    exact Twin.acts.withProtocol _ trivial
      (Body.dispatch_lockstep Twin.acts rfl rfl fun label => run.same _ _ _ _ receiver)
  | framed generic frameless =>
    exact Body.enter_framed (Balance.reach _ depth) (Balance.reach _ depth) unlimited generic rfl rfl
      fun label => run.framed _ _ _ _ _ receiver frameless rfl rfl

theorem abreast (unlimited : under.maxDepth = none) (P : Program) (X : Framing P) (depth : Nat) :
    Abreast under P X depth := by
  induction depth with
  | zero => exact ⟨fun _ _ _ _ _ => .exhausted, fun _ _ _ _ _ _ _ _ _ => .exhausted⟩
  | succ depth ih =>
    have inner := reach_of_abreast unlimited ih
    refine ⟨fun _ _ _ _ receiver => ?_, fun _ _ _ _ _ receiver frameless handle instrs => ?_⟩
    · exact Env.interpretAt_lockstep (Twin.calls Store.Matches.stores)
        (Interpreter.interpret_lockstep Store.Matches.stores inner receiver rfl rfl)
    · exact Env.interpretAt_lockstep (Ahead.calls Store.Matches.stores)
        (Interpreter.interpret_framed (Balance.reach _ depth) (Balance.reach _ depth)
          Store.Matches.stores inner receiver unlimited frameless handle instrs)

variable {b : Body} {c : Call} {block : Block} {o o' : Outcome Value} {s' t' : State}

theorem invoke_unlimited (unlimited : s.context.settings.maxDepth = none)
    (ran : b.invoke ((Env.interpreting P.source).reach depth) c block s = (some o, s')) :
    ∃ t', b.invoke ((Env.interpreting (P.framed X).source).reach depth) c block s = (some o, t') ∧
      t'.context.line = s'.context.line ∧ s'.store.Matches t'.store := by
  have start : Twin s.context.settings Store.Matches s s := ⟨.refl s.context, rfl, .refl s.store⟩
  have run := abreast unlimited P X depth
  have met := reach_of_abreast unlimited run b c c block block rfl s s start
  rw [ran] at met
  generalize b.invoke ((Env.interpreting (P.framed X).source).reach depth) c block s = q at met ⊢
  cases met with
  | @ended _ _ _ t' like twin =>
    obtain rfl := like.eq
    exact ⟨t', rfl, twin.line, twin.store⟩

/-- Runs that a limit does not stop have their unlimited counterparts, which come out alike. -/
theorem invoke_limited {max : Nat} (limit : s.context.settings.maxDepth = some max)
    (ran : b.invoke ((Env.interpreting P.source).reach depth) c block s = (some o, s'))
    (ran' : b.invoke ((Env.interpreting (P.framed X).source).reach depth) c block s =
      (some o', t'))
    (other : ∀ f, o = .failed f → f.cause ≠ .stackOverflow max)
    (other' : ∀ f, o' = .failed f → f.cause ≠ .stackOverflow max) : o' = o := by
  have here : s.limitedTo (some max) = s := by rw [State.limitedTo, ← limit]
  have forks (source : Scope → Nat → Store → Lowering) : ForksAt max FailsWith
      (b.invoke ((Env.interpreting source).reach depth) c block) s :=
    Body.invoke_forks (Balance.reach source depth) Body.sequence_level
      (Env.interpretAt_forks depth) b c block s
  obtain ⟨s₁, free⟩ := (forks P.source).free_of_ended (here ▸ ran) other
  obtain ⟨t₁, free'⟩ := (forks (P.framed X).source).free_of_ended (here ▸ ran') other'
  obtain ⟨t₂, same, -⟩ := invoke_unlimited (X := X) rfl free
  cases same.symm.trans free'
  rfl

end Program

theorem Outcome.failed_of_ending {o : Outcome Value} {cause : Cause}
    (h : o.ending = .failed cause) : ∃ f, o = .failed f ∧ f.cause = cause := by
  cases o with
  | ok v => cases h
  | panicked t => cases h
  | failed f =>
    cases h
    exact ⟨f, rfl, rfl⟩

/-- Let chosen bodies of a program take their frames themselves, and let a body be invoked that is
new to its engine, in the one program or in the other. Both runs end, in the same context and with
the same modules for the scopes that the engine has come to. They end with the same value, the same
failure with its backtrace or the same panic, or else both overflow at the frame limit. Under a limit
the engine has to be there: a body without one is stopped by whatever it asks for first. -/
theorem Program.invoke_framed (P : Program) (X : Framing P) {b : Body} {s : State}
    (undefined : ∀ engine scope, s.store.definition? engine scope = none)
    (uninstalled : ∀ id, s.store.installed.get? id = none) (known : b.id < s.store.nextBody)
    (part : P.has b.scope)
    (live : s.context.settings.maxDepth = none ∨ s.store.reaches b.handle = true) {depth : Nat}
    (deep : P.height b.scope < depth) (c : Call) (block : Block) : ∃ o s' o' t',
      b.invoke ((Env.interpreting P.source).reach depth) c block s = (some o, s') ∧
      b.invoke ((Env.interpreting (P.framed X).source).reach depth) c block s = (some o', t') ∧
      (o' = o ∨ ∃ max f f', s.context.settings.maxDepth = some max ∧
        o = .failed f ∧ f.cause = .stackOverflow max ∧
        o' = .failed f' ∧ f'.cause = .stackOverflow max) ∧
      t'.context = s'.context ∧
      World.of b.handle.engine t' = World.of b.handle.engine s' := by
  obtain ⟨o, s', ran, settled, plain⟩ := agrees b deep _ s
    (.fresh undefined uninstalled known part) (if_pos rfl) c block
  obtain ⟨o', t', ran', settled', plain'⟩ := agrees (P := P.framed X) b deep _ s
    (.fresh undefined uninstalled known part) (if_pos rfl) c block
  have balance :=
    (b.invoke_keeps Balance.guarded (Balance.reach P.source depth) c block).of_ended ran
  have balance' :=
    (b.invoke_keeps Balance.guarded (Balance.reach (P.framed X).source depth) c block).of_ended ran'
  have settings := settled'.settings.trans settled.settings.symm
  refine ⟨o, s', o', t', ran, ran', ?_⟩
  cases limit : s.context.settings.maxDepth with
  | none =>
    obtain ⟨t₁, same, line, store⟩ := invoke_unlimited (X := X) limit ran
    cases same.symm.trans ran'
    exact ⟨.inl rfl, balance.context balance' settings line,
      World.of_eq line store.definitions store.nextModule⟩
  | some max =>
    have reached : s.store.reaches b.handle = true := live.resolve_left (by simp [limit])
    have same : (o'.ending, World.of b.handle.engine t') =
        (o.ending, World.of b.handle.engine s') := by
      rw [plain' reached, plain reached, evaluate_framed]
    obtain ⟨endings, world⟩ := Prod.mk.inj same
    refine ⟨?_, balance.context balance' settings (congrArg World.line world), world⟩
    by_cases full : o.ending = .failed (.stackOverflow max)
    · obtain ⟨f, stopped, cause⟩ := Outcome.failed_of_ending full
      obtain ⟨f', stopped', cause'⟩ := Outcome.failed_of_ending (endings.trans full)
      exact .inr ⟨max, f, f', rfl, stopped, cause, stopped', cause'⟩
    · refine .inl (invoke_limited limit ran ran' ?_ ?_)
      · rintro f rfl cause
        exact full (congrArg Ending.failed cause)
      · rintro f rfl cause
        exact full (endings.symm.trans (congrArg Ending.failed cause))

namespace Program

/-- The class body takes its frame itself, as its metaclass body does. -/
def widgetFraming : Framing widget where
  chosen scope := decide (scope = widgetClass)
  body h := by
    rw [of_decide_eq_true h]
    rfl
  implicit h := by
    rw [of_decide_eq_true h]
    rfl
  frameless h := by
    rw [of_decide_eq_true h]
    unfold Frameless
    decide

/-- Two frames are enough for the class body and the metaclass body, whoever takes the first. Where
there is no room for one, the backtrace of the failure tells who has asked for it. -/
theorem widget_invoke_framed :
    let m : Module := .top 0 "Widget" .classLike
    let s (max : Nat) : State :=
      ⟨⟨{ maxDepth := some max }, 1, [], []⟩, { nextModule := 1, nextBody := 1 }, []⟩
    let call (max : Nat) (P : Program) := (⟨0, widgetClass, m, ⟨0, true⟩⟩ : Body).invoke
      ((Env.interpreting P.source).reach 2) ⟨none, .object m, m, "Widget"⟩ .absent (s max)
    let framed := widget.framed widgetFraming
    (call 2 widget).1 = some (.ok (.object m)) ∧ (call 2 framed).1 = some (.ok (.object m)) ∧
    (call 2 framed).2.context = (call 2 widget).2.context ∧
    World.of 0 (call 2 framed).2 = World.of 0 (call 2 widget).2 ∧
    (call 0 widget).1 = some (.failed (overflow 0 [])) ∧
    (call 0 framed).1 = some (.failed (overflow 0 [⟨"Widget", "widget.rb", 1⟩])) := by
  intro m s call framed
  have ended : (call 2 widget).1 = some (.ok (.object m)) := by decide +kernel
  have refused : (call 0 widget).1 = some (.failed (overflow 0 [])) := by decide +kernel
  have stopped : (call 0 framed).1 =
      some (.failed (overflow 0 [⟨"Widget", "widget.rb", 1⟩])) := by decide +kernel
  have part : widget.has widgetClass := Or.inl rfl
  have deep : widget.height widgetClass < 2 := by decide
  obtain ⟨o, s', o', t', ran, ran', same, context, world⟩ :=
    invoke_framed widget widgetFraming (b := ⟨0, widgetClass, m, ⟨0, true⟩⟩) (s := s 2)
      (fun _ _ => rfl) (fun _ => rfl) (by decide) part (.inr rfl) deep
      ⟨none, .object m, m, "Widget"⟩ .absent
  change call 2 widget = _ at ran
  change call 2 framed = _ at ran'
  clear_value call
  rw [ran] at ended ⊢
  rw [ran']
  obtain rfl : o = .ok (.object m) := Option.some.inj ended
  refine ⟨rfl, ?_, context, world, refused, stopped⟩
  rcases same with rfl | ⟨max, f, f', -, failed, -⟩
  · rfl
  · cases failed

end Program

end BodyCall
