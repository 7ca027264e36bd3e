import BodyCall.Proofs.Visits

/-!
# Whose frames are pushed

A frame is pushed for an invocation by one of two hands. The protocol pushes the frame of a body whose
sequence leaves that to its caller, with the class of the method and the name of the call. A
`push_frame` of the sequence pushes one with what its invocation has in their places: the class that
the call was made through and the label of the body. Every frame that a run pushes is one of these
two, for the call that has started the run or for a definition that it has come to. The two agree on
receiver and block, and on all of a definition that opens no metaclass.
-/

namespace BodyCall

open Eval

def pushedFrames (events : List Event) : List Frame :=
  events.filterMap fun
    | .moved .framePushed _ frames => frames.head?
    | _ => none

/-- A frame that is pushed by this event is one of these. -/
def Event.Pushes (F : Frame → Prop) : Event → Prop
  | .moved .framePushed _ frames => ∀ f ∈ frames.head?, F f
  | _ => True

/-- The frame that a `push_frame` of its sequence pushes for a call of a body. -/
def Body.ownFrame (label : String) (c : Call) (block : Block) : Frame :=
  Interpreter.ownFrame (invocation label c block)

/-- A frame that is pushed for a call of a body with the sequence that the store has for it. -/
inductive Body.PushesIn (st : Store) (b : Body) (c : Call) (block : Block) : Frame → Prop where
  | generic {seq : Sequence} (installed : st.sequence? b = some seq)
      (implicit : seq.explicit = false) : PushesIn st b c block (b.frame c block)
  | own {seq : Sequence} {label : String} (installed : st.sequence? b = some seq)
      (instr : .pushFrame ∈ seq.instrs) (kind : b.scope.label? = some label) :
      PushesIn st b c block (ownFrame label c block)

def Visit.PushesIn (st : Store) (v : Visit) (f : Frame) : Prop :=
  v.body.PushesIn st (Interpreter.definitionCall v.body) .absent f

/-- From one state to the other only such frames are pushed. -/
abbrev Pushing (F : Frame → Prop) (s s' : State) : Prop := Throughout (Event.Pushes F) s s'

namespace Pushing

variable {F G : Frame → Prop} {s s₁ s' : State}

theorem mem (h : Pushing F s s') {f : Frame} (among : f ∈ pushedFrames (s'.since s)) : F f := by
  obtain ⟨e, member, pushed⟩ := List.mem_filterMap.mp among
  have allowed := h.events e member
  split at pushed
  · exact allowed f pushed
  · cases pushed

theorem weaken (h : Pushing F s s') (weaker : ∀ f, F f → G f) : Pushing G s s' := by
  apply h.mono
  intro e allowed
  unfold Event.Pushes at allowed ⊢
  split
  · intro f top
    exact weaker f (allowed f top)
  · trivial

theorem quiet (F : Frame → Prop) : Quiet fun s _ s' => Pushing F s s' := by
  apply Throughout.quiet
  intro e still
  cases e with
  | moved => cases still
  | _ => trivial

theorem move {m : Motion} (other : m ≠ .framePushed) (backtrace : Backtrace)
    (frames : List Frame) : Pushing F s (s.move m backtrace frames) := by
  apply Throughout.one rfl
  cases m with
  | framePushed => exact absurd rfl other
  | _ => trivial

theorem push {f : Frame} (allowed : F f) (backtrace : Backtrace) (rest : List Frame) :
    Pushing F s (s.move .framePushed backtrace (f :: rest)) := by
  apply Throughout.one rfl
  intro f' top
  cases top
  exact allowed

theorem framed {explicit : Bool} {f : Frame} (allowed : explicit = false → F f) :
    Pushing F s (s.framed explicit f) := by
  cases explicit with
  | true => exact .refl s
  | false => exact .push (allowed rfl) _ _

theorem unframed (explicit : Bool) (s : State) : Pushing F s (s.unframed explicit) := by
  cases explicit with
  | true => exact .refl s
  | false => exact .move (by simp) _ _

theorem closed (explicit : Bool) (s : State) : Pushing F s (s.closed explicit) := by
  have left : Pushing F s s.left := .move (by simp) _ _
  exact left.trans (Pushing.unframed explicit s.left)

theorem popFrame (s : State) : Pushing F s (Eval.popFrame s).2 := by
  cases frames : s.context.frames with
  | nil =>
    rw [popFrame_empty frames]
    exact .refl s
  | cons f rest =>
    rw [popFrame_run frames]
    exact .move (by simp) _ _

theorem popFrames (n : Nat) (s : State) : Pushing F s (Eval.popFrames n s).2 := by
  induction n generalizing s with
  | zero => exact .refl s
  | succ n ih =>
    have first : Pushing F s (Eval.popFrame s).2 := .popFrame s
    rcases run : Eval.popFrame s with ⟨_ | u | f | t, s₁⟩ <;> rw [run] at first
    · exact (congrArg Prod.snd (bind_of_none run)) ▸ first
    · exact (congrArg Prod.snd (bind_of_ok run)) ▸ first.trans (ih s₁)
    · exact (congrArg Prod.snd (bind_of_failed run)) ▸ first
    · exact (congrArg Prod.snd (bind_of_panicked run)) ▸ first

theorem visited (v : Visit) : Pushing F v.state v.opened := by
  have told : Pushing F v.state v.told := (quiet F).told v.state _ rfl
  have found : Pushing F v.told
      (Interpreter.bodyFor v.engine v.scope v.parent? v.seq.handle v.told).2 :=
    Interpreter.bodyFor_keeps (quiet F).toAside v.engine v.scope v.parent? v.seq.handle v.told
  exact told.trans found

end Pushing

/-! ## Runs -/

namespace Interpreter

variable {final : Store} {r : Reach} {inner : Body → Call → Block → State → List Visit}
  {engine : Nat} {i : Invocation} {seq : Sequence} {s : State}

/-- The frames that some instructions push: their own, and those of the definitions among them. -/
def Pushed (final : Store) (i : Invocation) (instrs : List Instr) (visits : List Visit)
    (f : Frame) : Prop :=
  (.pushFrame ∈ instrs ∧ f = ownFrame i) ∨ ∃ v ∈ visits, v.PushesIn final f

def InvocationsPush (final : Store) (r : Reach) (inner : Body → Call → Block → State → List Visit) :
    Prop :=
  ∀ (b : Body) c block s, (b.invoke r c block s).2.store.Before final →
    Pushing (fun f => b.PushesIn final c block f ∨ ∃ v ∈ inner b c block s, v.PushesIn final f) s
      (b.invoke r c block s).2

theorem execute_pushes (invoked : InvocationsPush final r inner) (own : Nat) (last : Value)
    (instr : Instr) (rest : List Instr)
    (before : (execute r engine i seq own last instr s).2.store.Before final) :
    Pushing (Pushed final i (instr :: rest) (visitsHere r inner engine i seq s instr)) s
      (execute r engine i seq own last instr s).2 := by
  cases instr with
  | line n => exact .silent rfl
  | put v => exact .refl s
  | putSelf => exact .refl s
  | raise message => exact .refl s
  | pushFrame =>
    cases room : s.context.exceeded? with
    | some max =>
      rw [execute, bind_of_failed (pushFrame_refused room)]
      exact .move (by simp) _ _
    | none =>
      rw [execute, bind_of_ok (pushFrame_run room)]
      exact .push (.inl ⟨List.mem_cons_self, rfl⟩) _ _
  | popFrame =>
    cases own with
    | zero => exact .refl s
    | succ own =>
      have after := congrArg Prod.snd (bind_pure_run Eval.popFrame (fun _ => (own, last)) s)
      exact after ▸ Pushing.popFrame s
  | define scope =>
    let v : Visit := ⟨r, engine, i, seq, scope, s⟩
    have after := congrArg Prod.snd
      (bind_pure_run (define r engine i seq scope) (fun value => (own, value)) s)
    have run : (execute r engine i seq own last (.define scope) s).2 =
        (v.body.invoke r (definitionCall v.body) .absent v.opened).2 :=
      after.trans (congrArg Prod.snd v.run_eq)
    rw [run] at before ⊢
    have inside := invoked v.body (definitionCall v.body) .absent v.opened before
    refine (Pushing.visited v).trans (inside.weaken ?_)
    rintro f (here | ⟨w, among, pushes⟩)
    · exact .inr ⟨v, List.mem_cons_self, here⟩
    · exact .inr ⟨w, List.mem_cons_of_mem v among, pushes⟩

theorem run_pushes (invoked : InvocationsPush final r inner)
    (grows : r.Keeps fun s _ s' => s.Before s') (own : Nat)
    (last : Value) (instrs : List Instr)
    (before : (run r engine i seq own last instrs s).2.store.Before final) :
    Pushing (Pushed final i instrs (visits r inner engine i seq own last instrs s)) s
      (run r engine i seq own last instrs s).2 := by
  -- on the instructions: what the first pushes and what the others push are pushed one after the other
  induction instrs generalizing own last s with
  | nil => exact .refl s
  | cons instr rest ih =>
    have first : ∀ s₁, (execute r engine i seq own last instr s).2 = s₁ → s₁.store.Before final →
        ∀ more, Pushing (Pushed final i (instr :: rest)
          (visitsHere r inner engine i seq s instr ++ more)) s s₁ := by
      rintro s₁ rfl earlier more
      refine (execute_pushes invoked own last instr rest earlier).weaken ?_
      rintro f (here | ⟨v, among, pushes⟩)
      · exact .inl here
      · exact .inr ⟨v, List.mem_append_left more among, pushes⟩
    rw [visits]
    rcases step : execute r engine i seq own last instr s with ⟨_ | ⟨own', last'⟩ | f | t, s₁⟩
    · rw [run_of_none step] at before ⊢
      exact first s₁ (congrArg Prod.snd step) before _
    · rw [run_of_ok step] at before ⊢
      have later : s₁.Before (run r engine i seq own' last' rest s₁).2 :=
        run_keeps State.Before.stepwise grows engine i seq own' last' rest s₁
      have earlier := later.toBefore.trans before
      refine (first s₁ (congrArg Prod.snd step) earlier _).trans ((ih own' last' before).weaken ?_)
      rintro f (⟨among, same⟩ | ⟨v, among, pushes⟩)
      · exact .inl ⟨List.mem_cons_of_mem instr among, same⟩
      · exact .inr ⟨v, List.mem_append_right _ among, pushes⟩
    · rw [run_of_failed step] at before ⊢
      exact first s₁ (congrArg Prod.snd step) before _
    · rw [run_of_panicked step] at before ⊢
      exact first s₁ (congrArg Prod.snd step) before _

theorem interpret_pushes (invoked : InvocationsPush final r inner)
    (grows : r.Keeps fun s _ s' => s.Before s') (balanced : r.Keeps Balance)
    (before : (interpret r engine i seq s).2.store.Before final) :
    Pushing (Pushed final i seq.instrs (visits r inner engine i seq 0 .nil seq.instrs s)) s
      (interpret r engine i seq s).2 := by
  let F := Pushed final i seq.instrs (visits r inner engine i seq 0 .nil seq.instrs s)
  have ran : ∀ s₁, (run r engine i seq 0 .nil seq.instrs s).2 = s₁ → s₁.store.Before final →
      Pushing F s s₁ := by
    rintro s₁ rfl earlier
    exact run_pushes invoked grows 0 .nil seq.instrs earlier
  rcases ended : run r engine i seq 0 .nil seq.instrs s with ⟨_ | ⟨o, own⟩ | f | t, s₁⟩
  · have run : interpret r engine i seq s = _ := bind_of_none ended
    rw [run] at before ⊢
    exact ran s₁ (congrArg Prod.snd ended) before
  · -- the frames that the sequence has left are popped, and the store stays as it is
    obtain ⟨s', popped, -, store, -⟩ := popFrames_of_run balanced ended
    rw [interpret_of_popped ended popped] at before ⊢
    have earlier : s₁.store.Before final := store ▸ before
    have told : Pushing F s₁ { s₁ with trace := reported o ++ s₁.trace } :=
      (report_keeps (Pushing.quiet F).toTelling o).of_ended (report_run o s₁)
    have left : Pushing F _ (popFrames own { s₁ with trace := reported o ++ s₁.trace }).2 :=
      .popFrames own _
    rw [popped] at left
    exact (ran s₁ (congrArg Prod.snd ended) earlier).trans (told.trans left)
  · have run : interpret r engine i seq s = _ := bind_of_failed ended
    rw [run] at before ⊢
    exact ran s₁ (congrArg Prod.snd ended) before
  · have run : interpret r engine i seq s = _ := bind_of_panicked ended
    rw [run] at before ⊢
    exact ran s₁ (congrArg Prod.snd ended) before

end Interpreter

section

variable {source : Scope → Nat → Store → Lowering} {depth : Nat} {final : Store}

/-- Calls of engines push the frames of their sequences, and of the definitions that they come to. -/
def CallsPush (source : Scope → Nat → Store → Lowering) (depth : Nat) (final : Store) : Prop :=
  ∀ h i seq s, ((Env.interpreting source).interpretAt depth h i seq s).2.store.Before final →
    Pushing (Interpreter.Pushed final i seq.instrs (Env.visitsAt source depth h i seq s)) s
      ((Env.interpreting source).interpretAt depth h i seq s).2

theorem Body.sequence_pushes {F : Frame → Prop} {b : Body} {c : Call} {s s₁ : State}
    {o : Option (Outcome Sequence)}
    (run : b.sequence ((Env.interpreting source).reach depth) (b.announced c s) = (o, s₁)) :
    Pushing F s s₁ := by
  have announced : Pushing F s (b.announced c s) :=
    (b.announce_keeps (Pushing.quiet F).toAside c).of_ended (b.announce_run c s)
  have prepared : Pushing F (b.announced c s)
      (readyAt source depth b (b.announced c s).context.settings (b.announced c s)).2 :=
    Keeps.readyAt (Pushing.quiet F).toAside.preparing depth b _ _
  rw [← b.sequence_run, run] at prepared
  exact announced.trans prepared

theorem Body.ready_pushes (called : CallsPush source depth final) {b : Body} {c : Call}
    {block : Block} {s s₁ : State} {seq : Sequence}
    (ready : b.sequence ((Env.interpreting source).reach depth) (b.announced c s) =
      (some (.ok seq), s₁))
    (before : (b.invoke ((Env.interpreting source).reach depth) c block s).2.store.Before final) :
    Pushing (fun f => b.PushesIn final c block f ∨
        ∃ v ∈ b.visits ((Env.interpreting source).reach depth) (Env.visitsAt source depth) c block s,
          v.PushesIn final f) s₁
      (b.invoke ((Env.interpreting source).reach depth) c block s).2 := by
  have balanced := Balance.reach source depth
  have installed : s₁.store.sequence? b = some seq := readyAt_run ready
  have framed : ∀ {F : Frame → Prop}, (∀ f, b.PushesIn final c block f → F f) →
      final.sequence? b = some seq → Pushing F s₁ (s₁.framed seq.explicit (b.frame c block)) :=
    fun allowed there => .framed fun implicit => allowed _ (.generic there implicit)
  rcases s₁.admits_or_refuses seq.explicit with room | ⟨generic, max, limit⟩
  · cases kind : b.scope.label? with
    | none =>
      rw [(Course.invalid ready room kind).run balanced] at before ⊢
      have later := (s₁.before_framed seq.explicit (b.frame c block)).trans
        (State.before_unframed _ seq.explicit)
      have there := (later.toBefore.trans before).installed b seq installed
      exact (framed (fun _ => .inl) there).trans (Pushing.unframed _ _)
    | some label =>
      let s₂ := b.opened c block label seq s₁
      rw [visits_run ready room kind]
      have opened : ∀ {F : Frame → Prop}, (∀ f, b.PushesIn final c block f → F f) →
          final.sequence? b = some seq → Pushing F s₁ s₂ :=
        fun allowed there => (framed allowed there).trans (Pushing.move (by simp) _ _)
      have run : ∀ s₃, (((Env.interpreting source).reach depth).interpret seq.handle
          (invocation label c block) seq s₂).2 = s₃ → s₃.store.Before final →
          Pushing (fun f => b.PushesIn final c block f ∨
            ∃ v ∈ Env.visitsAt source depth seq.handle (invocation label c block) seq s₂,
              v.PushesIn final f) s₁ s₃ := by
        rintro s₃ rfl earlier
        have inside : s₂.Before (((Env.interpreting source).reach depth).interpret seq.handle
            (invocation label c block) seq s₂).2 :=
          (State.Before.stepwise.reach depth).interpret _ _ _ s₂
        have later := (b.before_opened c block label seq s₁).trans inside
        have there := (later.toBefore.trans earlier).installed b seq installed
        refine (opened (fun _ => .inl) there).trans ((called _ _ _ _ earlier).weaken ?_)
        rintro f (⟨instr, rfl⟩ | nested)
        · exact .inl (.own there instr kind)
        · exact .inr nested
      rcases ran : ((Env.interpreting source).reach depth).interpret seq.handle
        (invocation label c block) seq s₂ with ⟨_ | o, s₃⟩
      · rw [invoke_cut ready room kind ran] at before ⊢
        exact run s₃ (congrArg Prod.snd ran) before
      · rw [(Course.interpreted ready room kind ran).run balanced] at before ⊢
        have earlier := (s₃.before_closed seq.explicit).toBefore.trans before
        exact (run s₃ (congrArg Prod.snd ran) earlier).trans (Pushing.closed _ _)
  · rw [(Course.refused ready generic limit).run balanced]
    exact .move (by simp) _ _

theorem Body.invocations_push (called : CallsPush source depth final) :
    Interpreter.InvocationsPush final ((Env.interpreting source).reach depth)
      (Body.visits ((Env.interpreting source).reach depth) (Env.visitsAt source depth)) := by
  intro b c block s before
  have balanced := Balance.reach source depth
  rcases run : b.sequence ((Env.interpreting source).reach depth) (b.announced c s) with
    ⟨_ | seq | f | t, s₁⟩
  · have cut : b.invoke ((Env.interpreting source).reach depth) c block s = (none, s₁) := by
      rw [invoke, bind_of_ok (announce_run b c s), bind_of_none run]
    rw [cut]
    exact sequence_pushes run
  · exact (sequence_pushes run).trans (ready_pushes called run before)
  · rw [(Course.unready run).run balanced]
    exact sequence_pushes run
  · rw [(Course.broken run).run balanced]
    exact sequence_pushes run

theorem Env.calls_push (source : Scope → Nat → Store → Lowering) (depth : Nat) (final : Store) :
    CallsPush source depth final := by
  induction depth with
  | zero => exact fun h i seq s _ => .refl s
  | succ depth ih =>
    intro h i seq s before
    cases reached : s.store.reaches h with
    | false =>
      rw [interpretAt_gone reached]
      exact .refl s
    | true =>
      let reach := (interpreting source).reach depth
      have held : ∀ {F : Frame → Prop}, Pushing F s (s.held h.engine) := .silent rfl
      have inside : (Interpreter.interpret reach h.engine i seq (s.held h.engine)).2.store.Before
          final → Pushing (Interpreter.Pushed final i seq.instrs
            (Interpreter.visits reach (Body.visits reach (visitsAt source depth)) h.engine i seq 0
              .nil seq.instrs (s.held h.engine))) (s.held h.engine)
            (Interpreter.interpret reach h.engine i seq (s.held h.engine)).2 :=
        Interpreter.interpret_pushes (Body.invocations_push ih)
          (State.Before.stepwise.reach depth) (Balance.reach source depth)
      rw [visitsAt, if_pos reached]
      rw [interpretAt_reached reached] at before ⊢
      rcases run : Interpreter.interpret reach h.engine i seq (s.held h.engine) with ⟨_ | o, s₁⟩ <;>
        rw [run] at inside
      · rw [holding_of_none run] at before ⊢
        exact held.trans (inside before)
      · rw [holding_of_ended run] at before ⊢
        have released : s₁.store.Before (s₁.released h.engine).store :=
          ⟨rfl, fun _ _ found => found, fun _ _ _ found => found⟩
        exact held.trans ((inside (released.trans before)).trans (.silent rfl))

end

/-! ## When the two frames agree -/

theorem Body.ownFrame_eq_iff (b : Body) (label : String) (c : Call) (block : Block) :
    ownFrame label c block = b.frame c block ↔ c.via = b.implementationClass ∧ label = c.name := by
  simp [ownFrame, Interpreter.ownFrame, invocation, frame]

/-- A definition calls its body by the name of the scope, which is the label of the body too unless it
opens a metaclass. -/
theorem Body.ownFrame_definition_iff (b : Body) {label : String}
    (kind : b.scope.label? = some label) :
    ownFrame label (Interpreter.definitionCall b) .absent =
        b.frame (Interpreter.definitionCall b) .absent ↔
      (b.scope.kind = .metaclassBody → b.scope.name = "singleton class") := by
  rw [ownFrame_eq_iff]
  unfold Scope.label? at kind
  cases is : b.scope.kind with
  | metaclassBody =>
    rw [is] at kind
    cases kind
    simp [Interpreter.definitionCall, eq_comm]
  | moduleBody | classBody =>
    rw [is] at kind
    cases kind
    simp [Interpreter.definitionCall]
  | method | closure | scriptBody | evalCode =>
    rw [is] at kind
    cases kind

/-- Every frame that an invocation of a body pushes on its way is pushed by one of two hands, for the
call itself or for a definition that it comes to. For the call these are two equal frames exactly if
it was made through the class of the method and by the label of the body. For a definition they are
equal unless it opens a metaclass. -/
theorem Body.invoke_pushes_frames (source : Scope → Nat → Store → Lowering) (depth : Nat) (b : Body)
    (c : Call) (block : Block) (s : State) :
    let reach := (Env.interpreting source).reach depth
    let s' := (b.invoke reach c block s).2
    let visits := b.visits reach (Env.visitsAt source depth) c block s
    (∀ f ∈ pushedFrames (s'.since s), b.PushesIn s'.store c block f ∨
      ∃ v ∈ visits, v.PushesIn s'.store f) ∧
    (∀ label, b.scope.label? = some label →
      (ownFrame label c block = b.frame c block ↔
        c.via = b.implementationClass ∧ label = c.name)) ∧
    ∀ v ∈ visits, ∀ label, v.body.scope.label? = some label →
      (ownFrame label (Interpreter.definitionCall v.body) .absent =
          v.body.frame (Interpreter.definitionCall v.body) .absent ↔
        (v.body.scope.kind = .metaclassBody → v.body.scope.name = "singleton class")) := by
  intro reach s' visits
  have called := Env.calls_push source depth s'.store
  have pushing := invocations_push called b c block s (.refl s'.store)
  refine ⟨?_, ?_, ?_⟩
  · intro f among
    exact pushing.mem among
  · intro label _
    exact b.ownFrame_eq_iff label c block
  · intro v _ label kind
    exact v.body.ownFrame_definition_iff kind

/-- A metaclass body is called by its name, once with a sequence that pushes its own frame and once
with one that does not. The first frame has the label of the body, where the second one has the name
of the call. -/
theorem Body.metaclass_frames_differ :
    let m : Module := .top 0 "Widget" .classLike
    let source : Scope → Nat → Store → Lowering := fun scope _ _ =>
      .prepared (if scope.id = 0 then ⟨[.pushFrame, .popFrame], true⟩ else ⟨[], false⟩)
    let pushed : Nat → List Frame := fun id =>
      let b : Body := ⟨id, ⟨id, .metaclassBody, "Widget", "widget.rb", 2⟩, m, ⟨0, true⟩⟩
      pushedFrames (b.invoke ((Env.interpreting source).reach 1) ⟨none, .object m, m, "Widget"⟩
        .absent ⟨⟨{}, 1, [], []⟩, {}, []⟩).2.trace
    pushed 0 = [⟨m, "singleton class", .object m, .absent⟩] ∧
      pushed 1 = [⟨m, "Widget", .object m, .absent⟩] := by
  decide

end BodyCall
