import BodyCall.Proofs.Depth
import BodyCall.Proofs.Invariants
import BodyCall.Proofs.Sound

/-!
# The frame limit bounds recursion

The scopes of a program may be nested in a circle, or without an end. A frame limit stops them all the
same: between one body and the next one inside it the stack has grown by a frame, so what is left of
the limit shrinks. The frame is that of the outer body, pushed for it, or by it if its code has more
pushes than pops before each definition.
-/

namespace BodyCall

open Eval

/-- Code that takes its frame itself has one on the stack wherever a definition stands. -/
def Lowered.Shielded (l : Lowered) : Prop :=
  l.explicit = false ∨ ∀ before scope after, l.instrs = before ++ .define scope :: after →
    before.count .popFrame < before.count .pushFrame

/-- With `own` frames on the stack already, there is one wherever a definition stands. -/
def Covered (own : Nat) (instrs : List Instr) : Prop :=
  ∀ before scope after, instrs = before ++ .define scope :: after →
    before.count .popFrame < own + before.count .pushFrame

theorem Covered.define {own : Nat} {scope : Scope} {rest : List Instr}
    (h : Covered own (.define scope :: rest)) : 0 < own := h [] scope rest rfl

theorem Covered.execute {r : Reach} {engine : Nat} {i : Invocation} {seq : Sequence}
    {own own' : Nat} {last last' : Value} {instr : Instr} {rest : List Instr} {s s₁ : State}
    (h : Covered own (instr :: rest))
    (step : Interpreter.execute r engine i seq own last instr s = (some (.ok (own', last')), s₁)) :
    Covered own' rest := by
  intro before scope after split
  have counts := h (instr :: before) scope after (congrArg (instr :: ·) split)
  rw [List.count_cons, List.count_cons] at counts
  cases instr with
  | line n => cases step; simpa using counts
  | put v => cases step; simpa using counts
  | putSelf => cases step; simpa using counts
  | raise message => cases step
  | pushFrame =>
    obtain ⟨_, s₂, -, pushed⟩ := bind_ok step
    cases pushed
    simp at counts
    omega
  | popFrame =>
    cases own with
    | zero => cases step
    | succ own =>
      obtain ⟨_, s₂, -, popped⟩ := bind_ok step
      cases popped
      simp at counts
      omega
  | define inner =>
    obtain ⟨v, s₂, -, defined⟩ := bind_ok step
    cases defined
    simpa using counts

/-! ## What happens on the way -/

/-- No stack is higher than this. -/
def Event.Fits (entries frames : Nat) : Event → Prop
  | .moved _ b f => b.length ≤ entries ∧ f.length ≤ frames
  | _ => True

theorem Event.fits_of_not_motion (entries frames : Nat) (e : Event) (h : e.isMotion = false) :
    e.Fits entries frames := by
  cases e with
  | moved m b f => cases h
  | _ => trivial

theorem Event.Fits.mono {e : Event} {entries frames entries' frames' : Nat}
    (h : e.Fits entries frames) (he : entries ≤ entries') (hf : frames ≤ frames') :
    e.Fits entries' frames' := by
  cases e with
  | moved m b f => exact ⟨Nat.le_trans h.1 he, Nat.le_trans h.2 hf⟩
  | _ => trivial

abbrev Fitting (entries frames : Nat) (s s' : State) : Prop :=
  Throughout (Event.Fits entries frames) s s'

namespace Fitting

variable {entries frames : Nat} {s s' : State}

theorem move (m : Motion) {b : Backtrace} {f : List Frame} (hb : b.length ≤ entries)
    (hf : f.length ≤ frames) : Fitting entries frames s (s.move m b f) := .one rfl ⟨hb, hf⟩

theorem quiet (entries frames : Nat) : Quiet fun s _ s' => Fitting entries frames s s' :=
  Throughout.quiet (Event.fits_of_not_motion entries frames)

/-- Frames that are popped only leave less. -/
theorem popFrames (n : Nat) (hb : s.context.backtrace.length ≤ entries)
    (hf : s.context.frames.length ≤ frames) :
    Fitting entries frames s (Eval.popFrames n s).2 := by
  induction n generalizing s with
  | zero => exact .refl s
  | succ n ih =>
    cases stack : s.context.frames with
    | nil =>
      rw [Eval.popFrames, bind_of_panicked (popFrame_empty stack)]
      exact .refl s
    | cons f rest =>
      have low : rest.length ≤ frames := by
        rw [stack, List.length_cons] at hf
        omega
      rw [Eval.popFrames, bind_of_ok (popFrame_run stack)]
      exact (move .framePopped hb low).trans (ih (s := s.move _ _ rest) hb low)

theorem framed {explicit : Bool} {f : Frame} (hb : s.context.backtrace.length ≤ entries)
    (hf : (s.framed explicit f).context.frames.length ≤ frames) :
    Fitting entries frames s (s.framed explicit f) := by
  cases explicit with
  | true => exact .refl s
  | false => exact move .framePushed hb hf

theorem unframed {explicit : Bool} (hb : s.context.backtrace.length ≤ entries)
    (hf : s.context.frames.length ≤ frames) : Fitting entries frames s (s.unframed explicit) := by
  cases explicit with
  | true => exact .refl s
  | false =>
    refine move .framePopped hb ?_
    rw [List.length_tail]
    omega

theorem opened {b : Body} {c : Call} {block : Block} {label : String} {seq : Sequence}
    (hb : s.context.backtrace.length + 1 ≤ entries)
    (hf : (b.opened c block label seq s).context.frames.length ≤ frames) :
    Fitting entries frames s (b.opened c block label seq s) := by
  have pushed : Fitting entries frames s (s.framed seq.explicit (b.frame c block)) :=
    framed (by omega) hf
  refine pushed.trans (move .entered ?_ hf)
  rw [List.length_cons, State.framed_backtrace]
  exact hb

theorem closed {explicit : Bool} (hb : s.context.backtrace.length ≤ entries)
    (hf : s.context.frames.length ≤ frames) : Fitting entries frames s (s.closed explicit) := by
  have shorter : s.context.backtrace.tail.length ≤ entries := by
    rw [List.length_tail]
    omega
  exact (move .left shorter hf).trans (unframed (s := s.left) shorter hf)

end Fitting

/-! ## Under a limit -/

/-- A state under the limit `m`. All lowerings come to an end from here on, and all code that takes
its frames itself has one on the stack at each of its definitions. -/
structure Bounded (source : Scope → Nat → Store → Lowering) (m : Nat) (s : State) : Prop where
  limit : s.context.settings.maxDepth = some m
  /-- Each lowering ends with instructions, a refusal or a panic. -/
  ends : ∀ t, s.Before t → ∀ scope, ∃ depth o t',
    lower source (readyAt source depth) scope t = (some o, t')
  answers : ∀ scope n st l, (source scope n st).result = .answered (.ok l) → l.Shielded
  installs : s.store.Installs Lowered.Shielded

variable {source : Scope → Nat → Store → Lowering} {m : Nat} {s s₁ : State}

theorem State.low_of_room (limit : s.context.settings.maxDepth = some m)
    (room : s.context.exceeded? = none) : s.context.frames.length < m := by
  rw [Context.exceeded?, limit] at room
  simpa [Option.filter] using room

namespace Bounded

def shielded (h : Bounded source m s) : Invariant source := .code h.answers

theorem after (h : Bounded source m s) (before : s.Before s₁)
    (installs : s₁.store.Installs Lowered.Shielded) : Bounded source m s₁ where
  limit := (congrArg Settings.maxDepth before.settings).trans h.limit
  ends t later := h.ends t (before.trans later)
  answers := h.answers
  installs := installs

/-- The state still is so after anything that leaves the store alone. -/
theorem alike (h : Bounded source m s) (before : s.Before s₁) (same : s₁.store = s.store) :
    Bounded source m s₁ :=
  h.after before (same.symm ▸ h.installs)

theorem readyAt (h : Bounded source m s) (b : Body) (settings : Settings) :
    ∃ depth o s', Eval.readyAt source depth b settings s = (some o, s') := by
  cases found : s.store.sequence? b with
  | some seq => exact ⟨1, _, _, readyAt_found found⟩
  | none =>
    obtain ⟨depth, o, s₁, lowered⟩ := h.ends s (.refl s) b.scope
    refine ⟨depth + 1, ?_⟩
    rw [readyAt_absent found]
    rcases o with (reason | l) | f | t
    · exact ⟨_, s₁, bind_of_failed (prepare_refused lowered)⟩
    · obtain ⟨seq, s₂, installed, -⟩ := install_run b _ settings _
      exact ⟨_, s₂, (bind_of_ok (prepare_answered lowered)).trans installed⟩
    · exact ⟨_, s₁, bind_of_failed (bind_of_failed lowered)⟩
    · exact ⟨_, s₁, bind_of_panicked (bind_of_panicked lowered)⟩

end Bounded

/-- The computation ends within some depth of calls, and its stacks do not go beyond these heights on
the way. -/
def Finishes {α : Type} (x : Nat → Eval α) (s : State) (entries frames : Nat) : Prop :=
  ∃ depth o s', x depth s = (some o, s') ∧ Fitting entries frames s s'

/-- The bodies of definitions finish that stand on top of this many entries, and from `low` up to
`high` frames. -/
def DefinitionsFinish (source : Scope → Nat → Store → Lowering) (m entry low high : Nat)
    (entries frames : Nat) : Prop :=
  ∀ (b : Body) (s : State), Bounded source m s → s.context.backtrace.length = entry →
    low ≤ s.context.frames.length → s.context.frames.length ≤ high →
    Finishes (fun depth => b.invoke ((Env.interpreting source).reach depth)
      (Interpreter.definitionCall b) .absent) s entries frames

namespace Interpreter

variable (engine : Nat) (i : Invocation) (seq : Sequence)

theorem execute_finishes {entry low high entries frames : Nat}
    (nested : DefinitionsFinish source m entry low high entries frames)
    (bounded : Bounded source m s) (below : entry ≤ entries) (inside : high ≤ frames) (top : m ≤ high)
    (backtrace : s.context.backtrace.length = entry) (height : s.context.frames.length ≤ high)
    (own : Nat) (last : Value) (instr : Instr)
    (covered : ∀ scope, instr = .define scope → low ≤ s.context.frames.length) :
    ∃ depth o s', execute ((Env.interpreting source).reach depth) engine i seq own last instr s =
      (some o, s') ∧ Fitting entries frames s s' ∧ s'.context.frames.length ≤ high := by
  cases instr with
  | line n => exact ⟨0, _, _, rfl, .silent rfl, height⟩
  | put v => exact ⟨0, _, _, rfl, .refl s, height⟩
  | putSelf => exact ⟨0, _, _, rfl, .refl s, height⟩
  | raise message => exact ⟨0, _, _, execute_raise message, .refl s, height⟩
  | pushFrame =>
    cases room : s.context.exceeded? with
    | some max =>
      refine ⟨0, _, _, bind_of_failed (pushFrame_refused room), .move _ ?_ ?_, height⟩
      · omega
      · omega
    | none =>
      have low := State.low_of_room bounded.limit room
      have pushed : (ownFrame i :: s.context.frames).length ≤ high := by
        rw [List.length_cons]
        omega
      exact ⟨0, _, _, bind_of_ok (pushFrame_run room), .move _ (by omega) (by omega), pushed⟩
  | popFrame =>
    cases own with
    | zero => exact ⟨0, _, _, execute_underflow, .refl s, height⟩
    | succ own =>
      cases stack : s.context.frames with
      | nil => exact ⟨0, _, _, bind_of_panicked (popFrame_empty stack), .refl s, height⟩
      | cons f rest =>
        have popped : rest.length ≤ high := by
          rw [stack, List.length_cons] at height
          omega
        exact ⟨0, _, _, bind_of_ok (popFrame_run stack), .move _ (by omega) (by omega), popped⟩
  | define scope =>
    let s₀ : State := { s with trace := .defining engine scope :: s.trace }
    have part : bounded.shielded.part scope := trivial
    obtain ⟨b, s₁, known, carried, -⟩ := Invariant.bodyFor (h := seq.handle) trivial part
      i.call.receiver.module? (s := s₀) bounded.installs
    have context : s₁.context = s₀.context :=
      (bodyFor_keeps State.context_aside _ _ _ _).of_ended known
    have before : s₀.Before s₁ :=
      (bodyFor_keeps State.Before.stepwise.toAside _ _ _ _).of_ended known
    have told : s.Before s₀ := ⟨.refl s.store, rfl, List.suffix_cons _ s.trace⟩
    have made : Fitting entries frames s₀ s₁ :=
      (bodyFor_keeps (Fitting.quiet entries frames).toAside _ _ _ _).of_ended known
    obtain ⟨depth, o, s₂, ended, fitting⟩ := nested b s₁
      (bounded.after (told.trans before) carried.holds) (context ▸ backtrace)
      (context ▸ covered scope rfl) (context ▸ height)
    have defined := (define_run known).trans ended
    have stack : s₂.context.frames = s.context.frames :=
      ((define_keeps Balance.guarded (Balance.reach source depth) engine i seq scope).of_ended
        defined).frames rfl
    have fitting : Fitting entries frames s s₂ :=
      (Throughout.one rfl trivial : Fitting entries frames s s₀).trans (made.trans fitting)
    refine ⟨depth, o.map fun v => (own, v), s₂, ?_, fitting, stack ▸ height⟩
    cases o with
    | ok v => exact bind_of_ok defined
    | failed f => exact bind_of_failed defined
    | panicked t => exact bind_of_panicked defined

/-- A sequence that has `pushed` frames on top of `base` finishes. Its definitions stand at `low`
frames or more: `base` is as high, or it falls short by one and one is always pushed. -/
theorem run_finishes {entry low high entries frames : Nat}
    (nested : DefinitionsFinish source m entry low high entries frames) (below : entry ≤ entries)
    (inside : high ≤ frames) (top : m ≤ high) {base : List Frame} (instrs : List Instr)
    (pushed : List Frame) (last : Value) {s : State} (bounded : Bounded source m s)
    (backtrace : s.context.backtrace.length = entry) (stack : s.context.frames = pushed ++ base)
    (height : s.context.frames.length ≤ high)
    (covered : low ≤ base.length ∨ low ≤ base.length + 1 ∧ Covered pushed.length instrs) :
    ∃ depth o own s', run ((Env.interpreting source).reach depth) engine i seq pushed.length last
        instrs s = (some (.ok (o, own)), s') ∧
      Fitting entries frames s s' ∧ s'.context.frames.length ≤ high := by
  -- on the instructions; the depth for all of them is the greater one of those for the first and for
  -- the rest
  induction instrs generalizing pushed last s with
  | nil => exact ⟨0, .ok last, pushed.length, s, rfl, .refl s, height⟩
  | cons instr rest ih =>
    have here (scope : Scope) (definition : instr = .define scope) :
        low ≤ s.context.frames.length := by
      rw [stack, List.length_append]
      rcases covered with high | ⟨close, covered⟩
      · omega
      · have one := (definition ▸ covered).define
        omega
    obtain ⟨depth, o, s₁, step, first, height₁⟩ := execute_finishes engine i seq nested bounded below
      inside top backtrace height pushed.length last instr here
    rcases o with ⟨own, last'⟩ | f | t
    · have confined := execute_confined (Balance.reach source depth) engine i seq last instr stack
      rw [step] at confined
      obtain ⟨pushed', stack', rfl⟩ := confined.frames
      have before : s.Before s₁ :=
        (execute_keeps State.Before.stepwise (State.Before.stepwise.reach depth) engine i seq _ _
          instr).of_ended step
      have keeps : Keeps (bounded.shielded.Passing [])
          (execute ((Env.interpreting source).reach depth) engine i seq pushed.length last instr) :=
        Invariant.execute (bounded.shielded.reach depth) trivial i pushed.length last
          fun _ _ => trivial
      have carried := keeps.of_ended step bounded.installs nofun
      obtain ⟨depth', o, own, s', ran, second, height'⟩ := ih pushed' last'
        (bounded.after before carried.holds) (confined.backtrace ▸ backtrace) stack' height₁
        (covered.imp_right fun ⟨close, covered⟩ => ⟨close, covered.execute step⟩)
      refine ⟨max depth depth', o, own, s', ?_, first.trans second, height'⟩
      have step := execute_below (Env.reach_below (Nat.le_max_left depth depth')) engine i seq _ _
        instr s _ s₁ step
      rw [run_of_ok step]
      exact run_below (Env.reach_below (Nat.le_max_right depth depth')) engine i seq _ _ rest s₁ _ s'
        ran
    · exact ⟨depth, _, _, s₁, run_of_failed step rest, first, height₁⟩
    · exact ⟨depth, _, _, s₁, run_of_panicked step rest, first, height₁⟩

theorem interpret_finishes {low high entries frames : Nat}
    (nested : DefinitionsFinish source m s.context.backtrace.length low high entries frames)
    (below : s.context.backtrace.length ≤ entries) (inside : high ≤ frames) (top : m ≤ high)
    (bounded : Bounded source m s) (height : s.context.frames.length ≤ high)
    (covered : low ≤ s.context.frames.length ∨
      low ≤ s.context.frames.length + 1 ∧ Covered 0 seq.instrs) :
    Finishes (fun depth => interpret ((Env.interpreting source).reach depth) engine i seq) s
      entries frames := by
  obtain ⟨depth, o, own, s₁, ran, first, height₁⟩ := run_finishes engine i seq nested below inside top
    seq.instrs [] .nil bounded rfl rfl height covered
  have confined := @run_confined _ _ s (Balance.reach source depth) engine i seq .nil seq.instrs [] rfl
  rw [ran] at confined
  obtain ⟨pushed, stack, rfl⟩ := confined.frames
  let s₂ : State := { s₁ with trace := reported o ++ s₁.trace }
  obtain ⟨s', popped, -⟩ := @popFrames_own _ s₂ _ stack
  have told : Fitting entries frames s₁ s₂ :=
    (report_keeps (Fitting.quiet entries frames).toTelling o).of_ended (report_run o s₁)
  have second : Fitting entries frames s₂ s' := by
    have popping : Fitting entries frames s₂ (Eval.popFrames pushed.length s₂).2 :=
      Fitting.popFrames pushed.length (confined.backtrace ▸ below) (Nat.le_trans height₁ inside)
    rw [popped] at popping
    exact popping
  exact ⟨depth, o, s', interpret_of_popped ran popped, first.trans (told.trans second)⟩

end Interpreter

theorem Env.interpretAt_finishes (low high : Nat) {entries frames : Nat} {h : Handle}
    {i : Invocation} {seq : Sequence}
    (nested : DefinitionsFinish source m s.context.backtrace.length low high entries frames)
    (below : s.context.backtrace.length ≤ entries) (inside : high ≤ frames) (top : m ≤ high)
    (bounded : Bounded source m s) (height : s.context.frames.length ≤ high)
    (covered : low ≤ s.context.frames.length ∨
      low ≤ s.context.frames.length + 1 ∧ Covered 0 seq.instrs) :
    Finishes (fun depth => (interpreting source).interpretAt depth h i seq) s entries frames := by
  cases reached : s.store.reaches h with
  | false => exact ⟨1, _, s, interpretAt_gone reached, .refl s⟩
  | true =>
    have held : s.Before (s.held h.engine) :=
      State.Before.stepwise.stored s _ (.hold s.store h.engine)
    obtain ⟨depth, o, s₁, ran, fitting⟩ := Interpreter.interpret_finishes h.engine i seq
      (s := s.held h.engine) nested below inside top (bounded.after held bounded.installs) height
      covered
    have calling : Fitting entries frames s (s.held h.engine) := .silent rfl
    have back : Fitting entries frames s₁ (s₁.released h.engine) := .silent rfl
    exact ⟨depth + 1, o, _, interpretAt_ended reached ran, calling.trans (fitting.trans back)⟩

/-- The highest that each stack gets in an invocation that finds the stacks as they are. -/
def Finishes.Invoked (source : Scope → Nat → Store → Lowering) (m : Nat) (b : Body) (c : Call)
    (block : Block) (s : State) : Prop :=
  Finishes (fun depth => b.invoke ((Env.interpreting source).reach depth) c block) s
    (s.context.backtrace.length + (m - s.context.frames.length) + 1)
    (max s.context.frames.length m)

namespace Body

variable {b : Body} {c : Call} {block : Block} {seq : Sequence} {label : String}

theorem opened_low (b : Body) (c : Call) (block : Block) (label : String)
    (limit : s₁.context.settings.maxDepth = some m) (room : s₁.Admits seq.explicit) :
    s₁.context.frames.length ≤ (b.opened c block label seq s₁).context.frames.length ∧
      (b.opened c block label seq s₁).context.frames.length ≤ max s₁.context.frames.length m := by
  rw [opened_depth]
  cases explicit : seq.explicit with
  | true => exact ⟨Nat.le_refl _, Nat.le_max_left _ m⟩
  | false =>
    have low := State.low_of_room limit (room.resolve_left (by simp [explicit]))
    exact ⟨Nat.le_succ _, Nat.le_trans low (Nat.le_max_right _ m)⟩

/-- What a body runs finishes, if what has less of the limit left does. -/
theorem interpret_finishes (b : Body) (c : Call) (block : Block) (label : String)
    (bounded : Bounded source m s₁) (room : s₁.Admits seq.explicit)
    (shielded : seq.lowered.Shielded)
    (less : ∀ (b : Body) (c : Call) (block : Block) (s : State), Bounded source m s →
      m - s.context.frames.length < m - s₁.context.frames.length →
      Finishes.Invoked source m b c block s) (h : Handle) (i : Invocation) :
    Finishes (fun depth => (Env.interpreting source).interpretAt depth h i seq)
      (b.opened c block label seq s₁)
      (s₁.context.backtrace.length + (m - s₁.context.frames.length) + 1)
      (max s₁.context.frames.length m) := by
  have entered := b.opened_backtrace c block label seq s₁
  have heights := b.opened_low c block label bounded.limit room
  have before := b.before_opened c block label seq s₁
  have alike := b.alike_opened c block label seq s₁
  refine Env.interpretAt_finishes (s₁.context.frames.length + 1) (max s₁.context.frames.length m)
    ?_ ?_ (Nat.le_refl _) (Nat.le_max_right _ m) (bounded.alike before alike.store)
    heights.2 ?_
  · intro b' s' bounded' entries' low high
    rw [entered, List.length_cons] at entries'
    obtain ⟨depth, o, s₂, ended, fitting⟩ :=
      less b' (Interpreter.definitionCall b') .absent s' bounded' (by omega)
    refine ⟨depth, o, s₂, ended, fitting.mono fun e fits => fits.mono ?_ ?_⟩
    · omega
    · omega
  · rw [entered, List.length_cons]
    omega
  · rw [opened_depth]
    cases explicit : seq.explicit with
    | false => exact .inl (by simp)
    | true =>
      refine .inr ⟨by simp, fun before scope after split => ?_⟩
      rw [Nat.zero_add]
      exact shielded.resolve_left (by simp [Sequence.lowered, explicit]) before scope after split

/-- An invocation finishes whose body is ready in the second state. -/
theorem ready_finishes (block : Block) {depth : Nat}
    (ready : b.sequence ((Env.interpreting source).reach depth) (b.announced c s) =
      (some (.ok seq), s₁))
    (bounded : Bounded source m s₁) (shielded : seq.lowered.Shielded)
    (less : ∀ (b : Body) (c : Call) (block : Block) (s : State), Bounded source m s →
      m - s.context.frames.length < m - s₁.context.frames.length →
      Finishes.Invoked source m b c block s) :
    ∃ depth o s', b.invoke ((Env.interpreting source).reach depth) c block s = (some o, s') ∧
      Fitting (s₁.context.backtrace.length + (m - s₁.context.frames.length) + 1)
        (max s₁.context.frames.length m) s₁ s' := by
  have high : s₁.context.frames.length ≤ max s₁.context.frames.length m := Nat.le_max_left _ m
  rcases s₁.admits_or_refuses seq.explicit with room | ⟨generic, max, limit⟩
  · have heights (label : String) := (b.opened_low c block label bounded.limit room).2
    cases kind : b.scope.label? with
    | none =>
      refine ⟨depth, _, _, (Course.invalid ready room kind).run (Balance.reach source depth), ?_⟩
      have pushed : Fitting (s₁.context.backtrace.length + (m - s₁.context.frames.length) + 1)
          (max s₁.context.frames.length m) s₁
          (s₁.framed seq.explicit (b.frame c block)) := .framed (by omega) (heights "")
      refine pushed.trans (Fitting.unframed ?_ (heights ""))
      rw [State.framed_backtrace]
      omega
    | some label =>
      obtain ⟨depth', o, s₂, ran, inside⟩ := b.interpret_finishes c block label bounded room shielded
        less seq.handle (invocation label c block)
      let deep := Nat.max depth depth'
      have balanced := Balance.reach source deep
      have ready : b.sequence ((Env.interpreting source).reach deep) (b.announced c s) = _ :=
        (Env.reach_below (Nat.le_max_left depth depth')).ready b _ _ _ s₁ ready
      have ran : ((Env.interpreting source).reach deep).interpret seq.handle
          (invocation label c block) seq (b.opened c block label seq s₁) = _ :=
        (Env.reach_below (Nat.le_max_right depth depth')).interpret _ _ _ _ o s₂ ran
      have balance := (balanced.interpret seq.handle (invocation label c block) seq).of_ended ran
      refine ⟨deep, _, _, (Course.interpreted ready room kind ran).run balanced, ?_⟩
      refine (Fitting.opened ?_ (heights label)).trans (inside.trans (Fitting.closed ?_ ?_))
      · omega
      · rw [balance.backtrace rfl, opened_backtrace, List.length_cons]
        omega
      · rw [balance.frames rfl]
        exact heights label
  · refine ⟨depth, _, _, (Course.refused ready generic limit).run (Balance.reach source depth), ?_⟩
    exact .move .frameRefused (by omega) high

theorem invoke_finishes (bounded : Bounded source m s) (b : Body) (c : Call) (block : Block) :
    Finishes.Invoked source m b c block s := by
  -- on what is left of the limit: it is less for the definitions inside
  induction left : m - s.context.frames.length using Nat.strongRecOn generalizing s b c block with
  | ind left ih =>
    subst left
    have less (b' : Body) (c' : Call) (block' : Block) (s' : State) (bounded' : Bounded source m s')
        (shrinks : m - s'.context.frames.length < m - s.context.frames.length) :
        Finishes.Invoked source m b' c' block' s' := ih _ shrinks bounded' b' c' block' rfl
    let entries := s.context.backtrace.length + (m - s.context.frames.length) + 1
    let frames := max s.context.frames.length m
    have announced : Fitting entries frames s (b.announced c s) :=
      (b.announce_keeps (Fitting.quiet entries frames).toAside c).of_ended (b.announce_run c s)
    have before : s.Before (b.announced c s) :=
      (b.announce_keeps State.Before.stepwise.toAside c).of_ended (b.announce_run c s)
    have bounded₀ := bounded.alike before (b.announced_store c s)
    obtain ⟨depth, o, s₁, ready⟩ := bounded₀.readyAt b (b.announced c s).context.settings
    have balanced := Balance.reach source depth
    have prepared : Fitting entries frames (b.announced c s) s₁ :=
      (Keeps.readyAt (Fitting.quiet entries frames).toAside.preparing depth b _).of_ended ready
    have before₁ : (b.announced c s).Before s₁ :=
      (Keeps.readyAt State.Before.stepwise.toAside.preparing depth b _).of_ended ready
    have ready : b.sequence ((Env.interpreting source).reach depth) (b.announced c s) =
      (some o, s₁) := ready
    have context : s₁.context = s.context :=
      (sequence_context ready).trans (b.announced_context c s)
    have first := announced.trans prepared
    have here : s₁.context.frames.length ≤ frames := context ▸ Nat.le_max_left _ m
    have under : s₁.context.backtrace.length ≤ entries := by
      rw [context]
      omega
    rcases o with seq | f | t
    · have upheld := bounded.shielded.reach depth
      obtain ⟨carried, installed⟩ := Invariant.readied upheld bounded.installs trivial ready
      obtain ⟨depth', o, s', ended, second⟩ := ready_finishes block ready
        (bounded₀.after before₁ carried.holds) (carried.holds b.id seq installed) (context ▸ less)
      rw [context] at second
      exact ⟨depth', o, s', ended, first.trans second⟩
    · exact ⟨depth, _, s₁, (Course.unready ready).run balanced, first⟩
    · exact ⟨depth, _, s₁, (Course.broken ready).run balanced, first⟩

end Body

/-- The computation comes to an end. On the way there are never more than `frames` frames and
`entries` entries of the backtrace on the stacks. -/
def EndsWithin (x : Nat → Eval Value) (s : State) (entries frames : Nat) : Prop :=
  ∃ depth o s', x depth s = (some o, s') ∧ Recorded s s' ∧
    ∀ motion backtrace stack, .moved motion backtrace stack ∈ s'.since s →
      backtrace.length ≤ entries ∧ stack.length ≤ frames

theorem Finishes.endsWithin {x : Nat → Eval Value} {entries frames : Nat}
    (h : Finishes x s entries frames)
    (kept : ∀ depth, Keeps (fun s _ s' => Recorded s s') (x depth)) :
    EndsWithin x s entries frames := by
  obtain ⟨depth, o, s', ended, fitting⟩ := h
  exact ⟨depth, o, s', ended, (kept depth).of_ended ended,
    fun motion backtrace stack among => fitting.events _ among⟩

/-- Under a frame limit every invocation comes to an end, however its scopes are nested, in a circle
or without an end. It never has more frames on the stack than the limit allows, or than it has found
if these are more, and it has no more bodies running at once than there are frames left, and one. The
same holds of every sequence that is run through a handle. -/
theorem limit_bounds_recursion (bounded : Bounded source m s) :
    let left := m - s.context.frames.length
    let system := Env.interpreting source
    (∀ (b : Body) (c : Call) (block : Block),
      EndsWithin (fun depth => b.invoke (system.reach depth) c block) s
        (s.context.backtrace.length + (left + 1)) (max s.context.frames.length m)) ∧
    ∀ (h : Handle) (i : Invocation) (seq : Sequence),
      EndsWithin (fun depth => system.interpretAt depth h i seq) s
        (s.context.backtrace.length + (left + 1)) (max s.context.frames.length m) := by
  intro left system
  have recorded (depth : Nat) : (system.reach depth).Keeps fun s _ s' => Recorded s s' :=
    Recorded.stepwise.reach depth
  refine ⟨fun b c block => ?_, fun h i seq => ?_⟩
  · exact (b.invoke_finishes bounded c block).endsWithin fun depth =>
      b.invoke_keeps Recorded.stepwise.guarded (recorded depth) c block
  · refine Finishes.endsWithin ?_ fun depth => (recorded depth).interpret h i seq
    refine Env.interpretAt_finishes s.context.frames.length (max s.context.frames.length m) ?_
      (Nat.le_add_right _ _) (Nat.le_refl _) (Nat.le_max_right _ m) bounded (Nat.le_max_left _ m)
      (.inl (Nat.le_refl _))
    intro b s' bounded' entries low high
    obtain ⟨depth, o, s₂, ended, fitting⟩ :=
      b.invoke_finishes bounded' (Interpreter.definitionCall b) .absent
    refine ⟨depth, o, s₂, ended, fitting.mono fun e fits => fits.mono ?_ ?_⟩
    · omega
    · omega

/-- The code of a class body and of its metaclass body, each of which opens the other one. -/
def circularCode (scope : Scope) : Lowered :=
  if scope.id = 0 then ⟨[.define ⟨1, .metaclassBody, "Widget", "widget.rb", 2⟩], false⟩
  else ⟨[.pushFrame, .define ⟨0, .classBody, "Widget", "widget.rb", 1⟩, .popFrame], true⟩

theorem circularCode_shielded (scope : Scope) : (circularCode scope).Shielded := by
  unfold circularCode
  split
  · exact .inl rfl
  · refine .inr fun before inner after split => ?_
    rcases before with _ | ⟨first, _ | ⟨second, _ | ⟨third, rest⟩⟩⟩ <;> simp at split
    obtain ⟨rfl, -⟩ := split
    decide

/-- Three frames are enough for four bodies. -/
theorem circular_limit_bounds_recursion :
    let m : Module := .top 0 "Widget" .classLike
    let b : Body := ⟨0, ⟨0, .classBody, "Widget", "widget.rb", 1⟩, m, ⟨0, true⟩⟩
    let s : State := ⟨⟨⟨{}, some 3⟩, 1, [], []⟩, { nextModule := 1, nextBody := 1 }, []⟩
    let source : Scope → Nat → Store → Lowering := fun scope _ _ => .prepared (circularCode scope)
    Bounded source 3 s ∧
      EndsWithin (fun depth => b.invoke ((Env.interpreting source).reach depth)
        ⟨none, .object m, m, "Widget"⟩ .absent) s 4 3 := by
  intro m b s source
  have bounded : Bounded source 3 s := by
    refine ⟨rfl, fun t _ scope => ⟨0, _, _, rfl⟩, fun scope n st l answer => ?_, nofun⟩
    have checked : (circularCode scope).checked = .ok l := SourceEnd.answered.inj answer
    rw [Lowered.checked_ok checked]
    exact circularCode_shielded scope
  exact ⟨bounded, (limit_bounds_recursion bounded).1 b _ _⟩

end BodyCall
