import BodyCall.Proofs.Balance

/-!
# The course of an invocation

Every way in which an invocation of a body can end, with the state that it leaves: it is not made
ready, its frame is refused, its scope is no body, or its engine has run its sequence.
-/

namespace BodyCall

open Eval

namespace State

def framed (s : State) (explicit : Bool) (f : Frame) : State :=
  if explicit then s else s.move .framePushed s.context.backtrace (f :: s.context.frames)

def unframed (s : State) (explicit : Bool) : State :=
  if explicit then s else s.move .framePopped s.context.backtrace s.context.frames.tail

def entered (s : State) (e : Entry) : State :=
  s.move .entered (e :: s.context.backtrace) s.context.frames

def left (s : State) : State := s.move .left s.context.backtrace.tail s.context.frames

@[simp] theorem framed_backtrace (s : State) (explicit : Bool) (f : Frame) :
    (s.framed explicit f).context.backtrace = s.context.backtrace := by
  unfold framed
  split <;> rfl

def closed (s : State) (explicit : Bool) : State := s.left.unframed explicit

/-- The states differ in their stacks and in what has happened, and in nothing else. -/
structure Alike (s s' : State) : Prop where
  store : s'.store = s.store
  line : s'.context.line = s.context.line
  settings : s'.context.settings = s.context.settings

theorem Alike.trans {s s₁ s' : State} (h : s.Alike s₁) (h' : s₁.Alike s') : s.Alike s' :=
  ⟨h'.store.trans h.store, h'.line.trans h.line, h'.settings.trans h.settings⟩

theorem alike_move (s : State) (m : Motion) (backtrace : Backtrace) (frames : List Frame) :
    s.Alike (s.move m backtrace frames) := ⟨rfl, rfl, rfl⟩

theorem alike_framed (s : State) (explicit : Bool) (f : Frame) : s.Alike (s.framed explicit f) := by
  unfold framed
  split <;> exact ⟨rfl, rfl, rfl⟩

theorem alike_unframed (s : State) (explicit : Bool) : s.Alike (s.unframed explicit) := by
  unfold unframed
  split <;> exact ⟨rfl, rfl, rfl⟩

theorem alike_closed (s : State) (explicit : Bool) : s.Alike (s.closed explicit) :=
  (s.alike_move .left _ _).trans (s.left.alike_unframed explicit)

theorem before_move (s : State) (m : Motion) (backtrace : Backtrace) (frames : List Frame) :
    s.Before (s.move m backtrace frames) := Before.stepwise.moved s m backtrace frames

theorem before_framed (s : State) (explicit : Bool) (f : Frame) :
    s.Before (s.framed explicit f) := by
  unfold framed
  split
  · exact .refl s
  · exact s.before_move _ _ _

theorem before_unframed (s : State) (explicit : Bool) : s.Before (s.unframed explicit) := by
  unfold unframed
  split
  · exact .refl s
  · exact s.before_move _ _ _

theorem before_closed (s : State) (explicit : Bool) : s.Before (s.closed explicit) :=
  (s.before_move .left _ _).trans (s.left.before_unframed explicit)

def Admits (s : State) (explicit : Bool) : Prop := explicit = true ∨ s.context.exceeded? = none

theorem admits_or_refuses (s : State) (explicit : Bool) :
    s.Admits explicit ∨ explicit = false ∧ ∃ max, s.context.exceeded? = some max := by
  cases explicit with
  | true => exact .inl (.inl rfl)
  | false =>
    cases h : s.context.exceeded? with
    | none => exact .inl (.inr h)
    | some max => exact .inr ⟨rfl, max, rfl⟩

end State

namespace Eval

variable {α : Type} {x : Eval α} {s s' : State} {o : Outcome α}

theorem withBacktrace_left {e : Entry} (h : x (s.entered e) = (some o, s'))
    (top : s'.context.backtrace = e :: s.context.backtrace) :
    withBacktrace e x s =
      (some (o.mapFailure (·.attach (e :: s.context.backtrace))), s'.left) := by
  rw [withBacktrace_of_ended h top, State.left, top]
  rfl

theorem withBacktrace_ended (hx : Keeps Balance x) {e : Entry} (h : x (s.entered e) = (some o, s')) :
    withBacktrace e x s =
      (some (o.mapFailure (·.attach (e :: s.context.backtrace))), s'.left) :=
  withBacktrace_left h ((hx.of_ended h).backtrace rfl)

theorem withProtocol_unframed {explicit : Bool} {f : Frame} (room : s.Admits explicit)
    (h : x (s.framed explicit f) = (some o, s'))
    (frames : s'.context.frames = (s.framed explicit f).context.frames) :
    withProtocol explicit f x s = (some o, s'.unframed explicit) := by
  cases explicit with
  | true => exact h
  | false =>
    have room : s.context.exceeded? = none := room.resolve_left nofun
    rw [withProtocol_of_pushed room]
    refine ensuring_of_ended h ?_
    rw [popFrame_run frames, State.unframed, frames]
    rfl

theorem withProtocol_ended (hx : Keeps Balance x) {explicit : Bool} {f : Frame}
    (room : s.Admits explicit) (h : x (s.framed explicit f) = (some o, s')) :
    withProtocol explicit f x s = (some o, s'.unframed explicit) :=
  withProtocol_unframed room h ((hx.of_ended h).frames rfl)

theorem withProtocol_none {explicit : Bool} {f : Frame} (room : s.Admits explicit)
    (h : x (s.framed explicit f) = (none, s')) : withProtocol explicit f x s = (none, s') := by
  cases explicit with
  | true => exact h
  | false =>
    rw [withProtocol_of_pushed (room.resolve_left nofun)]
    exact ensuring_of_none h

end Eval

namespace Body

variable {r : Reach} {b : Body} {c : Call} {block : Block} {s : State}

def announced (b : Body) (c : Call) (s : State) : State :=
  if s.context.settings.debug.execution then
    { s with trace := .logged (.executing b.scope (b.shownName c.name)) :: s.trace }
  else s

theorem announce_run (b : Body) (c : Call) (s : State) :
    b.announce c s = (some (.ok ()), b.announced c s) := by
  rw [announce, announced, context_bind]
  split <;> rfl

@[simp] theorem announced_context (b : Body) (c : Call) (s : State) :
    (b.announced c s).context = s.context := by
  rw [announced]
  split <;> rfl

@[simp] theorem announced_store (b : Body) (c : Call) (s : State) :
    (b.announced c s).store = s.store := by
  rw [announced]
  split <;> rfl

theorem alike_announced (b : Body) (c : Call) (s : State) : s.Alike (b.announced c s) := by
  rw [announced]
  split <;> exact ⟨rfl, rfl, rfl⟩

/-- The entry under which a body runs a sequence. -/
def entry (label : String) (seq : Sequence) (s : State) : Entry := ⟨label, seq.file, s.context.line⟩

/-- The state in which the engine of a body is called. -/
def opened (b : Body) (c : Call) (block : Block) (label : String) (seq : Sequence) (s : State) :
    State :=
  (s.framed seq.explicit (b.frame c block)).entered (entry label seq s)

theorem before_opened (b : Body) (c : Call) (block : Block) (label : String) (seq : Sequence)
    (s : State) : s.Before (b.opened c block label seq s) :=
  (s.before_framed seq.explicit _).trans (State.before_move _ _ _ _)

theorem alike_opened (b : Body) (c : Call) (block : Block) (label : String) (seq : Sequence)
    (s : State) : s.Alike (b.opened c block label seq s) :=
  (s.alike_framed seq.explicit _).trans (State.alike_move _ _ _ _)

theorem opened_depth (b : Body) (c : Call) (block : Block) (label : String) (seq : Sequence)
    (s : State) : (b.opened c block label seq s).context.frames.length =
      if seq.explicit then s.context.frames.length else s.context.frames.length + 1 := by
  unfold opened State.framed
  split <;> rfl

@[simp] theorem opened_backtrace (b : Body) (c : Call) (block : Block) (label : String)
    (seq : Sequence) (s : State) : (b.opened c block label seq s).context.backtrace =
      entry label seq s :: s.context.backtrace :=
  congrArg (entry label seq s :: ·) (s.framed_backtrace seq.explicit _)

def invocation (label : String) (c : Call) (block : Block) : Invocation :=
  ⟨{ c with name := label }, c.via, none, block⟩

/-- How an invocation ends, and the state that it leaves. -/
inductive Course (r : Reach) (b : Body) (c : Call) (block : Block) (s : State) :
    Outcome Value → State → Prop where
  | unready {f : Failure} {s' : State}
      (ready : b.sequence r (b.announced c s) = (some (.failed f), s')) :
      Course r b c block s (.failed f) s'
  | broken {t : String} {s' : State}
      (ready : b.sequence r (b.announced c s) = (some (.panicked t), s')) :
      Course r b c block s (.panicked t) s'
  | refused {seq : Sequence} {s₁ : State} {max : Nat}
      (ready : b.sequence r (b.announced c s) = (some (.ok seq), s₁))
      (generic : seq.explicit = false) (limit : s₁.context.exceeded? = some max) :
      Course r b c block s
        (.failed (Failure.attach s₁.context.backtrace ⟨.stackOverflow max, none⟩))
        (s₁.move .frameRefused s₁.context.backtrace s₁.context.frames)
  | invalid {seq : Sequence} {s₁ : State}
      (ready : b.sequence r (b.announced c s) = (some (.ok seq), s₁))
      (room : s₁.Admits seq.explicit) (kind : b.scope.label? = none) :
      Course r b c block s (.panicked ("invalid body method type: " ++ b.scope.text))
        ((s₁.framed seq.explicit (b.frame c block)).unframed seq.explicit)
  | interpreted {seq : Sequence} {s₁ s₂ : State} {label : String} {o : Outcome Value}
      (ready : b.sequence r (b.announced c s) = (some (.ok seq), s₁))
      (room : s₁.Admits seq.explicit) (kind : b.scope.label? = some label)
      (run : r.interpret seq.handle (invocation label c block) seq
        (b.opened c block label seq s₁) = (some o, s₂)) :
      Course r b c block s
        (o.mapFailure (·.attach (entry label seq s₁ :: s₁.context.backtrace)))
        (s₂.closed seq.explicit)

theorem dispatch_invalid (kind : b.scope.label? = none) (r : Reach) (c : Call) (seq : Sequence)
    (block : Block) (s : State) : b.dispatch r c seq block s =
      (some (.panicked ("invalid body method type: " ++ b.scope.text)), s) := by
  rw [dispatch, kind]
  rfl

theorem dispatch_run {label : String} (kind : b.scope.label? = some label) (r : Reach) (c : Call)
    (seq : Sequence) (block : Block) (s : State) : b.dispatch r c seq block s =
      withBacktrace (entry label seq s)
        (r.interpret seq.handle (invocation label c block) seq) s := by
  rw [dispatch, kind]
  rfl

@[simp] theorem entry_framed (label : String) (seq : Sequence) (s : State) (explicit : Bool)
    (f : Frame) : entry label seq (s.framed explicit f) = entry label seq s := by
  unfold State.framed
  split <;> rfl

/-! ### Behind the frame -/

section

variable {seq : Sequence} {label : String} {s₁ : State}

theorem enter_invalid (hr : r.Keeps Balance) (room : s.Admits seq.explicit)
    (kind : b.scope.label? = none) :
    withProtocol seq.explicit (b.frame c block) (b.dispatch r c seq block) s =
      (some (.panicked ("invalid body method type: " ++ b.scope.text)),
        (s.framed seq.explicit (b.frame c block)).unframed seq.explicit) :=
  withProtocol_ended (dispatch_keeps Balance.guarded hr b c seq block) room
    (dispatch_invalid kind _ _ _ _ _)

theorem enter_ended (hr : r.Keeps Balance) (room : s.Admits seq.explicit)
    (kind : b.scope.label? = some label) {o : Outcome Value}
    (run : r.interpret seq.handle (invocation label c block) seq
      (b.opened c block label seq s) = (some o, s₁)) :
    withProtocol seq.explicit (b.frame c block) (b.dispatch r c seq block) s =
      (some (o.mapFailure (·.attach (entry label seq s :: s.context.backtrace))),
        s₁.closed seq.explicit) := by
  have dispatched := dispatch_run kind r c seq block (s.framed seq.explicit (b.frame c block))
  rw [entry_framed, withBacktrace_ended (hr.interpret _ _ _) run, State.framed_backtrace]
    at dispatched
  exact withProtocol_ended (dispatch_keeps Balance.guarded hr b c seq block) room dispatched

theorem enter_cut (room : s.Admits seq.explicit) (kind : b.scope.label? = some label)
    (run : r.interpret seq.handle (invocation label c block) seq
      (b.opened c block label seq s) = (none, s₁)) :
    withProtocol seq.explicit (b.frame c block) (b.dispatch r c seq block) s = (none, s₁) := by
  have dispatched := dispatch_run kind r c seq block (s.framed seq.explicit (b.frame c block))
  rw [entry_framed, withBacktrace_of_none run] at dispatched
  exact withProtocol_none room dispatched

end

theorem Course.run (hr : r.Keeps Balance) {o : Outcome Value} {s' : State}
    (h : Course r b c block s o s') : b.invoke r c block s = (some o, s') := by
  rw [invoke, bind_of_ok (announce_run b c s)]
  cases h with
  | unready ready => exact bind_of_failed ready
  | broken ready => exact bind_of_panicked ready
  | refused ready generic limit =>
    rw [bind_of_ok ready, generic]
    exact withProtocol_refused limit
  | invalid ready room kind =>
    rw [bind_of_ok ready]
    exact enter_invalid hr room kind
  | interpreted ready room kind run =>
    rw [bind_of_ok ready]
    exact enter_ended hr room kind run

/-- An invocation whose interpretation is cut off is cut off there. -/
theorem invoke_cut {seq : Sequence} {s₁ s₂ : State} {label : String}
    (ready : b.sequence r (b.announced c s) = (some (.ok seq), s₁)) (room : s₁.Admits seq.explicit)
    (kind : b.scope.label? = some label)
    (run : r.interpret seq.handle (invocation label c block) seq
      (b.opened c block label seq s₁) = (none, s₂)) : b.invoke r c block s = (none, s₂) := by
  rw [invoke, bind_of_ok (announce_run b c s), bind_of_ok ready]
  exact enter_cut room kind run

/-- The courses are all there are, unless the depth of calls is not enough. -/
theorem course_or_cut (r : Reach) (b : Body) (c : Call) (block : Block) (s : State) :
    (∃ o s', Course r b c block s o s') ∨ (b.invoke r c block s).1 = none := by
  rcases ready : b.sequence r (b.announced c s) with ⟨_ | seq | f | t, s₁⟩
  · rw [invoke, bind_of_ok (announce_run b c s)]
    exact .inr (congrArg Prod.fst (bind_of_none ready))
  · rcases s₁.admits_or_refuses seq.explicit with room | ⟨generic, max, limit⟩
    · cases kind : b.scope.label? with
      | none => exact .inl ⟨_, _, .invalid ready room kind⟩
      | some label =>
        rcases run : r.interpret seq.handle (invocation label c block) seq
          (b.opened c block label seq s₁) with ⟨_ | o, s₂⟩
        · exact .inr (congrArg Prod.fst (invoke_cut ready room kind run))
        · exact .inl ⟨_, _, .interpreted ready room kind run⟩
    · exact .inl ⟨_, _, .refused ready generic limit⟩
  · exact .inl ⟨_, _, .unready ready⟩
  · exact .inl ⟨_, _, .broken ready⟩

theorem invoke_ended_iff (hr : r.Keeps Balance) {o : Outcome Value} {s' : State} :
    b.invoke r c block s = (some o, s') ↔ Course r b c block s o s' := by
  refine ⟨fun h => ?_, Course.run hr⟩
  rcases course_or_cut r b c block s with ⟨o', s₁, course⟩ | cut
  · have same := (course.run hr).symm.trans h
    cases same
    exact course
  · rw [h] at cut
    cases cut

end Body

/-! ## Definitions -/

namespace Interpreter

def newBody (st : Store) (scope : Scope) (parent : Option Module) (handle : Handle) : Body :=
  ⟨st.nextBody, scope, Module.nested parent st.nextModule scope.name scope.kind.moduleKind,
    handle.downgrade⟩

def defining (st : Store) (engine : Nat) (b : Body) : Store :=
  { st with nextModule := st.nextModule + 1, nextBody := st.nextBody + 1 }.define engine b.scope b

variable {engine : Nat} {scope : Scope} {parent : Option Module} {handle : Handle} {s : State}

theorem bodyFor_known {b : Body} (found : s.store.definition? engine scope = some b) :
    bodyFor engine scope parent handle s = (some (.ok b), s) := by
  rw [bodyFor, store_bind, found]
  rfl

theorem bodyFor_absent (absent : s.store.definition? engine scope = none) :
    bodyFor engine scope parent handle s =
      (some (.ok (newBody s.store scope parent handle)),
        { s with
          store := defining s.store engine (newBody s.store scope parent handle)
          trace :=
            .logged (.definedBody (newBody s.store scope parent handle).implementationClass) ::
              s.trace }) := by
  rw [bodyFor, store_bind, absent]
  rfl

/-- An engine that comes to a definition has a body for it then, made or found behind the back of the
context. -/
theorem bodyFor_run (engine : Nat) (scope : Scope) (parent : Option Module) (handle : Handle)
    (s : State) : ∃ b s', bodyFor engine scope parent handle s = (some (.ok b), s') ∧
      s'.store.definition? engine scope = some b ∧ s'.context = s.context ∧
      s'.store.running = s.store.running := by
  cases found : s.store.definition? engine scope with
  | some b => exact ⟨b, s, bodyFor_known found, found, rfl, rfl⟩
  | none =>
    refine ⟨_, _, bodyFor_absent found, ?_, rfl, rfl⟩
    rw [defining, Store.definition?_define, if_pos ⟨rfl, rfl⟩]

theorem define_run {r : Reach} {i : Invocation} {seq : Sequence} {b : Body} {s₁ : State}
    (known : bodyFor engine scope i.call.receiver.module? seq.handle
      { s with trace := .defining engine scope :: s.trace } = (some (.ok b), s₁)) :
    define r engine i seq scope s = b.invoke r (definitionCall b) .absent s₁ := bind_of_ok known

end Interpreter

/-! ## Calls of engines -/

namespace State

def held (s : State) (engine : Nat) : State :=
  { s with store := { s.store with running := engine :: s.store.running } }

def released (s : State) (engine : Nat) : State :=
  { s with store := { s.store with running := s.store.running.erase engine } }

end State

/-- Whether a call through a handle finds an engine. -/
def Store.reaches (st : Store) (h : Handle) : Bool := h.owning || st.alive h.engine

theorem Store.reaches_of_running {st : Store} {h : Handle} (called : h.engine ∈ st.running) :
    st.reaches h = true := by
  unfold reaches alive
  simp [called]

namespace Env

variable {source : Scope → Nat → Store → Lowering} {depth : Nat} {h : Handle} {i : Invocation}
  {seq : Sequence} {s s' : State}

/-- Whatever the engines are, a handle without an engine runs nothing. -/
theorem interpretAt_gone {env : Env} (gone : s.store.reaches h = false) :
    env.interpretAt (depth + 1) h i seq s =
      (some (.failed (Failure.attach s.context.backtrace ⟨.engineDropped, none⟩)), s) := by
  rw [interpretAt, store_bind, if_neg]
  · rfl
  · rw [← Store.reaches, gone]
    exact Bool.false_ne_true

theorem interpretAt_runs {env : Env} (reached : s.store.reaches h = true) :
    env.interpretAt (depth + 1) h i seq s =
      holding h.engine (env.engine (env.reach depth) h.engine i seq) s := by
  rw [interpretAt, store_bind]
  exact congrFun (if_pos reached) s

theorem interpretAt_reached (reached : s.store.reaches h = true) :
    (interpreting source).interpretAt (depth + 1) h i seq s =
      holding h.engine
        (Interpreter.interpret ((interpreting source).reach depth) h.engine i seq) s :=
  interpretAt_runs reached

theorem interpretAt_ended {o : Outcome Value} (reached : s.store.reaches h = true)
    (run : Interpreter.interpret ((interpreting source).reach depth) h.engine i seq
      (s.held h.engine) = (some o, s')) :
    (interpreting source).interpretAt (depth + 1) h i seq s =
      (some o, s'.released h.engine) :=
  (interpretAt_reached reached).trans (holding_of_ended run)

theorem interpretAt_cases {o : Outcome Value}
    (ended : (interpreting source).interpretAt (depth + 1) h i seq s = (some o, s')) :
    (s.store.reaches h = false ∧ s' = s ∧
      o = .failed (Failure.attach s.context.backtrace ⟨.engineDropped, none⟩)) ∨
    (s.store.reaches h = true ∧ ∃ s₁, s' = s₁.released h.engine ∧
      Interpreter.interpret ((interpreting source).reach depth) h.engine i seq (s.held h.engine) =
        (some o, s₁)) := by
  cases reached : s.store.reaches h with
  | false =>
    rw [interpretAt_gone reached] at ended
    cases ended
    exact .inl ⟨rfl, rfl, rfl⟩
  | true =>
    rcases run : Interpreter.interpret ((interpreting source).reach depth) h.engine i seq
      (s.held h.engine) with ⟨_ | o', s₁⟩
    · rw [interpretAt_reached reached, holding_of_none run] at ended
      cases ended
    · rw [interpretAt_ended reached run] at ended
      cases ended
      exact .inr ⟨rfl, s₁, rfl, rfl⟩

end Env

end BodyCall
