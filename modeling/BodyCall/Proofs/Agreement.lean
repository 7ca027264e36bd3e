import BodyCall.Proofs.Depth
import BodyCall.Proofs.Sound

/-!
# Runs agree with plain evaluation

A run of a body of a program, with its guards, its frames and whatever is cached, ends as the plain
evaluation does, on the same line and with the same modules. What is cached stays sound.
-/

namespace BodyCall

open Eval

/-- What plain evaluation sees of a state and of one of its engines. -/
def World.of (engine : Nat) (s : State) : World :=
  ⟨s.context.line, (s.store.defined engine).mapValues (·.implementationClass), s.store.nextModule⟩

theorem World.of_eq {engine : Nat} {s s' : State} (line : s'.context.line = s.context.line)
    (definitions : s'.store.definitions = s.store.definitions)
    (nextModule : s'.store.nextModule = s.store.nextModule) :
    World.of engine s' = World.of engine s := by
  rw [World.of, World.of, line, Store.defined, definitions, nextModule]
  rfl

theorem World.of_alike (engine : Nat) {s s' : State} (h : s.Alike s') :
    World.of engine s' = World.of engine s :=
  of_eq h.line (congrArg Store.definitions h.store) (congrArg Store.nextModule h.store)

theorem exceeded_eq (c : Context) : c.exceeded? = reachedLimit c.settings.maxDepth c.frames.length :=
  rfl

theorem ending_attach (stack : Backtrace) (f : Failure) :
    Outcome.ending (.failed (Failure.attach stack f)) = .failed f.cause :=
  congrArg Ending.failed (Failure.attach_cause stack f)

theorem ending_mapFailure (stack : Backtrace) (o : Outcome Value) :
    (o.mapFailure (·.attach stack)).ending = o.ending := by
  cases o with
  | failed f => exact ending_attach stack f
  | _ => rfl

/-! ## Frame checks -/

theorem imbalance_of_firstFrame {instrs : List Instr} {index index' : Nat}
    (h : firstFrame? index instrs = none) : imbalance? index' 0 instrs = none := by
  induction instrs generalizing index index' with
  | nil => rfl
  | cons instr rest ih =>
    unfold firstFrame? at h
    cases instr <;> simp [Instr.isFrame] at h <;> exact ih h

/-- The source counts the frames of the code and finds no fault. -/
def Lowered.Balanced (l : Lowered) : Prop := l.frameFault? = none

/-- Instructions that are accepted pop no frame that they have not pushed. -/
theorem Lowered.Balanced.imbalance {l : Lowered} (h : l.Balanced) :
    imbalance? 0 0 l.instrs = none := by
  unfold Balanced frameFault? at h
  split at h
  · exact h
  · exact imbalance_of_firstFrame h

theorem Lowered.Balanced.of_checked {l l' : Lowered} (h : l.checked = .ok l') : l'.Balanced := by
  have same := checked_ok h
  subst same
  unfold checked at h
  split at h
  · cases h
  · assumption

/-- What a finished run has left, of the caches and of the engines that are held. -/
structure Settled (P : Program) (owners : Owners) (s s' : State) : Prop where
  sound : ∃ owners', owners.Extends owners' ∧ Sound P owners' s'.store
  running : s'.store.running = s.store.running
  settings : s'.context.settings = s.context.settings

namespace Settled

variable {P : Program} {owners owners₁ : Owners} {s s₁ s' : State}

theorem of_same (sound : Sound P owners s'.store) (running : s'.store.running = s.store.running)
    (settings : s'.context.settings = s.context.settings) : Settled P owners s s' :=
  ⟨⟨owners, .refl owners, sound⟩, running, settings⟩

theorem after (h : Settled P owners₁ s₁ s') (kept : owners.Extends owners₁)
    (running : s₁.store.running = s.store.running)
    (settings : s₁.context.settings = s.context.settings) : Settled P owners s s' := by
  obtain ⟨⟨owners', more, sound⟩, running', settings'⟩ := h
  exact ⟨⟨owners', kept.trans more, sound⟩, running'.trans running, settings'.trans settings⟩

theorem before_alike (h : Settled P owners s s₁) (h' : s₁.Alike s') : Settled P owners s s' := by
  refine ⟨?_, ?_, h'.settings.trans h.settings⟩
  · rw [h'.store]
    exact h.sound
  · rw [h'.store]
    exact h.running

end Settled

/-- Within a depth of calls a body has a run to its end. If its engine is there, the run ends as
plain evaluation does. -/
def Agrees (P : Program) (depth : Nat) (b : Body) : Prop :=
  ∀ (owners : Owners) (s : State), Sound P owners s.store → owners b.id = some b →
    ∀ (c : Call) (block : Block), ∃ o s',
      b.invoke ((Env.interpreting P.source).reach depth) c block s = (some o, s') ∧
      Settled P owners s s' ∧
      (s.store.reaches b.handle = true →
        (o.ending, World.of b.handle.engine s') =
          P.evaluate s.context.settings.maxDepth b.scope c.receiver s.context.frames.length
            (World.of b.handle.engine s))

namespace Interpreter

variable {P : Program} {owners : Owners} {engine depth : Nat} {i : Invocation} {seq : Sequence}
  {s : State}

/-- The body that an engine has for a scope once it has come to its definition. -/
structure Defined (P : Program) (owners : Owners) (engine : Nat) (scope : Scope)
    (parent : Option Module) (s : State) (b : Body) (s' : State) : Prop where
  sound : ∃ owners', owners.Extends owners' ∧ Sound P owners' s'.store ∧ owners' b.id = some b
  same : b.scope = scope
  handle : b.handle = ⟨engine, false⟩
  context : s'.context = s.context
  running : s'.store.running = s.store.running
  module : (World.of engine s).moduleFor scope parent = (b.implementationClass, World.of engine s')

theorem world_of_defining (s : State) (b : Body) (trace : List Event) :
    World.of engine { s with store := defining s.store engine b, trace } =
      { World.of engine s with
        modules := (World.of engine s).modules.set b.scope.id b.implementationClass
        nextModule := s.store.nextModule + 1 } := by
  have table : ((defining s.store engine b).defined engine).mapValues (·.implementationClass) =
      (World.of engine s).modules.set b.scope.id b.implementationClass := by
    rw [defining, Store.defined_define, if_pos rfl, Table.mapValues_set]
    rfl
  exact congrArg (World.mk s.context.line · (s.store.nextModule + 1)) table

theorem bodyFor_defined (sound : Sound P owners s.store) {scope : Scope} (part : P.has scope)
    (parent : Option Module) {handle : Handle} (here : handle.engine = engine) :
    ∃ b s', bodyFor engine scope parent handle s = (some (.ok b), s') ∧
      Defined P owners engine scope parent s b s' := by
  have look : (World.of engine s).modules.get? scope.id =
      (s.store.definition? engine scope).map (·.implementationClass) :=
    Table.get?_mapValues _ _ _
  cases found : s.store.definition? engine scope with
  | some b =>
    obtain ⟨owned, same, handle'⟩ := sound.defined found
    have scope_eq := P.identified (sound.owned owned).2.2 part same
    refine ⟨b, s, bodyFor_known found, ⟨owners, .refl owners, sound, owned⟩, scope_eq, handle', rfl,
      rfl, ?_⟩
    rw [World.moduleFor, look, found]
    rfl
  | none =>
    let b := newBody s.store scope parent handle
    obtain ⟨kept, owned, made⟩ := @Sound.create P owners s.store b sound rfl part
    have handle' : b.handle = ⟨engine, false⟩ := by
      show handle.downgrade = _
      rw [Handle.downgrade, here]
    have opened : Sound P (owners.insert b)
        { s.store with nextModule := s.store.nextModule + 1, nextBody := s.store.nextBody + 1 } :=
      made.of_same rfl rfl (Nat.le_refl _)
    refine ⟨b, _, bodyFor_absent found,
      ⟨owners.insert b, kept, opened.define owned handle', owned⟩, rfl, handle', rfl, rfl, ?_⟩
    rw [World.moduleFor, look, found]
    exact congrArg (b.implementationClass, ·) (world_of_defining s b _).symm

/-- A definition runs its body as plain evaluation does, in the module of its scope. -/
theorem define_agrees (agree : ∀ b, P.height b.scope < depth → Agrees P depth b)
    (here : seq.handle.engine = engine) {scope : Scope} (part : P.has scope)
    (low : P.height scope < depth) (sound : Sound P owners s.store)
    (held : engine ∈ s.store.running) :
    ∃ o s', define ((Env.interpreting P.source).reach depth) engine i seq scope s = (some o, s') ∧
      Settled P owners s s' ∧ s'.context.frames = s.context.frames ∧
      (o.ending, World.of engine s') =
        let (m, w) := (World.of engine s).moduleFor scope i.call.receiver.module?
        P.evaluate s.context.settings.maxDepth scope (.object m) s.context.frames.length w := by
  let s₀ : State := { s with trace := .defining engine scope :: s.trace }
  obtain ⟨b, s₁, known, ⟨owners₁, kept, sound₁, owned⟩, rfl, handle, context, running, module⟩ :=
    bodyFor_defined (s := s₀) sound part i.call.receiver.module? here
  obtain ⟨o, s₂, invoked, settled, plain⟩ :=
    agree b low owners₁ s₁ sound₁ owned (definitionCall b) .absent
  have defined := (define_run known).trans invoked
  have balance :=
    (define_keeps Balance.guarded (Balance.reach P.source depth) engine i seq b.scope).of_ended
      defined
  refine ⟨o, s₂, defined, settled.after kept running (congrArg Context.settings context),
    balance.frames rfl, ?_⟩
  -- the body does not own its engine, which is alive because it runs this very sequence
  have live : s₁.store.reaches b.handle = true := by
    rw [handle]
    exact Store.reaches_of_running (running ▸ held)
  have plain := plain live
  rw [context, handle] at plain
  have module : (World.of engine s).moduleFor b.scope i.call.receiver.module? =
      (b.implementationClass, World.of engine s₁) := module
  rw [module]
  exact plain

theorem run_agrees (agree : ∀ b, P.height b.scope < depth → Agrees P depth b)
    (here : seq.handle.engine = engine) {instrs : List Instr}
    (inside : ∀ inner, .define inner ∈ instrs → P.has inner ∧ P.height inner < depth)
    {index : Nat} {pushed base : List Frame}
    (balanced : imbalance? index pushed.length instrs = none)
    (frames : s.context.frames = pushed ++ base) (sound : Sound P owners s.store)
    (held : engine ∈ s.store.running) (last : Value) :
    ∃ o own s', run ((Env.interpreting P.source).reach depth) engine i seq pushed.length last instrs
        s = (some (.ok (o, own)), s') ∧ Settled P owners s s' ∧
      (o.ending, World.of engine s') =
        follow s.context.settings.maxDepth i.call.receiver instrs
          (fun inner _ => P.evaluate s.context.settings.maxDepth inner) s.context.frames.length last
          (World.of engine s) := by
  -- on the instructions. `pushed` is what the sequence has on the stack, which by the frame check
  -- is enough for all pops to come; the caches stay sound, and owners are only added.
  induction instrs generalizing s owners pushed last index with
  | nil => exact ⟨.ok last, pushed.length, s, rfl, .of_same sound rfl rfl, rfl⟩
  | cons instr rest ih =>
    have later : ∀ inner, .define inner ∈ rest → P.has inner ∧ P.height inner < depth :=
      fun inner h => inside inner (List.mem_cons_of_mem instr h)
    cases instr with
    | line n =>
      let s₁ : State := { s with context := { s.context with line := n } }
      obtain ⟨o, own, s', ran, settled, same⟩ := ih (s := s₁) later balanced frames sound held last
      refine ⟨o, own, s', (run_of_ok rfl rest).trans ran, settled.after (.refl owners) rfl rfl, ?_⟩
      rw [same, follow]
      rfl
    | put v =>
      obtain ⟨o, own, s', ran, settled, same⟩ := ih later balanced frames sound held v
      exact ⟨o, own, s', (run_of_ok rfl rest).trans ran, settled, same⟩
    | putSelf =>
      obtain ⟨o, own, s', ran, settled, same⟩ :=
        ih later balanced frames sound held i.call.receiver
      exact ⟨o, own, s', (run_of_ok rfl rest).trans ran, settled, same⟩
    | raise message =>
      refine ⟨_, _, s, run_of_failed (execute_raise message) rest, .of_same sound rfl rfl, ?_⟩
      rw [ending_attach, follow]
    | pushFrame =>
      cases room : s.context.exceeded? with
      | some max =>
        let s₁ := s.move .frameRefused s.context.backtrace s.context.frames
        have settled : Settled P owners s s₁ := .of_same sound rfl rfl
        refine ⟨_, _, s₁, run_of_failed (bind_of_failed (pushFrame_refused room)) rest, settled, ?_⟩
        rw [exceeded_eq] at room
        rw [ending_attach, follow, room]
        rfl
      | none =>
        let s₁ := s.move .framePushed s.context.backtrace (ownFrame i :: s.context.frames)
        have frames₁ : s₁.context.frames = (ownFrame i :: pushed) ++ base :=
          congrArg (ownFrame i :: ·) frames
        obtain ⟨o, own, s', ran, settled, same⟩ :=
          ih (s := s₁) later balanced frames₁ sound held last
        refine ⟨o, own, s', (run_of_ok (bind_of_ok (pushFrame_run room)) rest).trans ran,
          settled.after (.refl owners) rfl rfl, ?_⟩
        rw [exceeded_eq] at room
        rw [same, follow, room]
        rfl
    | popFrame =>
      cases pushed with
      | nil => cases balanced
      | cons f others =>
        let s₁ := s.move .framePopped s.context.backtrace (others ++ base)
        obtain ⟨o, own, s', ran, settled, same⟩ := ih (s := s₁) later balanced rfl sound held last
        have popped : execute ((Env.interpreting P.source).reach depth) engine i seq
            (f :: others).length last .popFrame s = (some (.ok (others.length, last)), s₁) :=
          bind_of_ok (popFrame_run frames)
        refine ⟨o, own, s', (run_of_ok popped rest).trans ran,
          settled.after (.refl owners) rfl rfl, ?_⟩
        rw [same, follow, frames]
        rfl
    | define scope =>
      obtain ⟨part, low⟩ := inside scope List.mem_cons_self
      obtain ⟨o, s₁, defined, settled, stack, same⟩ :=
        define_agrees (i := i) agree here part low sound held
      rw [follow]
      simp only [← same]
      cases o with
      | ok v =>
        obtain ⟨⟨owners₁, more, sound₁⟩, running, settings⟩ := settled
        have held₁ : engine ∈ s₁.store.running := running ▸ held
        obtain ⟨o, own, s', ran, settled, same⟩ :=
          ih later balanced (stack.trans frames) sound₁ held₁ v
        refine ⟨o, own, s', (run_of_ok (bind_of_ok defined) rest).trans ran,
          settled.after more running settings, ?_⟩
        rw [same, settings, stack]
        rfl
      | failed f =>
        exact ⟨_, _, s₁, run_of_failed (bind_of_failed defined) rest, settled, rfl⟩
      | panicked t =>
        exact ⟨_, _, s₁, run_of_panicked (bind_of_panicked defined) rest, settled, rfl⟩

end Interpreter

namespace Program

variable {P : Program} {owners : Owners} {depth : Nat} {s : State}

theorem interpretAt_agrees (agree : ∀ b, P.height b.scope < depth → Agrees P depth b)
    {scope : Scope} (part : P.has scope) (low : P.height scope ≤ depth) {seq : Sequence}
    (prepares : P.Prepares scope seq) (sound : Sound P owners s.store) (i : Invocation) :
    ∃ o s', (Env.interpreting P.source).interpretAt (depth + 1) seq.handle i seq s =
        (some o, s') ∧ Settled P owners s s' ∧
      (s.store.reaches seq.handle = true →
        (o.ending, World.of seq.handle.engine s') =
          follow s.context.settings.maxDepth i.call.receiver (P.code scope).instrs
            (fun inner _ => P.evaluate s.context.settings.maxDepth inner) s.context.frames.length
            .nil (World.of seq.handle.engine s)) := by
  cases reached : s.store.reaches seq.handle with
  | false => exact ⟨_, s, Env.interpretAt_gone reached, .of_same sound rfl rfl, nofun⟩
  | true =>
    let s₁ := s.held seq.handle.engine
    have inside : ∀ inner, .define inner ∈ seq.instrs → P.has inner ∧ P.height inner < depth := by
      intro inner among
      rw [prepares.instrs] at among
      exact ⟨P.closed part among, Nat.lt_of_lt_of_le (P.nested among) low⟩
    have balanced : imbalance? 0 ([] : List Frame).length seq.instrs = none := by
      rw [prepares.instrs]
      exact (Lowered.Balanced.of_checked prepares.accepted).imbalance
    have sound₁ : Sound P owners s₁.store := sound.of_same rfl rfl (Nat.le_refl _)
    obtain ⟨o, own, s₂, ran, ⟨sound₂, running, settings⟩, same⟩ :=
      Interpreter.run_agrees (s := s₁) (i := i) agree rfl inside balanced rfl sound₁
        List.mem_cons_self .nil
    obtain ⟨s₃, ended, -, before, store, line⟩ :=
      Interpreter.interpret_of_run (Balance.reach P.source depth) ran
    refine ⟨o, _, Env.interpretAt_ended reached ended, ⟨?_, ?_, ?_⟩, fun _ => ?_⟩
    · obtain ⟨owners', more, sound'⟩ := sound₂
      rw [← store] at sound'
      exact ⟨owners', more, sound'.of_same rfl rfl (Nat.le_refl _)⟩
    · show s₃.store.running.erase seq.handle.engine = s.store.running
      rw [store, running]
      show (seq.handle.engine :: s.store.running).erase seq.handle.engine = s.store.running
      simp
    · exact before.settings.trans settings
    · have world : World.of seq.handle.engine s₃ = World.of seq.handle.engine s₂ :=
        World.of_eq line (congrArg Store.definitions store) (congrArg Store.nextModule store)
      show (o.ending, World.of seq.handle.engine s₃) = _
      rw [world, same, follow_congr prepares.instrs]
      rfl

/-- What is known once a body of the program is ready for a call. -/
structure Readied (P : Program) (owners : Owners) (depth : Nat) (b : Body) (c : Call) (s : State)
    (seq : Sequence) (s' : State) : Prop where
  run : b.sequence ((Env.interpreting P.source).reach (depth + 1)) (b.announced c s) =
    (some (.ok seq), s')
  prepares : P.Prepares b.scope seq
  handle : seq.handle = b.handle
  sound : Sound P owners s'.store
  context : s'.context = s.context
  running : s'.store.running = s.store.running
  world : World.of b.handle.engine s' = World.of b.handle.engine s
  live : s.store.reaches b.handle = true → s'.store.reaches b.handle = true

theorem readied (sound : Sound P owners s.store) {b : Body} (owned : owners b.id = some b)
    (accepted : (P.code b.scope).checked = .ok (P.code b.scope)) (depth : Nat) (c : Call) :
    ∃ seq s', Readied P owners depth b c s seq s' := by
  have store := b.announced_store c s
  obtain ⟨seq, s', run, prepares, handle, sound', still⟩ :=
    readyAt_ready (store ▸ sound) owned accepted depth (b.announced c s).context.settings
  rw [← Body.sequence_run] at run
  refine ⟨seq, s', run, prepares, handle, sound', still.context.trans (b.announced_context c s),
    still.running.trans (congrArg Store.running store), ?_, fun live => ?_⟩
  · rw [World.of_eq (congrArg _ still.context) still.definitions still.nextModule]
    exact World.of_alike _ (b.alike_announced c s)
  · rw [← store] at live
    exact Store.reaches_mono still.toBefore still.definitions still.running live

theorem agrees_refused {reason : String} {b : Body}
    (refused : (P.code b.scope).checked = .error reason) : Agrees P (depth + 1) b := by
  intro owners s sound owned c block
  have told : Sound P owners (b.announced c s).store := b.announced_store c s ▸ sound
  have ready := readyAt_refused told owned refused depth (b.announced c s).context.settings
  rw [← Body.sequence_run] at ready
  have same := b.alike_announced c s
  refine ⟨_, _, (Body.Course.unready ready).run (Balance.reach P.source (depth + 1)),
    .of_same ?_ ?_ ?_, fun _ => ?_⟩
  · exact told.of_same rfl rfl (Nat.le_refl _)
  · show (b.announced c s).store.running = s.store.running
    rw [same.store]
  · exact same.settings
  · rw [evaluate_refused refused, ← World.of_alike b.handle.engine same]
    rfl

/-- A body that is accepted checks the frame limit before its kind, as plain evaluation does. -/
theorem agrees_accepted (agree : ∀ b, P.height b.scope < depth → Agrees P depth b) {b : Body}
    (low : P.height b.scope ≤ depth)
    (accepted : (P.code b.scope).checked = .ok (P.code b.scope)) : Agrees P (depth + 1) b := by
  intro owners s sound owned c block
  have balanced := Balance.reach P.source (depth + 1)
  have part := (sound.owned owned).2.2
  obtain ⟨seq, s₁, ready⟩ := readied sound owned accepted depth c
  have context := ready.context
  have prepares := ready.prepares
  have settled : Settled P owners s s₁ :=
    .of_same ready.sound ready.running (congrArg Context.settings context)
  rcases s₁.admits_or_refuses seq.explicit with room | ⟨generic, max, limit⟩
  · have room' : (P.code b.scope).explicit = true ∨
        reachedLimit s.context.settings.maxDepth s.context.frames.length = none := by
      rw [← prepares.explicit, ← exceeded_eq, ← context]
      exact room
    have isBody := b.scope.label?_isSome
    cases kind : b.scope.label? with
    | none =>
      rw [kind] at isBody
      have same := (s₁.alike_framed seq.explicit (b.frame c block)).trans
        (State.alike_unframed _ seq.explicit)
      refine ⟨_, _, (Body.Course.invalid ready.run room kind).run balanced,
        settled.before_alike same, fun _ => ?_⟩
      rw [World.of_alike _ same, ready.world, evaluate_invalid accepted room' isBody.symm]
      rfl
    | some label =>
      rw [kind] at isBody
      let s₂ := b.opened c block label seq s₁
      have opened : s₁.Alike s₂ := b.alike_opened c block label seq s₁
      have sound₂ : Sound P owners s₂.store := opened.store ▸ ready.sound
      obtain ⟨o, s₃, ran, settled₃, plain⟩ :=
        interpretAt_agrees agree part low prepares sound₂ (Body.invocation label c block)
      have closed := s₃.alike_closed seq.explicit
      have settled₃ : Settled P owners s s₃ :=
        settled₃.after (.refl owners) (by rw [opened.store, ready.running])
          (by rw [opened.settings, context])
      refine ⟨_, _, (Body.Course.interpreted ready.run room kind ran).run balanced,
        settled₃.before_alike closed, fun live => ?_⟩
      have live₂ : s₂.store.reaches seq.handle = true := by
        rw [opened.store, ready.handle]
        exact ready.live live
      have plain := plain live₂
      rw [ready.handle, World.of_alike _ opened, ready.world, opened.settings, context,
        Body.opened_depth, prepares.explicit, context] at plain
      rw [ending_mapFailure, World.of_alike _ closed, plain,
        evaluate_body accepted room' isBody.symm]
      rfl
  · have full : reachedLimit s.context.settings.maxDepth s.context.frames.length = some max := by
      rw [← exceeded_eq, ← context]
      exact limit
    have same := s₁.alike_move .frameRefused s₁.context.backtrace s₁.context.frames
    refine ⟨_, _, (Body.Course.refused ready.run generic limit).run balanced,
      settled.before_alike same, fun _ => ?_⟩
    rw [World.of_alike _ same, ready.world, ending_attach,
      evaluate_overflow accepted (prepares.explicit ▸ generic) full]

theorem agrees_succ (agree : ∀ b, P.height b.scope < depth → Agrees P depth b) {b : Body}
    (low : P.height b.scope ≤ depth) : Agrees P (depth + 1) b := by
  cases checked : (P.code b.scope).checked with
  | error reason => exact agrees_refused checked
  | ok l =>
    rw [Lowered.checked_ok checked] at checked
    exact agrees_accepted agree low checked

theorem agrees (b : Body) (low : P.height b.scope < depth) : Agrees P depth b := by
  induction depth generalizing b with
  | zero => exact absurd low (Nat.not_lt_zero _)
  | succ depth ih => exact agrees_succ ih (Nat.le_of_lt_succ low)

/-! ## Programs in use -/

/-- The stores that the use of a program leads to, with the methods made for its scopes. Methods are
made ready and invoked, and sequences of the program are run through their own handles, from any
context and with any end; in between, all but the caches may change. -/
inductive Reached (P : Program) : Store → List Body → Prop where
  | start {st : Store} (undefined : ∀ engine scope, st.definition? engine scope = none)
      (uninstalled : ∀ id, st.installed.get? id = none) : Reached P st []
  | method {st : Store} {methods : List Body} (reached : Reached P st methods) {scope : Scope}
      (part : P.has scope) (m : Module) (handle : Handle) :
      Reached P { st with nextBody := st.nextBody + 1 }
        (⟨st.nextBody, scope, m, handle⟩ :: methods)
  | elsewhere {st st' : Store} {methods : List Body} (reached : Reached P st methods)
      (definitions : st'.definitions = st.definitions) (installed : st'.installed = st.installed)
      (ids : st.nextBody ≤ st'.nextBody) : Reached P st' methods
  | ready {methods : List Body} {s s' : State} (reached : Reached P s.store methods) {b : Body}
      (known : b ∈ methods) {depth : Nat} {settings : Settings} {o : Outcome Sequence}
      (run : readyAt P.source depth b settings s = (some o, s')) : Reached P s'.store methods
  | invoked {methods : List Body} {s s' : State} (reached : Reached P s.store methods) {b : Body}
      (known : b ∈ methods) {depth : Nat} {c : Call} {block : Block} {o : Outcome Value}
      (run : b.invoke ((Env.interpreting P.source).reach depth) c block s = (some o, s')) :
      Reached P s'.store methods
  | interpreted {methods : List Body} {s s' : State} (reached : Reached P s.store methods)
      {scope : Scope} (part : P.has scope) {seq : Sequence} (prepares : P.Prepares scope seq)
      {depth : Nat} {i : Invocation} {o : Outcome Value}
      (run : (Env.interpreting P.source).interpretAt depth seq.handle i seq s = (some o, s')) :
      Reached P s'.store methods

theorem Reached.sound {st : Store} {methods : List Body} (reached : Reached P st methods) :
    ∃ owners, Sound P owners st ∧ ∀ b ∈ methods, owners b.id = some b := by
  induction reached with
  | start undefined uninstalled =>
    refine ⟨fun _ => none, ⟨nofun, fun found => ?_, fun found => ?_⟩, nofun⟩
    · rw [undefined] at found
      cases found
    · rw [uninstalled] at found
      cases found
  | @method st methods reached scope part m handle ih =>
    obtain ⟨owners, sound, known⟩ := ih
    let b : Body := ⟨st.nextBody, scope, m, handle⟩
    obtain ⟨kept, owned, made⟩ := @Sound.create P owners st b sound rfl part
    refine ⟨owners.insert b, made, fun b' among => ?_⟩
    rcases List.mem_cons.mp among with rfl | older
    · exact owned
    · exact kept _ _ (known b' older)
  | elsewhere reached definitions installed ids ih =>
    obtain ⟨owners, sound, known⟩ := ih
    exact ⟨owners, sound.of_same definitions installed ids, known⟩
  | @ready methods s s' reached b among depth settings o run ih =>
    obtain ⟨owners, sound, known⟩ := ih
    refine ⟨owners, ?_, known⟩
    cases depth with
    | zero => cases run
    | succ depth =>
      cases checked : (P.code b.scope).checked with
      | error reason =>
        rw [readyAt_refused sound (known b among) checked] at run
        cases run
        exact sound.of_same rfl rfl (Nat.le_refl _)
      | ok l =>
        rw [Lowered.checked_ok checked] at checked
        obtain ⟨seq, s₁, ready, -, -, sound₁, -⟩ :=
          readyAt_ready sound (known b among) checked depth settings
        rw [ready] at run
        cases run
        exact sound₁
  | @invoked methods s s' reached b among depth c block o run ih =>
    obtain ⟨owners, sound, known⟩ := ih
    -- the run had an end within its depth, so it has the same one within a depth that is enough
    let deep := depth + P.height b.scope + 1
    have run : b.invoke ((Env.interpreting P.source).reach deep) c block s = (some o, s') :=
      b.invoke_below (Env.reach_below (show depth ≤ deep by omega)) c block s o s' run
    obtain ⟨o', s₁, ran, settled, -⟩ :=
      agrees b (show P.height b.scope < deep by omega) owners s sound (known b among) c block
    have same := ran.symm.trans run
    cases same
    obtain ⟨owners', kept, sound'⟩ := settled.sound
    exact ⟨owners', sound', fun b' among' => kept _ _ (known b' among')⟩
  | @interpreted methods s s' reached scope part seq prepares depth i o run ih =>
    obtain ⟨owners, sound, known⟩ := ih
    let deep := depth + P.height scope
    have run : (Env.interpreting P.source).interpretAt (deep + 1) seq.handle i seq s =
        (some o, s') :=
      Env.interpretAt_below (show depth ≤ deep + 1 by omega) seq.handle i seq s o s' run
    obtain ⟨o', s₁, ran, settled, -⟩ := interpretAt_agrees (fun b => agrees b) part
      (show P.height scope ≤ deep by omega) prepares sound i
    have same := ran.symm.trans run
    cases same
    obtain ⟨owners', kept, sound'⟩ := settled.sound
    exact ⟨owners', sound', fun b' among' => kept _ _ (known b' among')⟩

/-- Whatever was made ready and defined before, an invocation of a method of the program whose
engine is there ends, and it ends as plain evaluation does: with the same value, cause of failure or
panic, on the same line, with the same modules for the scopes that its engine has come to. Both
stacks are as they were. -/
theorem invoke_agrees {methods : List Body} (reached : P.Reached s.store methods) {b : Body}
    (known : b ∈ methods) (live : s.store.reaches b.handle = true)
    (deep : P.height b.scope < depth) (c : Call) (block : Block) : ∃ o s',
      b.invoke ((Env.interpreting P.source).reach depth) c block s = (some o, s') ∧
      (o.ending, World.of b.handle.engine s') =
        P.evaluate s.context.settings.maxDepth b.scope c.receiver s.context.frames.length
          (World.of b.handle.engine s) ∧
      s'.context.backtrace = s.context.backtrace ∧ s'.context.frames = s.context.frames := by
  obtain ⟨owners, sound, owned⟩ := reached.sound
  obtain ⟨o, s', ran, -, plain⟩ := agrees b deep owners s sound (owned b known) c block
  have balance :=
    (b.invoke_keeps Balance.guarded (Balance.reach P.source depth) c block).of_ended ran
  exact ⟨o, s', ran, plain live, balance.backtrace rfl, balance.frames rfl⟩

def widgetClass : Scope := ⟨0, .classBody, "Widget", "widget.rb", 1⟩

def widgetMetaclass : Scope := ⟨1, .metaclassBody, "Widget", "widget.rb", 2⟩

/-- The code of a class body that opens its metaclass body, which takes a frame for itself. -/
def widgetCode (scope : Scope) : Lowered :=
  if scope.id = 0 then ⟨[.line 2, .define widgetMetaclass, .putSelf], false⟩
  else ⟨[.pushFrame, .put (.int 7), .popFrame], true⟩

theorem widgetCode_define {scope inner : Scope} (h : .define inner ∈ (widgetCode scope).instrs) :
    scope.id = 0 ∧ inner = widgetMetaclass := by
  unfold widgetCode at h
  split at h <;> simp_all

def widget : Program where
  has scope := scope = widgetClass ∨ scope = widgetMetaclass
  code := widgetCode
  height scope := if scope.id = 0 then 1 else 0
  closed _ among := .inr (widgetCode_define among).2
  nested {scope inner} among := by
    obtain ⟨outer, rfl⟩ := widgetCode_define among
    simp [outer, widgetMetaclass]
  identified := by
    rintro _ _ (rfl | rfl) (rfl | rfl) same
    all_goals first | rfl | cases same

/-- The value of the class body is the class. Its metaclass has been made inside it. -/
theorem widget_invoke_agrees :
    let m : Module := .top 0 "Widget" .classLike
    let s : State := ⟨⟨{}, 1, [], []⟩, { nextModule := 1, nextBody := 1 }, []⟩
    ∃ o s', (⟨0, widgetClass, m, ⟨0, true⟩⟩ : Body).invoke
        ((Env.interpreting widget.source).reach 2) ⟨none, .object m, m, "Widget"⟩ .absent s =
          (some o, s') ∧
      (o.ending, World.of 0 s') =
        (.value (.object m), ⟨2, ⟨[(1, .inside m 1 "Widget" .singleton)]⟩, 2⟩) := by
  intro m s
  have made : widget.Reached { nextModule := 1 } [] := .start (fun _ _ => rfl) fun _ => rfl
  have part : widget.has widgetClass := Or.inl rfl
  have reached : widget.Reached s.store [⟨0, widgetClass, m, ⟨0, true⟩⟩] :=
    .method made part m ⟨0, true⟩
  have deep : widget.height widgetClass < 2 := by decide
  obtain ⟨o, s', run, agrees, -⟩ :=
    invoke_agrees reached List.mem_cons_self rfl deep ⟨none, .object m, m, "Widget"⟩ .absent
  refine ⟨o, s', run, agrees.trans ?_⟩
  have inner : ∀ receiver w, widget.evaluate none widgetMetaclass receiver 1 w =
      (.value (.int 7), w) := by
    intro receiver w
    rw [evaluate_body rfl (.inl rfl) rfl]
    rfl
  show widget.evaluate none widgetClass (.object m) 0 ⟨1, ⟨[]⟩, 1⟩ = _
  rw [evaluate_body rfl (.inr rfl) rfl]
  change follow none (.object m) [.line 2, .define widgetMetaclass, .putSelf]
    (fun inner _ => widget.evaluate none inner) 1 .nil ⟨1, ⟨[]⟩, 1⟩ = _
  simp only [follow, World.moduleFor, Table.get?, Table.lookup, inner]
  rfl

end Program

end BodyCall
