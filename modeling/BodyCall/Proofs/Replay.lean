import BodyCall.Proofs.InUse

/-!
# Running a body again

A run of a program that has come to its end can be repeated from the context it started in, on the
caches that it has left or on fuller ones. Each definition finds its body there and each body its
sequence, so the repetition makes nothing, and it ends in the same way in the same context. It only
asks a source that has refused before; there it ends, as the first run did. All this holds in any
store, whatever is cached there.
-/

namespace BodyCall

open Eval

namespace State

def onLine (s : State) (n : Nat) : State := { s with context := { s.context with line := n } }

/-- The same context and the same calls in progress, on caches that may differ. -/
structure Again (s t : State) : Prop where
  context : t.context = s.context
  running : t.store.running = s.store.running

namespace Again

variable {s s₁ t : State}

theorem symm (h : s.Again t) : t.Again s := ⟨h.context.symm, h.running.symm⟩

theorem trans (h : s.Again s₁) (h' : s₁.Again t) : s.Again t :=
  ⟨h'.context.trans h.context, h'.running.trans h.running⟩

theorem move (h : s.Again t) (m : Motion) (backtrace : Backtrace) (frames : List Frame) :
    (s.move m backtrace frames).Again (t.move m backtrace frames) :=
  ⟨congrArg (fun c : Context => { c with backtrace, frames }) h.context, h.running⟩

theorem framed (h : s.Again t) (explicit : Bool) (f : Frame) :
    (s.framed explicit f).Again (t.framed explicit f) := by
  unfold State.framed
  split
  · exact h
  · rw [h.context]
    exact h.move _ _ _

theorem unframed (h : s.Again t) (explicit : Bool) :
    (s.unframed explicit).Again (t.unframed explicit) := by
  unfold State.unframed
  split
  · exact h
  · rw [h.context]
    exact h.move _ _ _

theorem entered (h : s.Again t) (e : Entry) : (s.entered e).Again (t.entered e) := by
  unfold State.entered
  rw [h.context]
  exact h.move _ _ _

theorem closed (h : s.Again t) (explicit : Bool) :
    (s.closed explicit).Again (t.closed explicit) := by
  have left : s.left.Again t.left := by
    unfold State.left
    rw [h.context]
    exact h.move _ _ _
  exact left.unframed explicit

theorem announced (h : s.Again t) (b : Body) (c : Call) :
    (b.announced c s).Again (b.announced c t) := by
  refine ⟨?_, ?_⟩
  · rw [Body.announced_context, Body.announced_context, h.context]
  · rw [Body.announced_store, Body.announced_store, h.running]

theorem entry (h : s.Again t) (label : String) (seq : Sequence) :
    Body.entry label seq t = Body.entry label seq s := by
  rw [Body.entry, h.context]
  rfl

theorem opened (h : s.Again t) (b : Body) (c : Call) (block : Block) (label : String)
    (seq : Sequence) : (b.opened c block label seq s).Again (b.opened c block label seq t) := by
  unfold Body.opened
  rw [h.entry]
  exact (h.framed _ _).entered _

theorem admits (h : s.Again t) {explicit : Bool} (room : s.Admits explicit) : t.Admits explicit := by
  rw [State.Admits, h.context]
  exact room

end Again

end State

/-! ## What a repetition leaves -/

/-- The store once these scopes have been asked for. -/
def Store.asking (st : Store) (scopes : List Scope) : Store :=
  scopes.foldr (fun scope st => st.noteLowering scope) st

theorem Store.asking_running (st : Store) (running : List Nat) (scopes : List Scope) :
    { st with running }.asking scopes = { st.asking scopes with running } := by
  induction scopes with
  | nil => rfl
  | cons scope rest ih =>
    simp only [asking, List.foldr_cons] at ih ⊢
    rw [ih]
    rfl

/-- From one state to the other these scopes have been asked for, and nothing else has changed in the
store. -/
structure Leaves (asked : List Scope) (t t' : State) : Prop where
  store : t'.store = t.store.asking asked
  told : ∃ events, t'.trace = events ++ t.trace ∧ askedScopes events = asked

namespace Leaves

variable {asked asked' : List Scope} {t t₁ t' : State}

theorem refl (t : State) : Leaves [] t t := ⟨rfl, [], rfl, rfl⟩

theorem trans (h : Leaves asked t t₁) (h' : Leaves asked' t₁ t') : Leaves (asked' ++ asked) t t' := by
  obtain ⟨events, trace, scopes⟩ := h.told
  obtain ⟨events', trace', scopes'⟩ := h'.told
  refine ⟨?_, events' ++ events, ?_, ?_⟩
  · rw [h'.store, h.store, Store.asking, Store.asking, Store.asking, List.foldr_append]
  · rw [trace', trace, List.append_assoc]
  · rw [askedScopes_append, scopes, scopes']

theorem silently (h : Leaves asked t t₁) (h' : Leaves [] t₁ t') : Leaves asked t t' := h.trans h'

theorem after (h : Leaves [] t t₁) (h' : Leaves asked t₁ t') : Leaves asked t t' := by
  have both := h.trans h'
  rw [List.append_nil] at both
  exact both

theorem move (t : State) (m : Motion) (backtrace : Backtrace) (frames : List Frame) :
    Leaves [] t (t.move m backtrace frames) := ⟨rfl, [_], rfl, rfl⟩

theorem framed (t : State) (explicit : Bool) (f : Frame) : Leaves [] t (t.framed explicit f) := by
  unfold State.framed
  split
  · exact refl t
  · exact move t _ _ _

theorem unframed (t : State) (explicit : Bool) : Leaves [] t (t.unframed explicit) := by
  unfold State.unframed
  split
  · exact refl t
  · exact move t _ _ _

theorem closed (t : State) (explicit : Bool) : Leaves [] t (t.closed explicit) :=
  (move t .left _ _).after (unframed _ explicit)

theorem opened (b : Body) (c : Call) (block : Block) (label : String) (seq : Sequence) (t : State) :
    Leaves [] t (b.opened c block label seq t) :=
  (framed t _ _).after (move _ .entered _ _)

theorem announced (b : Body) (c : Call) (t : State) : Leaves [] t (b.announced c t) := by
  unfold Body.announced
  split
  · exact ⟨rfl, [_], rfl, rfl⟩
  · exact refl t

theorem ask (t : State) (scope : Scope) : Leaves [scope] t (t.asked scope) := ⟨rfl, [_], rfl, rfl⟩

theorem same (h : Leaves [] t t') : t'.store = t.store := h.store

end Leaves

/-- A computation only asks a source that refuses, and its end is that refusal. -/
inductive Refuses {α : Type} (P : Program) : Outcome α → List Scope → Prop where
  | nothing (o : Outcome α) : Refuses P o []
  | scope {scope : Scope} {reason : String} {f : Failure}
      (refused : (P.code scope).checked = .error reason)
      (cause : f.cause = .materialization scope.text reason) : Refuses P (.failed f) [scope]

theorem Refuses.failed {α β : Type} {P : Program} {f : Failure} {asked : List Scope}
    (h : Refuses P (.failed f : Outcome α) asked) : Refuses P (.failed f : Outcome β) asked := by
  cases h with
  | nothing => exact .nothing _
  | scope refused cause => exact .scope refused cause

theorem Refuses.map {α β : Type} {P : Program} {o : Outcome α} {asked : List Scope}
    (h : Refuses P o asked) (g : α → β) : Refuses P (o.map g) asked := by
  cases h with
  | nothing => exact .nothing _
  | scope refused cause => exact .scope refused cause

theorem Refuses.mapFailure {P : Program} {o : Outcome Value} {asked : List Scope}
    (h : Refuses P o asked) (stack : Backtrace) :
    Refuses P (o.mapFailure (·.attach stack)) asked := by
  cases h with
  | nothing => exact .nothing _
  | scope refused cause => exact .scope refused ((Failure.attach_cause stack _).trans cause)

/-- The computation comes to the given end again, from this state. -/
def Repeats {α : Type} (P : Program) (x : Eval α) (t : State) (o : Outcome α) (s' : State) : Prop :=
  ∃ t' asked, x t = (some o, t') ∧ s'.Again t' ∧ Leaves asked t t' ∧ Refuses P o asked

theorem Repeats.silent {α : Type} {P : Program} {x : Eval α} {t t' : State} {o : Outcome α}
    {s' : State} (run : x t = (some o, t')) (again : s'.Again t') (leaves : Leaves [] t t') :
    Repeats P x t o s' := ⟨t', [], run, again, leaves, .nothing o⟩

/-! ## What a repetition finds -/

/-- What was installed and defined is still there, and so are the handles of it. -/
structure Store.Grown (st st' : Store) : Prop extends st.Before st' where
  cached : ∀ h ∈ st.cached, h ∈ st'.cached

namespace Store.Grown

variable {st st₁ st' : Store}

theorem refl (st : Store) : st.Grown st := ⟨.refl st, fun _ => id⟩

theorem trans (h : st.Grown st₁) (h' : st₁.Grown st') : st.Grown st' :=
  ⟨h.toBefore.trans h'.toBefore, fun k here => h'.cached k (h.cached k here)⟩

theorem step (h : st.Step st') : st.Grown st' := ⟨h.before, fun _ => h.cached⟩

theorem stepwise : Stepwise fun s _ s' => s.store.Grown s'.store where
  refl s _ := .refl s.store
  trans := .trans
  told s _ _ := .refl s.store
  line s _ := .refl s.store
  moved s _ _ _ := .refl s.store
  stored _ _ := .step

end Store.Grown

/-- The second store has all that a run has left in the first one, and nothing new if the run has
failed: what stopped it then is still missing. -/
structure Recalls {α : Type} (o : Outcome α) (st st' : Store) : Prop extends st.Grown st' where
  stopped : ∀ f, o = .failed f → st'.installed = st.installed ∧ st'.definitions = st.definitions

namespace Recalls

variable {α β : Type} {st st₁ st' : Store} {o : Outcome α} {f : Failure}

theorem refl (o : Outcome α) (st : Store) : Recalls o st st := ⟨.refl st, fun _ _ => ⟨rfl, rfl⟩⟩

theorem earlier (h : Recalls o st₁ st') (grown : st.Grown st₁) (a : β) : Recalls (.ok a) st st' :=
  ⟨grown.trans h.toGrown, fun _ => nofun⟩

theorem failed (h : Recalls (.failed f : Outcome α) st st') (f' : Failure) :
    Recalls (.failed f' : Outcome β) st st' := ⟨h.toGrown, fun _ _ => h.stopped f rfl⟩

theorem of_map {g : α → β} (h : Recalls (o.map g) st st') : Recalls o st st' :=
  ⟨h.toGrown, fun f same => h.stopped f (same ▸ rfl)⟩

theorem of_mapFailure {o : Outcome Value} {g : Failure → Failure}
    (h : Recalls (o.mapFailure g) st st') : Recalls o st st' :=
  ⟨h.toGrown, fun f same => h.stopped (g f) (same ▸ rfl)⟩

end Recalls

theorem Store.reaches_congr {st st' : Store} (registry : st'.registry = st.registry)
    (installed : st'.installed = st.installed) (definitions : st'.definitions = st.definitions)
    (running : st'.running = st.running) (h : Handle) : st'.reaches h = st.reaches h := by
  unfold reaches alive held cached handlesOf sequence?
  rw [registry, installed, definitions, running]

/-! ## Readiness -/

namespace Program

variable {P : Program} {depth : Nat} {b : Body} {s s' t : State}

/-- All that a source of the program lets readiness come to. -/
theorem readyAt_cases {settings : Settings} {o : Outcome Sequence}
    (ended : readyAt P.source depth b settings s = (some o, s')) :
    s.Again s' ∧ ((∃ seq, o = .ok seq ∧ s'.store.sequence? b = some seq) ∨
      s'.store.sequence? b = none ∧ ∃ reason, (P.code b.scope).checked = .error reason ∧
        o = .failed ⟨.materialization b.scope.text reason, none⟩) := by
  cases depth with
  | zero => cases ended
  | succ depth =>
    cases found : s.store.sequence? b with
    | some seq =>
      rw [readyAt_found found] at ended
      cases ended
      exact ⟨⟨rfl, rfl⟩, .inl ⟨seq, rfl, found⟩⟩
    | none =>
      cases checked : (P.code b.scope).checked with
      | error reason =>
        rw [readyAt_refuses found checked] at ended
        cases ended
        exact ⟨⟨rfl, rfl⟩, .inr ⟨found, reason, rfl, rfl⟩⟩
      | ok l =>
        obtain ⟨told, ready⟩ := readyAt_installs found checked depth settings
        have installed := readyAt_run ready
        rw [ready] at ended
        cases ended
        exact ⟨⟨rfl, rfl⟩, .inl ⟨_, rfl, installed⟩⟩

theorem readyAt_again {settings : Settings} {o : Outcome Sequence}
    (ended : readyAt P.source depth b settings s = (some o, s'))
    (recalls : Recalls o s'.store t.store) (again : s.Again t) :
    Repeats P (readyAt P.source depth b settings) t o s' := by
  cases depth with
  | zero => cases ended
  | succ depth =>
    obtain ⟨kept, ⟨seq, rfl, installed⟩ | ⟨absent, reason, refused, rfl⟩⟩ := readyAt_cases ended
    · exact .silent (readyAt_found (recalls.installed b seq installed)) (kept.symm.trans again)
        (.refl t)
    · have absent : t.store.sequence? b = none :=
        (Store.sequence?_congr (recalls.stopped _ rfl).1 b).trans absent
      refine ⟨t.asked b.scope, [b.scope], readyAt_refuses absent refused depth settings, ?_,
        .ask t b.scope, .scope refused rfl⟩
      exact kept.symm.trans ⟨again.context, again.running⟩

end Program

/-! ## Bodies and sequences -/

/-- Calls of engines within a depth come to the same end again. -/
def Env.Repeating (P : Program) (depth : Nat) : Prop :=
  ∀ (h : Handle) (i : Invocation) (seq : Sequence) {o : Outcome Value} {s s' t : State},
    (interpreting P.source).interpretAt depth h i seq s = (some o, s') →
    Recalls o s'.store t.store → s.Again t →
    Repeats P ((interpreting P.source).interpretAt depth h i seq) t o s'

namespace Body

variable {P : Program} {depth : Nat} {b : Body} {c : Call} {block : Block} {s s' t : State}

/-- What the first run had made ready is there before the second begins. -/
theorem sequence_again {o : Outcome Sequence}
    (ready : b.sequence ((Env.interpreting P.source).reach depth) (b.announced c s) = (some o, s'))
    (recalls : Recalls o s'.store t.store) (again : s.Again t) :
    Repeats P (b.sequence ((Env.interpreting P.source).reach depth)) (b.announced c t) o s' := by
  have told := again.announced b c
  rw [sequence_run] at ready
  have repeated := Program.readyAt_again ready (b.announced_store c t ▸ recalls) told
  rw [← told.context] at repeated
  exact repeated

theorem invoke_repeats (inner : Env.Repeating P depth) {o : Outcome Value}
    (ended : b.invoke ((Env.interpreting P.source).reach depth) c block s = (some o, s'))
    (recalls : Recalls o s'.store t.store) (again : s.Again t) :
    Repeats P (b.invoke ((Env.interpreting P.source).reach depth) c block) t o s' := by
  have balanced := Balance.reach P.source depth
  have told := Leaves.announced b c t
  cases (invoke_ended_iff balanced).mp ended with
  | unready ready =>
    obtain ⟨t₁, asked, ready', again₁, leaves, refuses⟩ :=
      sequence_again ready (recalls.failed _) again
    exact ⟨t₁, asked, (Course.unready ready').run balanced, again₁, told.after leaves,
      refuses.failed⟩
  | broken ready =>
    obtain ⟨t₁, asked, ready', again₁, leaves, refuses⟩ :=
      sequence_again ready ⟨recalls.toGrown, fun _ => nofun⟩ again
    cases refuses
    exact .silent ((Course.broken ready').run balanced) again₁ (told.after leaves)
  | @refused seq s₁ max ready generic limit =>
    obtain ⟨t₁, asked, ready', again₁, leaves, refuses⟩ :=
      sequence_again ready (recalls.earlier (.refl s₁.store) seq) again
    cases refuses
    rw [← again₁.context] at limit ⊢
    refine .silent ((Course.refused ready' generic limit).run balanced) ?_
      (told.after (leaves.after (.move t₁ _ _ _)))
    exact again₁.move _ _ _
  | @invalid seq s₁ ready room kind =>
    have same := (s₁.alike_framed seq.explicit (b.frame c block)).trans
      (State.alike_unframed _ seq.explicit)
    obtain ⟨t₁, asked, ready', again₁, leaves, refuses⟩ :=
      sequence_again ready ((same.store ▸ recalls).earlier (.refl s₁.store) seq) again
    cases refuses
    refine .silent ((Course.invalid ready' (again₁.admits room) kind).run balanced) ?_
      (told.after (leaves.after ((Leaves.framed t₁ _ _).after (.unframed _ _))))
    exact (again₁.framed _ _).unframed _
  | @interpreted seq s₁ s₂ label o ready room kind run =>
    have opened := b.alike_opened c block label seq s₁
    have grown : (b.opened c block label seq s₁).store.Grown s₂.store :=
      ((Store.Grown.stepwise.reach depth).interpret _ _ _).of_ended run
    have recalls : Recalls o s₂.store t.store :=
      ((s₂.alike_closed seq.explicit).store ▸ recalls).of_mapFailure
    obtain ⟨t₁, asked, ready', again₁, leaves, refuses⟩ :=
      sequence_again ready (recalls.earlier (opened.store ▸ grown) seq) again
    cases refuses
    have store : (b.opened c block label seq t₁).store = t.store :=
      (Leaves.opened b c block label seq t₁).same.trans (told.after leaves).same
    obtain ⟨t₂, asked, run', again₂, leaves₂, refuses⟩ := inner seq.handle _ seq run
      (store ▸ recalls) (again₁.opened b c block label seq)
    refine ⟨t₂.closed seq.explicit, asked, ?_, again₂.closed _, ?_, refuses.mapFailure _⟩
    · rw [← again₁.entry, ← again₁.context]
      exact (Course.interpreted ready' (again₁.admits room) kind run').run balanced
    · have opening := (told.after leaves).after (.opened b c block label seq t₁)
      exact opening.after (leaves₂.silently (.closed t₂ _))

end Body

namespace Interpreter

variable {P : Program} {depth engine : Nat} {i : Invocation} {seq : Sequence} {own : Nat}
  {last : Value} {s s' t : State}

theorem define_again (inner : Env.Repeating P depth) {scope : Scope} {o : Outcome Value}
    (ended : define ((Env.interpreting P.source).reach depth) engine i seq scope s = (some o, s'))
    (recalls : Recalls o s'.store t.store) (again : s.Again t) :
    Repeats P (define ((Env.interpreting P.source).reach depth) engine i seq scope) t o s' := by
  let s₀ : State := { s with trace := .defining engine scope :: s.trace }
  obtain ⟨b, s₁, known, there, context, running⟩ :=
    bodyFor_run engine scope i.call.receiver.module? seq.handle s₀
  have made : s.Again s₁ := ⟨context, running⟩
  rw [define_run known] at ended
  let t₁ : State := { t with trace := .defining engine scope :: t.trace }
  have grown : s₁.store.Grown s'.store :=
    (b.invoke_keeps Store.Grown.stepwise.guarded (Store.Grown.stepwise.reach depth) _ _).of_ended
      ended
  have found : t₁.store.definition? engine scope = some b :=
    recalls.defined engine scope b (grown.defined engine scope b there)
  have again₁ : s₁.Again t₁ := made.symm.trans ⟨again.context, again.running⟩
  obtain ⟨t', asked, run, again', leaves, refuses⟩ :=
    Body.invoke_repeats (t := t₁) inner ended recalls again₁
  refine ⟨t', asked, (define_run (bodyFor_known found)).trans run, again', ?_, refuses⟩
  have told : Leaves [] t t₁ := ⟨rfl, [_], rfl, rfl⟩
  exact told.after leaves

/-- An instruction that is no definition does to a context what it has done to it before. -/
theorem execute_plain_again {r : Reach} {instr : Instr} (plain : ∀ scope, instr ≠ .define scope)
    {o : Outcome (Nat × Value)} (ended : execute r engine i seq own last instr s = (some o, s'))
    (again : s.Again t) : Repeats P (execute r engine i seq own last instr) t o s' := by
  cases instr with
  | define scope => exact absurd rfl (plain scope)
  | line n =>
    cases ended
    refine .silent rfl ⟨?_, again.running⟩ ⟨rfl, [], rfl, rfl⟩
    exact congrArg (fun c : Context => { c with line := n }) again.context
  | put v =>
    cases ended
    exact .silent rfl again (.refl t)
  | putSelf =>
    cases ended
    exact .silent rfl again (.refl t)
  | raise message =>
    rw [execute_raise] at ended
    cases ended
    rw [← again.context]
    exact .silent rfl again (.refl t)
  | pushFrame =>
    cases limit : s.context.exceeded? with
    | none =>
      rw [execute, bind_of_ok (pushFrame_run limit)] at ended
      cases ended
      rw [← again.context] at limit ⊢
      exact .silent (bind_of_ok (pushFrame_run limit)) (again.move _ _ _) (.move t _ _ _)
    | some max =>
      rw [execute, bind_of_failed (pushFrame_refused limit)] at ended
      cases ended
      rw [← again.context] at limit ⊢
      exact .silent (bind_of_failed (pushFrame_refused limit)) (again.move _ _ _) (.move t _ _ _)
  | popFrame =>
    cases own with
    | zero =>
      rw [execute_underflow] at ended
      cases ended
      rw [← again.context]
      exact .silent rfl again (.refl t)
    | succ own =>
      cases frames : s.context.frames with
      | nil =>
        rw [execute, bind_of_panicked (popFrame_empty frames)] at ended
        cases ended
        rw [← again.context] at frames
        exact .silent (bind_of_panicked (popFrame_empty frames)) again (.refl t)
      | cons f rest =>
        rw [execute, bind_of_ok (popFrame_run frames)] at ended
        cases ended
        rw [← again.context] at frames ⊢
        exact .silent (bind_of_ok (popFrame_run frames)) (again.move _ _ _) (.move t _ _ _)

theorem execute_again (inner : Env.Repeating P depth) {instr : Instr} {o : Outcome (Nat × Value)}
    (ended : execute ((Env.interpreting P.source).reach depth) engine i seq own last instr s =
      (some o, s'))
    (recalls : Recalls o s'.store t.store) (again : s.Again t) :
    Repeats P (execute ((Env.interpreting P.source).reach depth) engine i seq own last instr) t o
      s' := by
  cases instr with
  | define scope =>
    rcases run : define ((Env.interpreting P.source).reach depth) engine i seq scope s with
      ⟨_ | o', s₁⟩
    · rw [execute, bind_of_none run] at ended
      cases ended
    · rw [execute, bind_pure_run, run] at ended
      cases ended
      obtain ⟨t', asked, run', again', leaves, refuses⟩ :=
        define_again inner run recalls.of_map again
      exact ⟨t', asked, by rw [execute, bind_pure_run, run']; rfl, again', leaves, refuses.map _⟩
  | _ => exact execute_plain_again (by intro _ same; cases same) ended again

theorem run_again (inner : Env.Repeating P depth) {instrs : List Instr} {o : Outcome Value}
    {own' : Nat}
    (ended : run ((Env.interpreting P.source).reach depth) engine i seq own last instrs s =
      (some (.ok (o, own')), s'))
    (recalls : Recalls o s'.store t.store) (again : s.Again t) :
    ∃ t' asked, run ((Env.interpreting P.source).reach depth) engine i seq own last instrs t =
      (some (.ok (o, own')), t') ∧ s'.Again t' ∧ Leaves asked t t' ∧ Refuses P o asked := by
  -- on the instructions. Before each of them the caches of the second run are as they were, so they
  -- still hold all that the first run has left.
  induction instrs generalizing s t own last with
  | nil =>
    cases ended
    exact ⟨t, [], rfl, again, .refl t, .nothing _⟩
  | cons instr rest ih =>
    rcases step : execute ((Env.interpreting P.source).reach depth) engine i seq own last instr s
      with ⟨_ | ⟨own₁, last₁⟩ | f | m, s₁⟩
    · rw [run_of_none step] at ended
      cases ended
    · rw [run_of_ok step] at ended
      have grown : s₁.store.Grown s'.store :=
        (run_keeps Store.Grown.stepwise (Store.Grown.stepwise.reach depth) _ _ _ _ _ _).of_ended
          ended
      obtain ⟨t₁, asked, step', again₁, leaves, refuses⟩ :=
        execute_again inner step (recalls.earlier grown _) again
      cases refuses
      obtain ⟨t', asked, ran, again', leaves', refuses⟩ := ih ended (leaves.same ▸ recalls) again₁
      exact ⟨t', asked, (run_of_ok step' rest).trans ran, again', leaves.after leaves', refuses⟩
    · rw [run_of_failed step] at ended
      cases ended
      obtain ⟨t', asked, step', again', leaves, refuses⟩ :=
        execute_again inner step (recalls.failed _) again
      exact ⟨t', asked, run_of_failed step' rest, again', leaves, refuses.failed⟩
    · rw [run_of_panicked step] at ended
      cases ended
      obtain ⟨t', asked, step', again', leaves, refuses⟩ :=
        execute_again inner step ⟨recalls.toGrown, fun _ => nofun⟩ again
      cases refuses
      exact ⟨t', [], run_of_panicked step' rest, again', leaves, .nothing _⟩

theorem popFrames_again {n : Nat} (popped : popFrames n s = (some (.ok ()), s'))
    (again : s.Again t) : Repeats P (popFrames n) t (.ok ()) s' := by
  induction n generalizing s t with
  | zero =>
    cases popped
    exact .silent rfl again (.refl t)
  | succ n ih =>
    cases frames : s.context.frames with
    | nil =>
      rw [popFrames, bind_of_panicked (popFrame_empty frames)] at popped
      cases popped
    | cons f rest =>
      rw [popFrames, bind_of_ok (popFrame_run frames)] at popped
      rw [← again.context] at frames
      obtain ⟨t', asked, run, again', leaves, refuses⟩ := ih popped (again.move _ _ rest)
      cases refuses
      rw [← again.context] at run leaves
      exact .silent ((bind_of_ok (popFrame_run frames)).trans run) again'
        ((Leaves.move t _ _ _).after leaves)

theorem interpret_again (inner : Env.Repeating P depth) {o : Outcome Value}
    (ended : interpret ((Env.interpreting P.source).reach depth) engine i seq s = (some o, s'))
    (recalls : Recalls o s'.store t.store) (again : s.Again t) :
    Repeats P (interpret ((Env.interpreting P.source).reach depth) engine i seq) t o s' := by
  have balanced := Balance.reach P.source depth
  obtain ⟨own, s₁, ran⟩ := run_of_interpret balanced ended
  obtain ⟨s₂, popped, -, store, -⟩ := popFrames_of_run balanced ran
  have same := (interpret_of_popped ran popped).symm.trans ended
  cases same
  obtain ⟨t₁, asked, ran', again₁, leaves, refuses⟩ :=
    run_again inner ran (store ▸ recalls) again
  let t₂ : State := { t₁ with trace := reported o ++ t₁.trace }
  have told : Leaves [] t₁ t₂ := by
    refine ⟨rfl, reported o, rfl, ?_⟩
    cases o <;> rfl
  obtain ⟨t', asked', popped', again', leaves', refuses'⟩ :=
    popFrames_again (P := P) (t := t₂) popped ⟨again₁.context, again₁.running⟩
  cases refuses'
  exact ⟨t', asked, interpret_of_popped ran' popped', again',
    leaves.silently (told.after leaves'), refuses⟩

end Interpreter

/-- An engine that was gone is still gone, for the run has failed there and left all as it was. -/
theorem Env.interpretAt_again (P : Program) (depth : Nat) : Repeating P depth := by
  induction depth with
  | zero =>
    intro h i seq o s s' t ended
    cases ended
  | succ depth ih =>
    intro h i seq o s s' t ended recalls again
    have grown : s.store.Grown s'.store :=
      ((Store.Grown.stepwise.reach (depth + 1)).interpret h i seq).of_ended ended
    obtain ⟨gone, rfl, rfl⟩ | ⟨live, s₁, rfl, ran⟩ := interpretAt_cases ended
    · obtain ⟨installed, definitions⟩ := recalls.stopped _ rfl
      have gone : t.store.reaches h = false :=
        (Store.reaches_congr recalls.registry installed definitions again.running h).trans gone
      rw [← again.context]
      exact .silent (interpretAt_gone gone) again (.refl t)
    · have later := grown.trans recalls.toGrown
      have live' : t.store.reaches h = true :=
        Store.reaches_grown later.toBefore later.cached again.running live
      have held : (s.held h.engine).Again (t.held h.engine) :=
        ⟨again.context, congrArg (h.engine :: ·) again.running⟩
      have recalls' : Recalls o s₁.store (t.held h.engine).store := by
        have back : s₁.store.Grown (s₁.released h.engine).store :=
          .step (.release s₁.store h.engine)
        exact ⟨(back.trans recalls.toGrown).trans (.step (.hold t.store h.engine)), recalls.stopped⟩
      obtain ⟨t₁, asked, ran', again₁, leaves, refuses⟩ :=
        Interpreter.interpret_again ih ran recalls' held
      refine ⟨t₁.released h.engine, asked, interpretAt_ended live' ran', ?_, ?_, refuses⟩
      · exact ⟨again₁.context, congrArg (List.erase · h.engine) again₁.running⟩
      · refine ⟨?_, leaves.told⟩
        have store : t₁.store = { t.store.asking asked with
            running := h.engine :: t.store.running } :=
          leaves.store.trans (t.store.asking_running _ asked)
        show ({ t₁.store with running := t₁.store.running.erase h.engine } : Store) = _
        rw [store, List.erase_cons_head]
        exact (t.store.asking_running t.store.running asked).symm

/-- In any store, an invocation that has come to its end comes to the same end again. It changes
nothing in the store, and no source is asked again, unless the outcome is its refusal; then that source
is asked once more. -/
theorem Body.invoke_ended_again {P : Program} {depth : Nat} {b : Body} {c : Call} {block : Block}
    {o : Outcome Value} {s s' : State}
    (ended : b.invoke ((Env.interpreting P.source).reach depth) c block s = (some o, s')) :
    ∃ t', b.invoke ((Env.interpreting P.source).reach depth) c block (s'.onLine s.context.line) =
        (some o, t') ∧ t'.context = s'.context ∧
      (t'.store = s'.store ∧ askedScopes (t'.since s') = [] ∨
        ∃ scope reason f, (P.code scope).checked = .error reason ∧ o = .failed f ∧
          f.cause = .materialization scope.text reason ∧
          t'.store = s'.store.noteLowering scope ∧ askedScopes (t'.since s') = [scope]) := by
  have balance := (b.invoke_keeps Balance.guarded (Balance.reach P.source depth) c block).of_ended
    ended
  have stepwise := State.Before.stepwise
  have before := (b.invoke_keeps stepwise.guarded (stepwise.reach depth) c block).of_ended ended
  have running := invoke_running ended
  let t := s'.onLine s.context.line
  have line : Balance s true t := balance.trans (Balance.quiet.line s' s.context.line)
  have again : s.Again t :=
    ⟨(Balance.quiet.refl s true).context line before.settings rfl, running⟩
  obtain ⟨t', asked, ran, again', leaves, refuses⟩ :=
    invoke_repeats (t := t) (Env.interpretAt_again P depth) ended (.refl o s'.store) again
  refine ⟨t', ran, again'.context, ?_⟩
  obtain ⟨told, trace, scopes⟩ := leaves.told
  have since : t'.since s' = told := State.since_of_append trace
  rw [since, scopes]
  cases refuses with
  | nothing => exact .inl ⟨leaves.store, rfl⟩
  | scope refused cause => exact .inr ⟨_, _, _, refused, rfl, cause, leaves.store, rfl⟩

/-- A body of a program is invoked twice from one context, in whatever state its engine is, and
whatever else has been run there. The second invocation ends as the first one did, with the same
value, failure or panic and in the same context, and it changes nothing in the store. No source is
asked again, unless the outcome is its refusal; then that source is asked once more. -/
theorem Program.invoke_again {P : Program} {S : Stock} (offers : S.Offers P.has P.code) {s : State}
    {made : List Body} (used : S.InUse (fun _ _ => True) s.store made) {b : Body}
    (known : s.store.Knows made b) (part : P.has b.scope) {depth : Nat}
    (deep : P.height b.scope < depth) (c : Call) (block : Block) :
    let invoke := b.invoke ((Env.interpreting P.source).reach depth) c block
    ∃ o s' t', invoke s = (some o, s') ∧ invoke (s'.onLine s.context.line) = (some o, t') ∧
      t'.context = s'.context ∧
      (t'.store = s'.store ∧ askedScopes (t'.since s') = [] ∨
        ∃ scope reason f, (P.code scope).checked = .error reason ∧ o = .failed f ∧
          f.cause = .materialization scope.text reason ∧
          t'.store = s'.store.noteLowering scope ∧ askedScopes (t'.since s') = [scope]) := by
  intro invoke
  have own (h : Handle) : (fun _ _ => True : Nat → Handle → Prop) h.engine h := trivial
  obtain ⟨o, s', ended⟩ :=
    offers.halts own made depth b s c block (used.furnished own) known part deep
  obtain ⟨t', again, rest⟩ := Body.invoke_ended_again ended
  exact ⟨o, s', t', ended, again, rest⟩

namespace Program

def spareModule : Scope := ⟨2, .moduleBody, "Spare", "widget.rb", 9⟩

/-- The code of a class body that opens its metaclass body, and then a module body that pushes a frame
which is not its to push. -/
def spoiltCode (scope : Scope) : Lowered :=
  if scope.id = 0 then ⟨[.line 2, .define widgetMetaclass, .line 9, .define spareModule], false⟩
  else if scope.id = 1 then ⟨[.pushFrame, .put (.int 7), .popFrame], true⟩
  else ⟨[.pushFrame], false⟩

theorem spoiltCode_define {scope inner : Scope} (h : .define inner ∈ (spoiltCode scope).instrs) :
    scope.id = 0 ∧ (inner = widgetMetaclass ∨ inner = spareModule) := by
  unfold spoiltCode at h
  split at h
  · simp_all
  · split at h <;> simp_all

def spoilt : Program where
  has scope := scope = widgetClass ∨ scope = widgetMetaclass ∨ scope = spareModule
  code := spoiltCode
  height scope := if scope.id = 0 then 1 else 0
  closed _ among := .inr (spoiltCode_define among).2
  nested {scope inner} among := by
    obtain ⟨outer, rfl | rfl⟩ := spoiltCode_define among
    · simp [outer, widgetMetaclass]
    · simp [outer, spareModule]
  identified := by
    rintro _ _ (rfl | rfl | rfl) (rfl | rfl | rfl) same
    all_goals first | rfl | cases same

/-- The class body fails in its second definition, with itself on the backtrace, and so it does again.
By then both definitions have their modules, and none is made a second time. -/
theorem spoilt_invoke_again :
    let m : Module := .top 0 "Widget" .classLike
    let b : Body := ⟨0, widgetClass, m, ⟨0, true⟩⟩
    let s : State := ⟨⟨{}, 1, [], []⟩, { nextModule := 1, nextBody := 1 }, []⟩
    let invoke :=
      b.invoke ((Env.interpreting spoilt.source).reach 2) ⟨none, .object m, m, "Widget"⟩ .absent
    let refusal : Failure :=
      ⟨.materialization "module body `Spare` (widget.rb:9)"
        "frame instruction `push_frame` at 0 without explicit call protocol",
        some [⟨"Widget", "widget.rb", 1⟩]⟩
    ∃ s' t', invoke s = (some (.failed refusal), s') ∧
      invoke (s'.onLine 1) = (some (.failed refusal), t') ∧ t'.context = s'.context ∧
      t'.store.nextModule = s'.store.nextModule := by
  intro m b s invoke refusal
  have made : spoilt.Reached { nextModule := 1 } [] := .start (fun _ _ => rfl) fun _ => rfl
  have part : spoilt.has widgetClass := Or.inl rfl
  have reached : spoilt.Reached s.store [b] := .method made part m ⟨0, true⟩
  have deep : spoilt.height widgetClass < 2 := by decide
  obtain ⟨o, s', t', ran, again, context, changes⟩ :=
    invoke_again spoilt.stock_offers reached.inUse (.inl List.mem_cons_self) part deep
      ⟨none, .object m, m, "Widget"⟩ .absent
  have evaluated : (invoke s).1 = some (.failed refusal) := by decide +kernel
  have outcome := (congrArg Prod.fst ran).symm.trans evaluated
  cases outcome
  refine ⟨s', t', ran, again, context, ?_⟩
  rcases changes with ⟨same, -⟩ | ⟨scope, reason, f, -, -, -, counted, -⟩
  · rw [same]
  · rw [counted]
    rfl

end Program

end BodyCall
