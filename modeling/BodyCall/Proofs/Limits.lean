import BodyCall.Proofs.Backstage
import BodyCall.Proofs.Course

/-!
# Runs that a limit stops

A computation is run without a frame limit and under one. The two runs go together up to the first
frame that the former pushes at a depth that the limit does not allow. There they fork: that frame is
refused, and from then on the run under the limit only unwinds. `Forks` says so of a computation,
whatever its start; `Level` says that there is nothing in it that a limit could stop.
-/

namespace BodyCall

open Eval

/-- The state under another limit. -/
def State.limitedTo (s : State) (limit : Option Nat) : State :=
  { s with context := { s.context with
      settings := { s.context.settings with maxDepth := limit } } }

/-- One more frame is either within the limit or beyond it. -/
theorem State.room_or_full (s : State) (m : Nat) :
    s.context.frames.length < m ∧ (s.limitedTo (some m)).context.exceeded? = none ∨
      m ≤ s.context.frames.length ∧ (s.limitedTo (some m)).context.exceeded? = some m := by
  by_cases high : m ≤ s.context.frames.length
  · exact .inr ⟨high, by simp [limitedTo, Context.exceeded?, Option.filter, high]⟩
  · exact .inl ⟨Nat.lt_of_not_le high,
      by simp [limitedTo, Context.exceeded?, Option.filter, high]⟩

namespace Event

/-- No frame is pushed here at a depth of `m` or more. -/
def Within (m : Nat) : Event → Prop
  | .moved .framePushed _ frames => frames.tail.length < m
  | _ => True

/-- All that a run does once the limit `m` has stopped it. -/
def Unwinds (m : Nat) : Event → Prop
  | .moved .left _ _ | .moved .framePopped _ _ => True
  | .logged (.bodyFailed cause) => cause = .stackOverflow m
  | _ => False

theorem within_of_not_motion {e : Event} (h : e.isMotion = false) (m : Nat) : e.Within m := by
  cases e with
  | moved motion backtrace frames => cases h
  | _ => trivial

theorem Within.mono {e : Event} {m n : Nat} (h : e.Within m) (le : m ≤ n) : e.Within n := by
  cases e with
  | moved motion backtrace frames =>
    cases motion with
    | framePushed => exact Nat.lt_of_lt_of_le h le
    | _ => trivial
  | _ => trivial

end Event

/-- The failure of a run that the limit `m` stops above the given entries. -/
def overflow (m : Nat) (backtrace : Backtrace) : Failure :=
  Failure.attach backtrace ⟨.stackOverflow m, none⟩

theorem overflow_cause (m : Nat) (backtrace : Backtrace) :
    (overflow m backtrace).cause = .stackOverflow m := Failure.attach_cause backtrace _

theorem attach_overflow (m : Nat) (stack : Backtrace) (e : Entry) (rest : Backtrace) :
    Failure.attach stack (overflow m (e :: rest)) = overflow m (e :: rest) := rfl

/-- What happens, newest first, without a limit and under the limit `m`. It is the same up to the
first frame that is pushed at a depth of `m` or more, on top of the given entries. Under the limit
that frame is refused, and the run unwinds. -/
inductive Parted (m : Nat) (backtrace : Backtrace) : List Event → List Event → Prop where
  | intro {earlier later unwinding : List Event} (f : Frame) (frames : List Frame)
      (low : ∀ e ∈ earlier, e.Within m) (high : m ≤ frames.length)
      (unwinds : ∀ e ∈ unwinding, e.Unwinds m) :
      Parted m backtrace (later ++ .moved .framePushed backtrace (f :: frames) :: earlier)
        (unwinding ++ .moved .frameRefused backtrace frames :: earlier)

namespace Parted

variable {m : Nat} {backtrace : Backtrace} {free bound : List Event}

theorem later (h : Parted m backtrace free bound) (more : List Event) :
    Parted m backtrace (more ++ free) bound := by
  obtain ⟨f, frames, low, high, unwinds⟩ := h
  rw [← List.append_assoc]
  exact ⟨f, frames, low, high, unwinds⟩

theorem unwound (h : Parted m backtrace free bound) {more : List Event}
    (all : ∀ e ∈ more, e.Unwinds m) : Parted m backtrace free (more ++ bound) := by
  obtain ⟨f, frames, low, high, unwinds⟩ := h
  rw [← List.append_assoc]
  refine ⟨f, frames, low, high, fun e among => ?_⟩
  exact (List.mem_append.mp among).elim (all e) (unwinds e)

theorem after (h : Parted m backtrace free bound) {before : List Event}
    (all : ∀ e ∈ before, e.Within m) : Parted m backtrace (free ++ before) (bound ++ before) := by
  obtain ⟨f, frames, low, high, unwinds⟩ := h
  rw [List.append_assoc, List.append_assoc]
  refine ⟨f, frames, fun e among => ?_, high, unwinds⟩
  exact (List.mem_append.mp among).elim (low e) (all e)

theorem refused_mem (h : Parted m backtrace free bound) :
    ∃ frames, .moved .frameRefused backtrace frames ∈ bound := by
  obtain ⟨f, frames, -, -, -⟩ := h
  exact ⟨frames, List.mem_append_right _ List.mem_cons_self⟩

theorem beyond (h : Parted m backtrace free bound) : ¬ ∀ e ∈ free, e.Within m := by
  obtain ⟨f, frames, -, high, -⟩ := h
  intro all
  have low : frames.length < m := all _ (List.mem_append_right _ List.mem_cons_self)
  omega

end Parted

namespace Eval

variable {α β : Type} {m : Nat} {s p : State}

/-- A run without a limit has come from the state to where it is now. -/
def Onward (s : State) (r : Option (Outcome α) × State) : Prop :=
  ∃ (s' : State) (events : List Event), r.2 = s'.limitedTo none ∧ s'.trace = events ++ s.trace

/-- How a run without a limit and the run under the limit `m` come out, from a common start. `stops`
tells in which outcome a run that is stopped hands its failure over. -/
inductive Forked (m : Nat) (stops : Failure → Outcome α → Prop) (s : State) :
    Option (Outcome α) × State → Option (Outcome α) × State → Prop where
  | along {o : Option (Outcome α)} {s' : State} {events : List Event}
      (trace : s'.trace = events ++ s.trace) (low : ∀ e ∈ events, e.Within m) :
      Forked m stops s (o, s'.limitedTo none) (o, s'.limitedTo (some m))
  | apart {o : Option (Outcome α)} {o' : Outcome α} {s₁ s₂ : State} {backtrace : Backtrace}
      {free bound : List Event} (parted : Parted m backtrace free bound)
      (trace₁ : s₁.trace = free ++ s.trace) (trace₂ : s₂.trace = bound ++ s.trace)
      (stopped : stops (overflow m backtrace) o') :
      Forked m stops s (o, s₁.limitedTo none) (some o', s₂)

def ForksAt (m : Nat) (stops : Failure → Outcome α → Prop) (x : Eval α) (s : State) : Prop :=
  Forked m stops s (x (s.limitedTo none)) (x (s.limitedTo (some m)))

def Forks (m : Nat) (stops : Failure → Outcome α → Prop) (x : Eval α) : Prop :=
  ∀ s, ForksAt m stops x s

def FailsWith (f : Failure) (o : Outcome α) : Prop := o = .failed f

/-- The failure has been caught, and is handed on. -/
def Catches (f : Failure) (o : Outcome (Outcome α)) : Prop := o = .ok (.failed f)

/-- From where it was stopped, a run has only unwound, and it hands the failure over. -/
def Unwound (m : Nat) (stops : Failure → Outcome α → Prop) (f : Failure) (s : State)
    (r : Option (Outcome α) × State) : Prop :=
  ∃ (o : Outcome α) (s' : State) (events : List Event), r = (some o, s') ∧ stops f o ∧
    s'.trace = events ++ s.trace ∧ ∀ e ∈ events, e.Unwinds m

/-- From the state the computation goes the same way under every limit, and it pushes no frame. -/
def LevelAt (x : Eval α) (s : State) : Prop :=
  ∃ (o : Option (Outcome α)) (s' : State) (events : List Event),
    s'.trace = events ++ s.trace ∧ (∀ e ∈ events, ∀ m, e.Within m) ∧
      ∀ limit, x (s.limitedTo limit) = (o, s'.limitedTo limit)

def Level (x : Eval α) : Prop := ∀ s, LevelAt x s

namespace LevelAt

variable {x : Eval α} {o : Option (Outcome α)}

theorem silent (s' : State) (trace : s'.trace = s.trace)
    (run : ∀ limit, x (s.limitedTo limit) = (o, s'.limitedTo limit)) : LevelAt x s :=
  ⟨o, s', [], trace, List.forall_mem_nil _, run⟩

theorem told {e : Event} (s' : State) (trace : s'.trace = e :: s.trace) (low : ∀ m, e.Within m)
    (run : ∀ limit, x (s.limitedTo limit) = (o, s'.limitedTo limit)) : LevelAt x s :=
  ⟨o, s', [e], trace, List.forall_mem_singleton.mpr low, run⟩

end LevelAt

namespace Level

variable {x : Eval α} {k : α → Eval β}

theorem forks (h : Level x) (m : Nat) (stops : Failure → Outcome α → Prop) : Forks m stops x := by
  intro s
  obtain ⟨o, s', events, trace, low, run⟩ := h s
  rw [ForksAt, run, run]
  exact .along trace fun e among => low e among m

theorem ofOutcome (o : Outcome α) : Level (ofOutcome o) :=
  fun s => .silent s rfl fun _ => rfl

theorem pure (a : α) : Level (Pure.pure a : Eval α) := ofOutcome (.ok a)

theorem exhausted : Level (exhausted : Eval α) := fun s => .silent s rfl fun _ => rfl

theorem of_backstage (h : Backstage x) : Level x := by
  obtain ⟨act, rfl, quiet⟩ := h
  intro s
  refine ⟨(act s.store).1, (act.run s).2, (act s.store).2.2, rfl, fun e among m => ?_, fun _ => rfl⟩
  exact Event.within_of_not_motion (quiet _ e among) m

theorem bind (hx : Level x) (hk : ∀ a, Level (k a)) : Level (x >>= k) := by
  intro s
  obtain ⟨o, s₁, first, trace, low, run⟩ := hx s
  rcases o with _ | a | f | t
  · exact ⟨none, s₁, first, trace, low, fun limit => bind_of_none (run limit)⟩
  · obtain ⟨o, s₂, second, trace', low', run'⟩ := hk a s₁
    rw [trace, ← List.append_assoc] at trace'
    refine ⟨o, s₂, second ++ first, trace', fun e among => ?_, fun limit => ?_⟩
    · exact (List.mem_append.mp among).elim (low' e) (low e)
    · exact (bind_of_ok (run limit)).trans (run' limit)
  · exact ⟨_, s₁, first, trace, low, fun limit => bind_of_failed (run limit)⟩
  · exact ⟨_, s₁, first, trace, low, fun limit => bind_of_panicked (run limit)⟩

theorem attempt (hx : Level x) : Level (attempt x) := by
  intro s
  obtain ⟨o, s₁, events, trace, low, run⟩ := hx s
  refine ⟨o.map .ok, s₁, events, trace, low, fun limit => ?_⟩
  rw [Eval.attempt, run limit]

theorem cleanup {cleanup : Eval Unit} (h : Level cleanup) (o : Outcome α) :
    Level (Eval.attempt cleanup >>= fun c => Eval.ofOutcome (o.afterCleanup c)) :=
  h.attempt.bind fun _ => ofOutcome _

theorem setLine (n : Nat) : Level (setLine n) := fun s =>
  .silent { s with context := { s.context with line := n } } rfl fun _ => rfl

theorem failHere (c : Cause) : Level (failHere c : Eval α) := fun s =>
  .silent (o := some (.failed (Failure.attach s.context.backtrace ⟨c, none⟩))) s rfl fun _ => rfl

theorem updateStore (g : Store → Store) : Level (updateStore g) :=
  of_backstage (.updateStore g)

theorem popFrame : Level popFrame := by
  intro s
  cases frames : s.context.frames with
  | nil =>
    exact .silent s rfl fun limit => popFrame_empty (s := s.limitedTo limit) frames
  | cons f rest =>
    exact .told (s.move .framePopped s.context.backtrace rest) rfl (fun _ => trivial)
      fun limit => popFrame_run (s := s.limitedTo limit) frames

theorem popFrames (n : Nat) : Level (popFrames n) := by
  induction n with
  | zero => exact pure ()
  | succ n ih => exact popFrame.bind fun _ => ih

theorem popEntry : Level popEntry := by
  intro s
  cases backtrace : s.context.backtrace with
  | nil =>
    let message := "CallContext::pop_backtrace() on empty backtrace stack"
    refine .silent (o := some (.panicked message)) s rfl fun limit => ?_
    rw [Eval.popEntry, context_bind]
    simp only [State.limitedTo, backtrace]
    rfl
  | cons e rest =>
    exact .told (s.move .left rest s.context.frames) rfl (fun _ => trivial)
      fun limit => popEntry_run (s := s.limitedTo limit) backtrace

end Level

namespace Forked

variable {stops : Failure → Outcome α → Prop} {r r' : Option (Outcome α) × State}

/-- The start of two runs can be put back over what they have in common. -/
theorem back (h : Forked m stops p r r') {before : List Event} (trace : p.trace = before ++ s.trace)
    (low : ∀ e ∈ before, e.Within m) : Forked m stops s r r' := by
  cases h with
  | along trace' low' =>
    rw [trace, ← List.append_assoc] at trace'
    exact .along trace' fun e among => (List.mem_append.mp among).elim (low' e) (low e)
  | apart parted trace₁ trace₂ stopped =>
    rw [trace, ← List.append_assoc] at trace₁ trace₂
    exact .apart (parted.after low) trace₁ trace₂ stopped

theorem past (h : Forked m stops p r r') {e : Event} (trace : p.trace = e :: s.trace)
    (low : e.Within m) : Forked m stops s r r' :=
  @back _ _ _ _ _ _ _ h [e] trace (List.forall_mem_singleton.mpr low)

theorem told {o : Option (Outcome α)} {e : Event} (s' : State) (trace : s'.trace = e :: s.trace)
    (low : e.Within m) : Forked m stops s (o, s'.limitedTo none) (o, s'.limitedTo (some m)) :=
  @along _ _ _ _ _ _ [e] trace (List.forall_mem_singleton.mpr low)

theorem onward (h : Forked m stops s r r') : Onward s r := by
  cases h with
  | along trace low => exact ⟨_, _, rfl, trace⟩
  | apart parted trace₁ trace₂ stopped => exact ⟨_, _, rfl, trace₁⟩

/-- Once the bound run has been stopped, it does not matter what the free one goes on to do. -/
theorem resumed {s₁ s₂ : State} {o' : Outcome α} {backtrace : Backtrace} {free bound : List Event}
    (parted : Parted m backtrace free bound) (trace₁ : s₁.trace = free ++ s.trace)
    (trace₂ : s₂.trace = bound ++ s.trace) (stopped : stops (overflow m backtrace) o')
    (go : Onward s₁ r) : Forked m stops s r (some o', s₂) := by
  obtain ⟨s', events, state, trace⟩ := go
  obtain ⟨o, left⟩ := r
  obtain rfl : left = s'.limitedTo none := state
  rw [trace₁, ← List.append_assoc] at trace
  exact .apart (parted.later events) trace trace₂ stopped

/-- The limit stops a run right here. -/
theorem refused {s₂ : State} {o' : Outcome α} (f : Frame) (high : m ≤ s.context.frames.length)
    (trace : s₂.trace = .moved .frameRefused s.context.backtrace s.context.frames :: s.trace)
    (stopped : stops (overflow m s.context.backtrace) o')
    (go : Onward (s.move .framePushed s.context.backtrace (f :: s.context.frames)) r) :
    Forked m stops s r (some o', s₂) :=
  have parted : Parted m s.context.backtrace
      [.moved .framePushed s.context.backtrace (f :: s.context.frames)]
      [.moved .frameRefused s.context.backtrace s.context.frames] :=
    @Parted.intro m s.context.backtrace [] [] [] f s.context.frames (List.forall_mem_nil _) high
      (List.forall_mem_nil _)
  resumed parted rfl trace stopped go

end Forked

namespace ForksAt

variable {x : Eval α}

theorem bind {k : α → Eval β} {stops : Failure → Outcome α → Prop}
    {stops' : Failure → Outcome β → Prop} (hx : ForksAt m stops x s)
    (hk : ∀ a, Forks m stops' (k a))
    (unwind : ∀ f o s₂, f.cause = .stackOverflow m → stops f o →
      x (s.limitedTo (some m)) = (some o, s₂) →
      Unwound m stops' f s₂ ((x >>= k) (s.limitedTo (some m)))) :
    ForksAt m stops' (x >>= k) s := by
  unfold ForksAt at hx ⊢
  generalize left : x (s.limitedTo none) = r at hx
  generalize right : x (s.limitedTo (some m)) = r' at hx unwind
  cases hx with
  | @along o s' events trace low =>
    rcases o with _ | a | f | t
    · rw [bind_of_none left, bind_of_none right]
      exact .along trace low
    · rw [bind_of_ok left, bind_of_ok right]
      exact (hk a s').back trace low
    · rw [bind_of_failed left, bind_of_failed right]
      exact .along trace low
    · rw [bind_of_panicked left, bind_of_panicked right]
      exact .along trace low
  | @apart o o' s₁ s₂ backtrace free bound parted trace₁ trace₂ stopped =>
    obtain ⟨o'', s₃, events, run, stopped', trace₃, unwinds⟩ :=
      unwind _ o' s₂ (overflow_cause m backtrace) stopped rfl
    rw [run]
    rw [trace₂, ← List.append_assoc] at trace₃
    refine .resumed (parted.unwound unwinds) trace₁ trace₃ stopped' ?_
    rcases o with _ | a | f | t
    · exact ⟨s₁, [], congrArg Prod.snd (bind_of_none left), rfl⟩
    · rw [bind_of_ok left]
      exact (hk a s₁).onward
    · exact ⟨s₁, [], congrArg Prod.snd (bind_of_failed left), rfl⟩
    · exact ⟨s₁, [], congrArg Prod.snd (bind_of_panicked left), rfl⟩

theorem attempt (hx : ForksAt m FailsWith x s) : ForksAt m Catches (attempt x) s := by
  unfold ForksAt at hx ⊢
  generalize left : x (s.limitedTo none) = r at hx
  generalize right : x (s.limitedTo (some m)) = r' at hx
  cases hx with
  | @along o s' events trace low =>
    rw [Eval.attempt, Eval.attempt, left, right]
    exact .along trace low
  | @apart o o' s₁ s₂ backtrace free bound parted trace₁ trace₂ stopped =>
    obtain rfl := stopped
    rw [Eval.attempt, Eval.attempt, left, right]
    exact .apart parted trace₁ trace₂ rfl

end ForksAt

theorem Forks.bind {x : Eval α} {k : α → Eval β} (hx : Forks m FailsWith x)
    (hk : ∀ a, Forks m FailsWith (k a)) : Forks m FailsWith (x >>= k) := by
  refine fun s => (hx s).bind hk fun f o s₂ _ stopped run => ?_
  obtain rfl := stopped
  exact ⟨_, s₂, [], bind_of_failed run, rfl, rfl, List.forall_mem_nil _⟩

namespace ForksAt

variable {x : Eval α}

/-- The run under a limit is the run without one if that keeps within the limit. -/
theorem same (hx : ForksAt m FailsWith x s)
    (low : ∀ e ∈ (x (s.limitedTo none)).2.since s, e.Within m) :
    x (s.limitedTo (some m)) =
      ((x (s.limitedTo none)).1, (x (s.limitedTo none)).2.limitedTo (some m)) := by
  unfold ForksAt at hx
  generalize x (s.limitedTo none) = r at hx low ⊢
  generalize x (s.limitedTo (some m)) = r' at hx ⊢
  cases hx with
  | along => rfl
  | @apart o o' s₁ s₂ backtrace free bound parted trace₁ =>
    rw [@State.since_of_append s (s₁.limitedTo none) free trace₁] at low
    exact absurd low parted.beyond

/-- Otherwise the limit stops the run. -/
theorem parts (hx : ForksAt m FailsWith x s)
    (high : ¬ ∀ e ∈ (x (s.limitedTo none)).2.since s, e.Within m) :
    ∃ backtrace s', x (s.limitedTo (some m)) = (some (.failed (overflow m backtrace)), s') ∧
      Parted m backtrace ((x (s.limitedTo none)).2.since s) (s'.since s) := by
  unfold ForksAt at hx
  generalize x (s.limitedTo none) = r at hx high ⊢
  generalize x (s.limitedTo (some m)) = r' at hx ⊢
  cases hx with
  | @along o s' events trace low =>
    rw [@State.since_of_append s (s'.limitedTo none) events trace] at high
    exact absurd low high
  | @apart o o' s₁ s₂ backtrace free bound parted trace₁ trace₂ stopped =>
    obtain rfl := stopped
    rw [← @State.since_of_append s (s₁.limitedTo none) free trace₁,
      ← State.since_of_append trace₂] at parted
    exact ⟨backtrace, s₂, rfl, parted⟩

/-- A run that the limit does not stop keeps within it, and does so without it as well. -/
theorem low_of_ended (hx : ForksAt m FailsWith x s) {o : Outcome α} {s' : State}
    (ended : x (s.limitedTo (some m)) = (some o, s'))
    (other : ∀ f, o = .failed f → f.cause ≠ .stackOverflow m) :
    ∀ e ∈ (x (s.limitedTo none)).2.since s, e.Within m := by
  refine Classical.byContradiction fun high => ?_
  obtain ⟨backtrace, s₂, stopped, -⟩ := hx.parts high
  rw [ended] at stopped
  cases stopped
  exact other _ rfl (overflow_cause m backtrace)

theorem free_of_ended (hx : ForksAt m FailsWith x s) {o : Outcome α} {s' : State}
    (ended : x (s.limitedTo (some m)) = (some o, s'))
    (other : ∀ f, o = .failed f → f.cause ≠ .stackOverflow m) :
    ∃ s₁, x (s.limitedTo none) = (some o, s₁) := by
  have same := (hx.same (hx.low_of_ended ended other)).symm.trans ended
  exact ⟨_, Prod.ext (Prod.mk.inj same).1 rfl⟩

end ForksAt

/-- A push is where the runs part, if the limit does not allow it. -/
theorem pushFrame_forks (f : Frame) : Forks m FailsWith (pushFrame f) := by
  intro s
  have free : (s.limitedTo none).context.exceeded? = none := rfl
  rw [ForksAt, pushFrame_run free]
  rcases s.room_or_full m with ⟨low, room⟩ | ⟨high, full⟩
  · rw [pushFrame_run room]
    exact .told (s.move .framePushed s.context.backtrace (f :: s.context.frames)) rfl low
  · rw [pushFrame_refused full]
    exact .refused f high rfl rfl ⟨_, [], rfl, rfl⟩

/-! ## Cleanups -/

/-- A cleanup that does its work, and does nothing else but unwind. -/
def Cleans (m : Nat) (cleanup : Eval Unit) (s : State) : Prop :=
  ∃ (s' : State) (events : List Event), cleanup s = (some (.ok ()), s') ∧
    s'.trace = events ++ s.trace ∧ ∀ e ∈ events, e.Unwinds m

namespace Cleans

theorem popFrame {f : Frame} {rest : List Frame} (frames : s.context.frames = f :: rest) :
    Cleans m popFrame s := by
  refine ⟨_, [.moved .framePopped s.context.backtrace rest], popFrame_run frames, rfl, ?_⟩
  exact List.forall_mem_singleton.mpr trivial

theorem popFrames {pushed base : List Frame} (frames : s.context.frames = pushed ++ base) :
    Cleans m (popFrames pushed.length) s := by
  induction pushed generalizing s with
  | nil => exact ⟨s, [], rfl, rfl, List.forall_mem_nil _⟩
  | cons f rest ih =>
    let s₁ := s.move .framePopped s.context.backtrace (rest ++ base)
    obtain ⟨s', events, run, trace, unwinds⟩ := ih (s := s₁) rfl
    refine ⟨s', events ++ [.moved .framePopped s.context.backtrace (rest ++ base)],
      (bind_of_ok (popFrame_run frames)).trans run, ?_, fun e among => ?_⟩
    · rw [trace, List.append_assoc]
      rfl
    · refine (List.mem_append.mp among).elim (unwinds e) fun popped => ?_
      rw [List.mem_singleton.mp popped]
      trivial

theorem popEntry {e : Entry} {rest : Backtrace} (backtrace : s.context.backtrace = e :: rest) :
    Cleans m (do let _ ← popEntry) s := by
  refine ⟨_, [.moved .left rest s.context.frames], bind_of_ok (popEntry_run backtrace), rfl, ?_⟩
  exact List.forall_mem_singleton.mpr trivial

end Cleans

namespace ForksAt

variable {x : Eval α} {cleanup : Eval Unit}

/-- A cleanup unwinds the run that has been stopped, and changes nothing about its failure. -/
theorem ensuring (hx : ForksAt m FailsWith x s) (level : Level cleanup)
    (clean : ∀ f s₂, x (s.limitedTo (some m)) = (some (.failed f), s₂) → Cleans m cleanup s₂) :
    ForksAt m FailsWith (ensuring x cleanup) s := by
  refine hx.attempt.bind (fun o => (level.cleanup o).forks m _) fun f o s₂ _ caught run => ?_
  obtain rfl := caught
  have failed := attempt_ok run
  obtain ⟨s₃, events, cleaned, trace, unwinds⟩ := clean f s₂ failed
  exact ⟨_, s₃, events, ensuring_of_ended failed cleaned, rfl, trace, unwinds⟩

/-- The failure of a run that has been stopped above an entry has its backtrace already. -/
theorem attaching (hx : ForksAt m FailsWith x s) (balanced : Keeps Balance x) {e : Entry}
    {rest : Backtrace} (top : s.context.backtrace = e :: rest) :
    ForksAt m FailsWith (attaching x) s := by
  unfold ForksAt at hx ⊢
  generalize left : x (s.limitedTo none) = r at hx
  generalize right : x (s.limitedTo (some m)) = r' at hx
  cases hx with
  | @along o s' events trace low =>
    rcases o with _ | o
    · rw [attaching_of_none left, attaching_of_none right]
      exact .along trace low
    · rw [attaching_of_ended left, attaching_of_ended right]
      exact .along trace low
  | @apart o o' s₁ s₂ backtrace free bound parted trace₁ trace₂ stopped =>
    obtain rfl := stopped
    rw [attaching_of_ended right]
    obtain ⟨frames, told⟩ := parted.refused_mem
    rw [← State.since_of_append (s := s.limitedTo (some m)) trace₂] at told
    have under : e :: rest <:+ backtrace := top ▸ ((balanced.of_ended right).events _ told).1
    have same : Failure.attach s₂.context.backtrace (overflow m backtrace) =
        overflow m backtrace := by
      cases backtrace with
      | nil => cases List.suffix_nil.mp under
      | cons e' rest' => exact attach_overflow m _ e' rest'
    refine .resumed parted trace₁ trace₂ (congrArg Outcome.failed same) ⟨s₁, [], ?_, rfl⟩
    rcases o with _ | o
    · exact congrArg Prod.snd (attaching_of_none left)
    · exact congrArg Prod.snd (attaching_of_ended left)

end ForksAt

namespace Forks

variable {x : Eval α}

theorem holding (engine : Nat) (hx : Forks m FailsWith x) :
    Forks m FailsWith (holding engine x) := by
  intro s
  have hold := Level.updateStore fun st => { st with running := engine :: st.running }
  refine (((hold.forks m _).bind fun _ => hx) s).ensuring (.updateStore _) fun f s₂ _ => ?_
  exact ⟨s₂.released engine, [], rfl, rfl, List.forall_mem_nil _⟩

theorem withProtocol (balanced : Keeps Balance x) (hx : Forks m FailsWith x) (explicit : Bool)
    (f : Frame) : Forks m FailsWith (withProtocol explicit f x) := by
  cases explicit with
  | true => exact hx
  | false =>
    intro s
    let s₁ := s.move .framePushed s.context.backtrace (f :: s.context.frames)
    have free : (s.limitedTo none).context.exceeded? = none := rfl
    have inner : ForksAt m FailsWith (ensuring x popFrame) s₁ :=
      (hx s₁).ensuring .popFrame fun f' s₂ failed =>
        .popFrame ((balanced.of_ended failed).frames rfl)
    rw [ForksAt, withProtocol_of_pushed free]
    rcases s.room_or_full m with ⟨low, room⟩ | ⟨high, full⟩
    · rw [withProtocol_of_pushed room]
      exact inner.past rfl low
    · rw [withProtocol_refused full]
      exact .refused f high rfl rfl inner.onward

theorem withBacktrace (balanced : Keeps Balance x) (hx : Forks m FailsWith x) (e : Entry) :
    Forks m FailsWith (withBacktrace e x) := by
  intro s
  let s₁ := s.entered e
  have popped : Level (do let _ ← popEntry) := Level.popEntry.bind fun _ => .pure ()
  have inner : ForksAt m FailsWith _ s₁ :=
    ((hx s₁).attaching balanced rfl).ensuring popped fun f s₂ failed =>
      .popEntry ((balanced.attaching.of_ended failed).backtrace rfl)
  exact inner.past rfl trivial

end Forks

end Eval

end BodyCall
