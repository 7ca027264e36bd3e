import BodyCall.Proofs.Course

/-!
# Trees of guarded scopes

Scopes that open an entry or a frame, and close it on every way out, nested and put after one another
in any shape. Whatever such a tree comes to, it leaves the context that it found. What it comes to
can be told without running it: the first place that stops decides, and how far a failure from there
has to go until it is given a backtrace depends on the guards around that place alone.
-/

namespace BodyCall

/-- What opens a scope. -/
inductive Guard where
  | backtraced (e : Entry)
  | withBacktrace (e : Entry)
  | protocol (explicit : Bool) (f : Frame)

/-- The leaves return, fail or panic. -/
inductive GuardTree (α : Type) where
  | leaf (o : Outcome α)
  | within (g : Guard) (body : GuardTree α)
  | sequence (first rest : GuardTree α)

variable {α : Type}

namespace Guard

def scope (g : Guard) (x : Eval α) : Eval α :=
  match g with
  | backtraced e => x.underEntry e
  | withBacktrace e => x.withBacktrace e
  | protocol explicit f => x.withProtocol explicit f

def entry? : Guard → Option Entry
  | backtraced e | withBacktrace e => some e
  | protocol .. => none

def frame? : Guard → Option Frame
  | protocol false f => some f
  | backtraced _ | withBacktrace _ | protocol true _ => none

def attaches : Guard → Bool
  | withBacktrace _ => true
  | backtraced _ | protocol .. => false

end Guard

/-- Runs a tree. What fails or panics ends all that is around it. -/
def GuardTree.run : GuardTree α → Eval α
  | leaf o => Eval.ofOutcome o
  | within g body => g.scope body.run
  | sequence first rest => do
    let _ ← first.run
    rest.run

/-! ## What a tree comes to -/

/-- The context inside guards, the innermost of which is in front. -/
def Context.within (c : Context) (path : List Guard) : Context :=
  { c with
    backtrace := path.filterMap Guard.entry? ++ c.backtrace
    frames := path.filterMap Guard.frame? ++ c.frames }

/-- The backtrace for a failure from inside guards. It is that of the innermost of them that attaches
one, and there the entries of the guards further in are gone. -/
def Context.givenBacktrace (c : Context) (path : List Guard) : Option Backtrace :=
  match path.dropWhile fun g => !g.attaches with
  | [] => none
  | g :: outer => some (c.within (g :: outer)).backtrace

inductive Place (α : Type) where
  | leaf (path : List Guard) (o : Outcome α)
  /-- The push of a frame. -/
  | frame (path : List Guard)

structure Stop (α : Type) where
  outcome : Outcome α
  /-- Both stacks when a frame was refused. -/
  refused : Option (Backtrace × List Frame) := none

def Stop.overflow (c : Context) (max : Nat) : Stop α where
  outcome := .failed
    ⟨.stackOverflow max, if c.backtrace.isEmpty then none else some c.backtrace⟩
  refused := some (c.backtrace, c.frames)

namespace Place

def under (g : Guard) : Place α → Place α
  | leaf path o => leaf (path ++ [g]) o
  | frame path => frame (path ++ [g])

/-- How a tree that is run in a context stops at a place, if it does. -/
def stop? (c : Context) : Place α → Option (Stop α)
  | leaf _ (.ok _) => none
  | leaf path (.failed f) =>
    some { outcome := .failed ⟨f.cause, f.backtrace.or (c.givenBacktrace path)⟩ }
  | leaf _ (.panicked message) => some { outcome := .panicked message }
  | frame path => (c.within path).exceeded?.map (.overflow (c.within path))

end Place

namespace GuardTree

/-- The places of a tree, in the order in which a run comes to them. -/
def places : GuardTree α → List (Place α)
  | leaf o => [.leaf [] o]
  | within g body => (g.frame?.toList.map fun _ => .frame []) ++ body.places.map (.under g)
  | sequence first rest => first.places ++ rest.places

def last : GuardTree α → Outcome α
  | leaf o => o
  | within _ body => body.last
  | sequence _ rest => rest.last

def stop? (c : Context) (t : GuardTree α) : Option (Stop α) := t.places.findSome? (·.stop? c)

/-- The outcome of the first place that stops, or else of the last leaf. -/
def outcome (c : Context) (t : GuardTree α) : Outcome α :=
  match t.stop? c with
  | some stop => stop.outcome
  | none => t.last

end GuardTree

/-! ## Guards and contexts -/

theorem Context.within_append (c : Context) (path : List Guard) (g : Guard) :
    c.within (path ++ [g]) = (c.within [g]).within path := by
  simp [within, List.filterMap_append]

theorem Context.givenBacktrace_append (c : Context) (path : List Guard) (g : Guard) :
    c.givenBacktrace (path ++ [g]) = ((c.within [g]).givenBacktrace path).or
      (if g.attaches then some (c.within [g]).backtrace else none) := by
  unfold givenBacktrace
  rw [List.dropWhile_append]
  cases inner : path.dropWhile fun g => !g.attaches with
  | nil => cases attaches : g.attaches <;> simp [attaches]
  | cons g' rest => simpa using congrArg backtrace (c.within_append (g' :: rest) g)

namespace Guard

variable {g : Guard} {c : Context}

/-- What a guard makes of the outcome of its scope. -/
def leave (g : Guard) (c : Context) (o : Outcome α) : Outcome α :=
  if g.attaches then o.mapFailure (·.attach (c.within [g]).backtrace) else o

def leaving (g : Guard) (c : Context) (stop : Stop α) : Stop α :=
  { stop with outcome := g.leave c stop.outcome }

theorem leave_failed (g : Guard) (c : Context) (f : Failure) :
    g.leave c (.failed f : Outcome α) = .failed
      ⟨f.cause, f.backtrace.or (if g.attaches then some (c.within [g]).backtrace else none)⟩ := by
  obtain ⟨cause, backtrace⟩ := f
  cases g <;> cases backtrace <;> rfl

theorem leave_ok (g : Guard) (c : Context) (a : α) : g.leave c (.ok a) = .ok a := by
  unfold leave
  split <;> rfl

theorem attaches_inside (h : g.attaches = true) (c : Context) (path : List Guard) :
    ((c.within [g]).within path).backtrace ≠ [] := by
  cases g with
  | withBacktrace e => exact List.append_ne_nil_of_right_ne_nil _ (List.cons_ne_nil e _)
  | backtraced e => cases h
  | protocol explicit f => cases h

end Guard

theorem Place.stop?_under (g : Guard) (c : Context) (p : Place α) :
    (p.under g).stop? c = (p.stop? (c.within [g])).map (g.leaving c) := by
  cases p with
  | leaf path o =>
    cases o with
    | ok a => rfl
    | failed f =>
      simp only [under, stop?, Option.map, Guard.leaving, Guard.leave_failed]
      rw [c.givenBacktrace_append, Option.or_assoc]
    | panicked message =>
      simp only [under, stop?, Option.map, Guard.leaving, Guard.leave]
      split <;> rfl
  | frame path =>
    -- inside a guard that attaches the stack has an entry, so an overflow there has its backtrace
    simp only [under, stop?, c.within_append, Option.map_map]
    congr 1
    funext max
    have full : g.attaches = true → ((c.within [g]).within path).backtrace ≠ [] :=
      fun h => Guard.attaches_inside h c path
    simp only [Function.comp, Stop.overflow, Guard.leaving, Guard.leave_failed]
    generalize ((c.within [g]).within path).backtrace = running at full ⊢
    cases running with
    | nil =>
      cases attaches : g.attaches with
      | false => rfl
      | true => exact absurd rfl (full attaches)
    | cons e rest => rfl

namespace GuardTree

theorem stop?_within (g : Guard) (body : GuardTree α) (c : Context) :
    (within g body).stop? c = ((g.frame?.bind fun _ => c.exceeded?).map (.overflow c)).or
      ((body.stop? (c.within [g])).map (g.leaving c)) := by
  have inner : (body.places.map (Place.under g)).findSome? (Place.stop? c) =
      (body.stop? (c.within [g])).map (g.leaving c) := by
    rw [List.findSome?_map, stop?, List.map_findSome?]
    exact congrArg (List.findSome? · body.places) (funext (Place.stop?_under g c))
  rw [stop?, places, List.findSome?_append, inner]
  cases g.frame? with
  | none => rfl
  | some f =>
    have here : (.frame [] : Place α).stop? c = c.exceeded?.map (.overflow c) := rfl
    simp [here]

theorem stop?_sequence (first rest : GuardTree α) (c : Context) :
    (sequence first rest).stop? c = (first.stop? c).or (rest.stop? c) :=
  List.findSome?_append

end GuardTree

theorem Place.stop?_not_ok {c : Context} {p : Place α} {stop : Stop α} (h : p.stop? c = some stop)
    (a : α) : stop.outcome ≠ .ok a := by
  cases p with
  | leaf path o =>
    cases o with
    | ok a => cases h
    | failed f =>
      cases h
      exact nofun
    | panicked message =>
      cases h
      exact nofun
  | frame path =>
    obtain ⟨max, -, rfl⟩ := Option.map_eq_some_iff.mp h
    exact nofun

namespace GuardTree

theorem outcome_of_stop {c : Context} {t : GuardTree α} {stop : Stop α} (h : t.stop? c = some stop) :
    t.outcome c = stop.outcome := by
  rw [outcome, h]

theorem outcome_of_unstopped {c : Context} {t : GuardTree α} (h : t.stop? c = none) :
    t.outcome c = t.last := by
  rw [outcome, h]

theorem stop?_not_ok {c : Context} {t : GuardTree α} {stop : Stop α} (h : t.stop? c = some stop)
    (a : α) : stop.outcome ≠ .ok a := by
  obtain ⟨p, -, stops⟩ := List.exists_of_findSome?_eq_some h
  exact Place.stop?_not_ok stops a

theorem last_of_unstopped {c : Context} {t : GuardTree α} (h : t.stop? c = none) :
    ∃ a, t.last = .ok a := by
  induction t generalizing c with
  | leaf o =>
    cases o with
    | ok a => exact ⟨a, rfl⟩
    | failed f => cases h
    | panicked message => cases h
  | within g body ih =>
    rw [stop?_within, Option.or_eq_none_iff] at h
    exact ih (Option.map_eq_none_iff.mp h.2)
  | sequence first rest _ ih =>
    rw [stop?_sequence, Option.or_eq_none_iff] at h
    exact ih h.2

theorem outcome_within {g : Guard} {body : GuardTree α} {c : Context}
    (entered : (within g body).stop? c = (body.stop? (c.within [g])).map (g.leaving c)) :
    (within g body).outcome c = g.leave c (body.outcome (c.within [g])) := by
  cases stopped : body.stop? (c.within [g]) with
  | some here =>
    rw [stopped] at entered
    rw [outcome_of_stop stopped, outcome_of_stop entered]
    rfl
  | none =>
    rw [stopped] at entered
    obtain ⟨a, last⟩ := last_of_unstopped stopped
    rw [outcome_of_unstopped stopped, outcome_of_unstopped entered, GuardTree.last, last,
      Guard.leave_ok]

end GuardTree

/-! ## Runs of trees -/

open Eval

def Event.refused? : Event → Option (Backtrace × List Frame)
  | .moved .frameRefused backtrace frames => some (backtrace, frames)
  | _ => none

/-- All that has been opened between the states is closed again, and only these frames were refused. -/
structure Restored (refused : List (Backtrace × List Frame)) (s s' : State) : Prop where
  context : s'.context = s.context
  store : s'.store = s.store
  told : ∃ events, s'.trace = events ++ s.trace ∧ events.filterMap Event.refused? = refused

namespace Restored

variable {refused : List (Backtrace × List Frame)} {s s₁ s' : State}

theorem refl (s : State) : Restored [] s s := ⟨rfl, rfl, [], rfl, rfl⟩

theorem trans (h : Restored [] s s₁) (h' : Restored refused s₁ s') : Restored refused s s' := by
  obtain ⟨events, trace, nothing⟩ := h.told
  obtain ⟨events', trace', only⟩ := h'.told
  refine ⟨h'.context.trans h.context, h'.store.trans h.store, events' ++ events, ?_, ?_⟩
  · rw [trace', trace, List.append_assoc]
  · rw [List.filterMap_append, nothing, only, List.append_nil]

/-- What is opened before and closed after changes nothing about that. -/
theorem around {m m' : Motion} {backtrace : Backtrace} {frames : List Frame}
    (h : Restored refused (s.move m backtrace frames) s') (opens : m ≠ .frameRefused)
    (closes : m' ≠ .frameRefused) :
    Restored refused s (s'.move m' s.context.backtrace s.context.frames) := by
  obtain ⟨events, trace, only⟩ := h.told
  have silent : ∀ {m b f}, m ≠ .frameRefused → (Event.moved m b f).refused? = none := by
    intro m b f other
    cases m <;> first | rfl | exact absurd rfl other
  let opening : Event := .moved m backtrace frames
  let closing : Event := .moved m' s.context.backtrace s.context.frames
  refine ⟨?_, h.store, closing :: events ++ [opening], ?_, ?_⟩
  · rw [State.move, h.context]
    rfl
  · rw [State.move, trace, List.append_assoc]
    rfl
  · rw [List.filterMap_append, List.filterMap_cons_none (silent closes), only,
      List.filterMap_cons_none (silent opens), List.filterMap_nil, List.append_nil]

end Restored

namespace State

def inside (s : State) : Guard → State
  | .backtraced e | .withBacktrace e => s.entered e
  | .protocol explicit f => s.framed explicit f

def outside (s : State) : Guard → State
  | .backtraced _ | .withBacktrace _ => s.left
  | .protocol explicit _ => s.unframed explicit

theorem inside_context (s : State) (g : Guard) : (s.inside g).context = s.context.within [g] := by
  cases g with
  | backtraced e => rfl
  | withBacktrace e => rfl
  | protocol explicit f => cases explicit <;> rfl

end State

theorem Restored.outside {refused : List (Backtrace × List Frame)} {s s' : State} {g : Guard}
    (h : Restored refused (s.inside g) s') : Restored refused s (s'.outside g) := by
  have entry : ∀ {e}, Restored refused (s.entered e) s' → Restored refused s s'.left := by
    intro e h
    have left : s'.left = s'.move .left s.context.backtrace s.context.frames := by
      rw [State.left, h.context]
      rfl
    rw [left]
    exact h.around (by simp) (by simp)
  cases g with
  | backtraced e => exact entry h
  | withBacktrace e => exact entry h
  | protocol explicit f =>
    cases explicit with
    | true => exact h
    | false =>
      have unframed :
          s'.unframed false = s'.move .framePopped s.context.backtrace s.context.frames := by
        have context : s'.context = _ := h.context
        rw [State.unframed, context]
        rfl
      rw [State.outside, unframed]
      exact Restored.around (m := .framePushed) h (by simp) (by simp)

namespace Guard

variable {x : Eval α} {s s' : State} {g : Guard}

theorem scope_run (room : g.frame?.bind (fun _ => s.context.exceeded?) = none) {o : Outcome α}
    (run : x (s.inside g) = (some o, s')) (same : s'.context = s.context.within [g]) :
    g.scope x s = (some (g.leave s.context o), s'.outside g) := by
  have backtrace := congrArg (·.backtrace) same
  cases g with
  | backtraced e =>
    refine (underEntry_of_ended run backtrace).trans ?_
    rw [State.outside, State.left, backtrace]
    rfl
  | withBacktrace e => exact withBacktrace_left run backtrace
  | protocol explicit f =>
    have admits : s.Admits explicit := by
      cases explicit with
      | true => exact .inl rfl
      | false => exact .inr room
    refine withProtocol_unframed admits run ?_
    rw [same, ← s.inside_context]
    rfl

theorem scope_refused {max : Nat} (full : g.frame?.bind (fun _ => s.context.exceeded?) = some max) :
    g.scope x s =
      (some (.failed (Failure.attach s.context.backtrace ⟨.stackOverflow max, none⟩)),
        s.move .frameRefused s.context.backtrace s.context.frames) := by
  cases g with
  | backtraced e => cases full
  | withBacktrace e => cases full
  | protocol explicit f =>
    cases explicit with
    | true => cases full
    | false => exact withProtocol_refused full

end Guard

namespace GuardTree

def Ends (t : GuardTree α) (s : State) : Prop :=
  ∃ s', t.run s = (some (t.outcome s.context), s') ∧
    Restored ((t.stop? s.context).bind (·.refused)).toList s s'

theorem leaf_ends (o : Outcome α) (s : State) : (leaf o).Ends s := by
  cases o with
  | ok a => exact ⟨s, rfl, .refl s⟩
  | failed f =>
    obtain ⟨cause, backtrace⟩ := f
    cases backtrace <;> exact ⟨s, rfl, .refl s⟩
  | panicked message => exact ⟨s, rfl, .refl s⟩

theorem within_ends {g : Guard} {body : GuardTree α} {s : State} (inner : body.Ends (s.inside g)) :
    (within g body).Ends s := by
  have stop := stop?_within g body s.context
  cases limit : g.frame?.bind (fun _ => s.context.exceeded?) with
  | some max =>
    rw [limit] at stop
    have refused : (within g body).stop? s.context = some (.overflow s.context max) := stop
    have run := Guard.scope_refused (x := body.run) limit
    rw [Failure.attach_new] at run
    refine ⟨_, run.trans (by rw [outcome_of_stop refused]; rfl), ?_⟩
    rw [refused]
    exact ⟨rfl, rfl, [.moved .frameRefused s.context.backtrace s.context.frames], rfl, rfl⟩
  | none =>
    rw [limit, Option.map_none, Option.none_or] at stop
    obtain ⟨s', run, restored⟩ := inner
    rw [s.inside_context] at run restored
    have same : s'.context = s.context.within [g] := restored.context.trans (s.inside_context g)
    refine ⟨s'.outside g, (Guard.scope_run limit run same).trans ?_, ?_⟩
    · rw [outcome_within stop]
    · have unchanged : ((body.stop? (s.context.within [g])).map (g.leaving s.context)).bind
          (·.refused) = (body.stop? (s.context.within [g])).bind (·.refused) := by
        rw [Option.bind_map]
        rfl
      rw [stop, unchanged]
      exact restored.outside

theorem sequence_ends {first rest : GuardTree α} {s : State} (ends : first.Ends s)
    (ends' : ∀ s, rest.Ends s) : (sequence first rest).Ends s := by
  obtain ⟨s₁, run, restored⟩ := ends
  have stop := stop?_sequence first rest s.context
  cases stopped : first.stop? s.context with
  | some here =>
    rw [stopped, Option.some_or] at stop
    rw [stopped] at restored
    rw [outcome_of_stop stopped] at run
    refine ⟨s₁, ?_, by rw [stop]; exact restored⟩
    rw [outcome_of_stop stop]
    cases ended : here.outcome with
    | ok a => exact absurd ended (stop?_not_ok stopped a)
    | failed f => exact bind_of_failed (ended ▸ run)
    | panicked message => exact bind_of_panicked (ended ▸ run)
  | none =>
    rw [stopped, Option.none_or] at stop
    rw [stopped] at restored
    obtain ⟨a, last⟩ := last_of_unstopped stopped
    rw [outcome_of_unstopped stopped, last] at run
    obtain ⟨s', run', restored'⟩ := ends' s₁
    rw [restored.context] at run' restored'
    refine ⟨s', (bind_of_ok run).trans (run'.trans ?_), ?_⟩
    · rw [outcome, outcome, stop]
      rfl
    · rw [stop]
      exact restored.trans restored'

theorem ends (t : GuardTree α) (s : State) : t.Ends s := by
  induction t generalizing s with
  | leaf o => exact leaf_ends o s
  | within g body ih => exact within_ends (ih _)
  | sequence first rest ih ih' => exact sequence_ends (ih s) ih'

/-- However guarded scopes are nested and put after one another, a run ends with the outcome of the
first place that stops, in the context that it started in. A frame is refused only where that place
is the push of one, and then on the stacks of the guards around it: nothing has been pushed for it. -/
theorem run_outcome (t : GuardTree α) (s : State) :
    ∃ s', t.run s = (some (t.outcome s.context), s') ∧ s'.context = s.context ∧
      s'.store = s.store ∧ (s'.since s).filterMap Event.refused? =
        ((t.stop? s.context).bind (·.refused)).toList := by
  obtain ⟨s', run, restored⟩ := t.ends s
  obtain ⟨events, trace, refused⟩ := restored.told
  refine ⟨s', run, restored.context, restored.store, ?_⟩
  rw [State.since_of_append trace, refused]

/-- By the time a failure gets its backtrace, what was open further in is gone. -/
example (c : Context) (outer inner : Entry) (cause : Cause) :
    (within (.withBacktrace outer) (within (.backtraced inner) (leaf (.failed ⟨cause, none⟩))) :
      GuardTree Value).outcome c = .failed ⟨cause, some (outer :: c.backtrace)⟩ := rfl

end GuardTree

end BodyCall
