import BodyCall.Engine
import BodyCall.Proofs.Computation

/-!
# More depth changes nothing

The depth of calls only decides whether a run comes to its end. A run that does, does so in the same
way at every greater depth. A computation lies below another if each of its ends is also an end of
the other; what is made of computations lies below what is made of greater ones, so one induction on
the depth is enough.
-/

namespace BodyCall

namespace Eval

variable {α β : Type} {x y : Eval α}

/-- Where the first computation ends, the second one ends in the same way. -/
def Below (x y : Eval α) : Prop := ∀ s o s', x s = (some o, s') → y s = (some o, s')

namespace Below

theorem refl (x : Eval α) : Below x x := fun _ _ _ h => h

theorem exhausted (y : Eval α) : Below exhausted y := by
  intro s o s' h
  cases h

theorem bind {k l : α → Eval β} (hx : Below x y) (hk : ∀ a, Below (k a) (l a)) :
    Below (x >>= k) (y >>= l) := by
  intro s o s' h
  rcases first : x s with ⟨_ | a | f | t, s₁⟩
  · rw [bind_of_none first] at h
    cases h
  · rw [bind_of_ok first] at h
    rw [bind_of_ok (hx s _ s₁ first)]
    exact hk a s₁ o s' h
  · rw [bind_of_failed first] at h
    rw [bind_of_failed (hx s _ s₁ first)]
    exact h
  · rw [bind_of_panicked first] at h
    rw [bind_of_panicked (hx s _ s₁ first)]
    exact h

theorem before (hx : Below x y) (k : α → Eval β) : Below (x >>= k) (y >>= k) :=
  bind hx fun a => refl (k a)

theorem after (z : Eval α) {k l : α → Eval β} (hk : ∀ a, Below (k a) (l a)) :
    Below (z >>= k) (z >>= l) :=
  bind (refl z) hk

theorem attempt (hx : Below x y) : Below (attempt x) (attempt y) := by
  intro s o s' h
  rcases first : x s with ⟨_ | o₁, s₁⟩
  · rw [attempt_of_none first] at h
    cases h
  · rw [attempt_of_ended first] at h
    rw [attempt_of_ended (hx s o₁ s₁ first)]
    exact h

theorem ensuring (hx : Below x y) (cleanup : Eval Unit) :
    Below (ensuring x cleanup) (ensuring y cleanup) :=
  hx.attempt.before _

theorem holding (engine : Nat) (hx : Below x y) : Below (holding engine x) (holding engine y) :=
  ensuring (after _ fun _ => hx) _

theorem withBacktrace (e : Entry) (hx : Below x y) : Below (x.withBacktrace e) (y.withBacktrace e) :=
  after _ fun _ => ensuring (hx.attempt.before _) _

theorem withProtocol (explicit : Bool) (f : Frame) (hx : Below x y) :
    Below (x.withProtocol explicit f) (y.withProtocol explicit f) := by
  refine after _ fun pushed => ?_
  cases pushed with
  | false => exact hx
  | true => exact hx.ensuring popFrame

/-! ## Readiness -/

variable {source : Scope → Nat → Store → Lowering} {ready ready' : Body → Settings → Eval Sequence}

theorem reenterAll (hr : ∀ b settings, Below (ready b settings) (ready' b settings))
    (reentries : List (Body × Setup)) :
    Below (reenterAll ready reentries) (reenterAll ready' reentries) := by
  induction reentries with
  | nil => exact refl _
  | cons r rest ih =>
    obtain ⟨b, setup⟩ := r
    exact bind (after _ fun _ => (hr b _).attempt.before _) fun _ => ih

theorem lower (hr : ∀ b settings, Below (ready b settings) (ready' b settings)) (scope : Scope) :
    Below (lower source ready scope) (lower source ready' scope) :=
  after _ fun _ => after _ fun _ => after _ fun _ => (reenterAll hr _).before _

theorem readyAt {depth depth' : Nat} (deeper : depth ≤ depth') (b : Body) (settings : Settings) :
    Below (readyAt source depth b settings) (readyAt source depth' b settings) := by
  induction depth generalizing depth' b settings with
  | zero => exact exhausted _
  | succ depth ih =>
    obtain ⟨depth', rfl⟩ := Nat.exists_eq_add_of_le' deeper
    refine after _ fun st => ?_
    cases st.sequence? b with
    | some seq => exact refl _
    | none =>
      -- the installation makes no request, so only the preparation has to be compared
      have lowered := @lower source _ _ (ih (Nat.le_of_succ_le_succ deeper)) b.scope
      exact (lowered.before _).before _

end Below

end Eval

/-! ## Runs of bodies and sequences -/

/-- What can be reached through the first, can be through the second. -/
structure Reach.Below (r r' : Reach) : Prop where
  ready : ∀ b settings, (r.ready b settings).Below (r'.ready b settings)
  interpret : ∀ h i seq, (r.interpret h i seq).Below (r'.interpret h i seq)

variable {r r' : Reach}

theorem Body.invoke_below (hr : r.Below r') (b : Body) (c : Call) (block : Block) :
    (b.invoke r c block).Below (b.invoke r' c block) := by
  refine .after _ fun _ => .bind (.after _ fun _ => hr.ready b _) fun seq => ?_
  refine .withProtocol _ _ ?_
  unfold Body.dispatch
  cases b.scope.label? with
  | none => exact .refl _
  | some label => exact .after _ fun _ => .withBacktrace _ (hr.interpret _ _ _)

namespace Interpreter

theorem execute_below (hr : r.Below r') (engine : Nat) (i : Invocation) (seq : Sequence) (own : Nat)
    (last : Value) (instr : Instr) :
    (execute r engine i seq own last instr).Below (execute r' engine i seq own last instr) := by
  cases instr with
  | define scope =>
    exact .before (.after _ fun _ => .after _ fun b => b.invoke_below hr _ _) _
  | _ => exact .refl _

theorem run_below (hr : r.Below r') (engine : Nat) (i : Invocation) (seq : Sequence) (own : Nat)
    (last : Value) (instrs : List Instr) :
    (run r engine i seq own last instrs).Below (run r' engine i seq own last instrs) := by
  induction instrs generalizing own last with
  | nil => exact .refl _
  | cons instr rest ih =>
    refine .bind (execute_below hr engine i seq own last instr).attempt fun o => ?_
    cases o with
    | ok result => exact ih _ _
    | _ => exact .refl _

theorem interpret_below (hr : r.Below r') (engine : Nat) (i : Invocation) (seq : Sequence) :
    (interpret r engine i seq).Below (interpret r' engine i seq) :=
  (run_below hr engine i seq 0 .nil seq.instrs).before _

end Interpreter

namespace Env

variable {source : Scope → Nat → Store → Lowering}

theorem interpretAt_below {depth depth' : Nat} (deeper : depth ≤ depth') (h : Handle)
    (i : Invocation) (seq : Sequence) :
    ((interpreting source).interpretAt depth h i seq).Below
      ((interpreting source).interpretAt depth' h i seq) := by
  induction depth generalizing depth' h i seq with
  | zero => exact .exhausted _
  | succ depth ih =>
    obtain ⟨depth', rfl⟩ := Nat.exists_eq_add_of_le' deeper
    have deeper := Nat.le_of_succ_le_succ deeper
    refine .after _ fun st => ?_
    split
    · exact .holding _ (Interpreter.interpret_below ⟨.readyAt deeper, ih deeper⟩ _ i seq)
    · exact .refl _

theorem reach_below {depth depth' : Nat} (deeper : depth ≤ depth') :
    ((interpreting source).reach depth).Below ((interpreting source).reach depth') :=
  ⟨.readyAt deeper, interpretAt_below deeper⟩

end Env

/-- A body that is invoked at two depths, and ends at both, ends in the same way. -/
theorem Body.invoke_unique {source : Scope → Nat → Store → Lowering} {b : Body} {c : Call}
    {block : Block} {depth depth' : Nat} {s s₁ s₂ : State} {o₁ o₂ : Outcome Value}
    (h₁ : b.invoke ((Env.interpreting source).reach depth) c block s = (some o₁, s₁))
    (h₂ : b.invoke ((Env.interpreting source).reach depth') c block s = (some o₂, s₂)) :
    o₁ = o₂ ∧ s₁ = s₂ := by
  have deeper := b.invoke_below (Env.reach_below (Nat.le_max_left depth depth')) c block s o₁ s₁ h₁
  have same := b.invoke_below (Env.reach_below (Nat.le_max_right depth depth')) c block s o₂ s₂ h₂
  rw [deeper] at same
  cases same
  exact ⟨rfl, rfl⟩

end BodyCall
