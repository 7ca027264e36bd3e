import BodyCall.Proofs.Keeps

/-!
# What a run only adds to

A run never changes settings or names, and what has happened, which sequence a body is ready with
and which body an engine has for a scope all stay.
-/

namespace BodyCall

namespace Store

theorem sequence?_install (st : Store) (b b' : Body) (seq : Sequence) :
    (st.install b seq).sequence? b' = if b.id = b'.id then some seq else st.sequence? b' :=
  Table.get?_set st.installed b.id b'.id seq

theorem defined_define (st : Store) (engine engine' : Nat) (scope : Scope) (b : Body) :
    (st.define engine scope b).defined engine' =
      if engine = engine' then (st.defined engine).set scope.id b else st.defined engine' := by
  rw [defined, define, Table.get?_set]
  split <;> rfl

theorem definition?_define (st : Store) (engine engine' : Nat) (scope scope' : Scope) (b : Body) :
    (st.define engine scope b).definition? engine' scope' =
      if engine = engine' ∧ scope.id = scope'.id then some b
      else st.definition? engine' scope' := by
  rw [definition?, defined_define]
  by_cases same : engine = engine'
  · subst same
    rw [if_pos rfl, Table.get?_set]
    simp [definition?]
  · rw [if_neg same, if_neg fun h => same h.1]
    rfl

theorem sequence?_congr {st st' : Store} (installed : st'.installed = st.installed) (b : Body) :
    st'.sequence? b = st.sequence? b := by
  rw [sequence?, installed]
  rfl

theorem definition?_congr {st st' : Store} (definitions : st'.definitions = st.definitions)
    (engine : Nat) (scope : Scope) :
    st'.definition? engine scope = st.definition? engine scope := by
  rw [definition?, defined, definitions]
  rfl

/-- What is there after a step if it was there before. -/
structure Before (st st' : Store) : Prop where
  registry : st'.registry = st.registry
  installed : ∀ b seq, st.sequence? b = some seq → st'.sequence? b = some seq
  defined : ∀ engine scope b,
    st.definition? engine scope = some b → st'.definition? engine scope = some b

theorem Before.refl (st : Store) : st.Before st := ⟨rfl, fun _ _ => id, fun _ _ _ => id⟩

theorem Before.trans {st₁ st₂ st₃ : Store} (h : st₁.Before st₂) (h' : st₂.Before st₃) :
    st₁.Before st₃ :=
  ⟨h'.registry.trans h.registry, fun b seq found => h'.installed b seq (h.installed b seq found),
    fun engine scope b found => h'.defined engine scope b (h.defined engine scope b found)⟩

theorem Step.before {st st' : Store} (h : st.Step st') : st.Before st' := by
  cases h with
  | module | sequence | lowering | hold | release =>
    exact ⟨rfl, fun _ _ found => found, fun _ _ _ found => found⟩
  | @install b seq absent handle =>
    refine ⟨rfl, fun b' seq' found => ?_, fun _ _ _ found => found⟩
    rw [sequence?_install, if_neg]
    · exact found
    · intro same
      rw [sequence?, ← same] at found
      rw [sequence?, found] at absent
      cases absent
  | @define engine scope absent m h =>
    refine ⟨rfl, fun _ _ found => found, fun engine' scope' b found => ?_⟩
    rw [definition?_define, if_neg]
    · exact found
    · rintro ⟨rfl, same⟩
      rw [definition?, ← same] at found
      rw [definition?, found] at absent
      cases absent

end Store

/-- How an earlier and a later state of one run are related. -/
structure State.Before (s s' : State) : Prop extends s.store.Before s'.store where
  settings : s'.context.settings = s.context.settings
  trace : s.trace <:+ s'.trace

namespace State.Before

variable {s s₁ s₂ : State}

theorem refl (s : State) : s.Before s := ⟨.refl s.store, rfl, List.suffix_rfl⟩

theorem trans (h : s.Before s₁) (h' : s₁.Before s₂) : s.Before s₂ :=
  ⟨h.toBefore.trans h'.toBefore, h'.settings.trans h.settings, h.trace.trans h'.trace⟩

theorem stepwise : Stepwise fun s _ s' => s.Before s' where
  refl s _ := .refl s
  trans := trans
  told s e _ := ⟨.refl s.store, rfl, List.suffix_cons e s.trace⟩
  line s _ := ⟨.refl s.store, rfl, List.suffix_rfl⟩
  stored _ _ h := ⟨h.before, rfl, List.suffix_rfl⟩
  moved s _ _ _ := ⟨.refl s.store, rfl, List.suffix_cons _ s.trace⟩

theorem since_left (h : s.Before s₁) (h' : s₁.Before s₂) {e : Event} (he : e ∈ s₁.since s) :
    e ∈ s₂.since s := by
  rw [since_append h.trace h'.trace]
  exact List.mem_append_right _ he

theorem since_right (h : s.Before s₁) (h' : s₁.Before s₂) {e : Event} (he : e ∈ s₂.since s₁) :
    e ∈ s₂.since s := by
  rw [since_append h.trace h'.trace]
  exact List.mem_append_left _ he

end State.Before

/-- All that has happened between two states is as described. -/
structure Throughout (P : Event → Prop) (s s' : State) : Prop where
  trace : s.trace <:+ s'.trace
  events : ∀ e ∈ s'.since s, P e

namespace Throughout

variable {P Q : Event → Prop} {s s₁ s₂ : State}

theorem refl (s : State) : Throughout P s s := ⟨List.suffix_rfl, by simp⟩

theorem trans (h : Throughout P s s₁) (h' : Throughout P s₁ s₂) : Throughout P s s₂ := by
  refine ⟨h.trace.trans h'.trace, fun e among => ?_⟩
  rw [State.since_append h.trace h'.trace] at among
  exact (List.mem_append.mp among).elim (h'.events e) (h.events e)

theorem mono (h : Throughout P s s₁) (weaker : ∀ e, P e → Q e) : Throughout Q s s₁ :=
  ⟨h.trace, fun e among => weaker e (h.events e among)⟩

theorem one {e : Event} (trace : s₁.trace = e :: s.trace) (here : P e) : Throughout P s s₁ := by
  refine ⟨trace ▸ List.suffix_cons e s.trace, fun e' among => ?_⟩
  rw [@State.since_of_append s s₁ [e] trace, List.mem_singleton] at among
  exact among ▸ here

theorem silent (trace : s₁.trace = s.trace) : Throughout P s s₁ := by
  refine ⟨trace ▸ List.suffix_rfl, fun e among => ?_⟩
  rw [State.since, trace, Nat.sub_self, List.take_zero] at among
  cases among

theorem quiet (still : ∀ e, e.isMotion = false → P e) : Quiet fun s _ s' => Throughout P s s' where
  refl s _ := .refl s
  trans := .trans
  told _ e other := .one rfl (still e other)
  stored _ _ _ := .silent rfl
  line _ _ := .silent rfl

end Throughout

end BodyCall
