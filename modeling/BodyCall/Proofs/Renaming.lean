import BodyCall.Value
import Mathlib.Logic.Relator

/-!
# Identities in two runs

Two runs that begin with different counts of modules make theirs under different identities. What was
there before either of them is the same in both, and the modules that are made correspond by the order
in which they are made. Nothing else about a module depends on its identity.
-/

namespace BodyCall

/-- The same identity in two runs that begin with these counts. -/
inductive SameId (n n' : Nat) : Nat → Nat → Prop where
  | old {id : Nat} (before : id < n) (before' : id < n') : SameId n n' id id
  | new (k : Nat) : SameId n n' (n + k) (n' + k)

theorem SameId.cases {n n' id id' : Nat} (h : SameId n n' id id') :
    id' = id ∧ id < n ∧ id < n' ∨ ∃ k, id = n + k ∧ id' = n' + k := by
  cases h with
  | old before before' => exact .inl ⟨rfl, before, before'⟩
  | new k => exact .inr ⟨k, rfl, rfl⟩

theorem SameId.biUnique (n n' : Nat) : Relator.BiUnique (SameId n n') := by
  constructor
  · intro id other id' h h'
    rcases h.cases with h | ⟨k, h⟩ <;> rcases h'.cases with h' | ⟨k', h'⟩ <;> omega
  · intro id id' other h h'
    rcases h.cases with h | ⟨k, h⟩ <;> rcases h'.cases with h' | ⟨k', h'⟩ <;> omega

namespace Module

/-- The module and all around it have identities below a bound. -/
def Made (n : Nat) : Module → Prop
  | top id _ _ => id < n
  | inside parent id _ _ => parent.Made n ∧ id < n

theorem Made.mono {n n' : Nat} {m : Module} (made : m.Made n) (le : n ≤ n') : m.Made n' := by
  induction m with
  | top id name kind => exact Nat.lt_of_lt_of_le made le
  | inside parent id name kind ih => exact ⟨ih made.1, Nat.lt_of_lt_of_le made.2 le⟩

/-- The modules differ at most in identities, which are the same in both runs. -/
inductive Renamed (n n' : Nat) : Module → Module → Prop where
  | top {id id' : Nat} (same : SameId n n' id id') (name : String) (kind : ModuleKind) :
      Renamed n n' (.top id name kind) (.top id' name kind)
  | inside {parent parent' : Module} {id id' : Nat} (outer : Renamed n n' parent parent')
      (same : SameId n n' id id') (name : String) (kind : ModuleKind) :
      Renamed n n' (.inside parent id name kind) (.inside parent' id' name kind)

namespace Renamed

variable {n n' : Nat} {m m' : Module}

theorem of_made (made : m.Made n) (made' : m.Made n') : Renamed n n' m m := by
  induction m with
  | top id name kind => exact .top (.old made made') name kind
  | inside parent id name kind ih =>
    exact .inside (ih made.1 made'.1) (.old made.2 made'.2) name kind

theorem biUnique (n n' : Nat) : Relator.BiUnique (Renamed n n') := by
  obtain ⟨left, right⟩ := SameId.biUnique n n'
  constructor
  · intro m m₁ m' h h'
    induction h generalizing m₁ with
    | top same name kind =>
      cases h' with
      | top same' => rw [left same same']
    | inside outer same name kind ih =>
      cases h' with
      | inside outer' same' => rw [ih outer', left same same']
  · intro m m' m₁ h h'
    induction h generalizing m₁ with
    | top same name kind =>
      cases h' with
      | top same' => rw [right same same']
    | inside outer same name kind ih =>
      cases h' with
      | inside outer' same' => rw [ih outer', right same same']

theorem qualifiedName (h : Renamed n n' m m') : m'.qualifiedName = m.qualifiedName := by
  induction h with
  | top => rfl
  | inside outer same name kind ih => rw [Module.qualifiedName, Module.qualifiedName, ih]

theorem nested {parent parent' : Option Module} (outer : Option.Rel (Renamed n n') parent parent')
    (k : Nat) (name : String) (kind : ModuleKind) :
    Renamed n n' (Module.nested parent (n + k) name kind)
      (Module.nested parent' (n' + k) name kind) := by
  cases outer with
  | none => exact .top (.new k) name kind
  | some same => exact .inside same (.new k) name kind

end Renamed

end Module

namespace Value

def Made (n : Nat) (v : Value) : Prop := ∀ m, v.module? = some m → m.Made n

theorem Made.mono {n n' : Nat} {v : Value} (made : v.Made n) (le : n ≤ n') : v.Made n' :=
  fun m here => (made m here).mono le

/-- Values that differ at most in the identities of modules. -/
inductive Renamed (n n' : Nat) : Value → Value → Prop where
  | plain {v : Value} (none : v.module? = none) : Renamed n n' v v
  | object {m m' : Module} (same : m.Renamed n n' m') : Renamed n n' (.object m) (.object m')

namespace Renamed

variable {n n' : Nat} {v v' : Value}

theorem of_made (made : v.Made n) (made' : v.Made n') : Renamed n n' v v := by
  cases v with
  | object m => exact .object (.of_made (made m rfl) (made' m rfl))
  | _ => exact .plain rfl

theorem biUnique (n n' : Nat) : Relator.BiUnique (Renamed n n') := by
  obtain ⟨left, right⟩ := Module.Renamed.biUnique n n'
  constructor
  · intro v v₁ v' h h'
    cases h with
    | plain none =>
      cases h' with
      | plain => rfl
      | object => cases none
    | object same =>
      cases h' with
      | plain none => cases none
      | object same' => rw [left same same']
  · intro v v' v₁ h h'
    cases h with
    | plain none =>
      cases h' with
      | plain => rfl
      | object => cases none
    | object same =>
      cases h' with
      | plain none => cases none
      | object same' => rw [right same same']

theorem module? (h : Renamed n n' v v') :
    Option.Rel (Module.Renamed n n') v.module? v'.module? := by
  cases h with
  | plain none =>
    rw [none]
    exact .none
  | object same => exact .some same

end Renamed

end Value

end BodyCall
