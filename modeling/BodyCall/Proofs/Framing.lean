import BodyCall.Proofs.Sound

/-!
# Taking the frame into the code

A body that leaves its frame to the caller can take it for itself: it pushes the frame first and pops
it last. Plain evaluation does not tell the two apart.
-/

namespace BodyCall

/-- The same code with a frame of its own around it. -/
def framedInstrs (instrs : List Instr) : List Instr := .pushFrame :: (instrs ++ [.popFrame])

def Lowered.framed (l : Lowered) : Lowered := ⟨framedInstrs l.instrs, true⟩

/-- Instructions that leave frames alone. -/
def Frameless (instrs : List Instr) : Prop := ∀ instr ∈ instrs, instr.isFrame = false

namespace Frameless

theorem tail {instr : Instr} {rest : List Instr} (h : Frameless (instr :: rest)) : Frameless rest :=
  fun other among => h other (List.mem_cons_of_mem instr among)

theorem firstFrame {instrs : List Instr} (h : Frameless instrs) (index : Nat) :
    firstFrame? index instrs = none := by
  induction instrs generalizing index with
  | nil => rfl
  | cons instr rest ih =>
    rw [firstFrame?, if_neg]
    · exact ih h.tail _
    · rw [h instr List.mem_cons_self]
      exact Bool.false_ne_true

/-- Such instructions leave one frame for the last pop. -/
theorem imbalance {instrs : List Instr} (h : Frameless instrs) (index : Nat) :
    imbalance? index 1 (instrs ++ [.popFrame]) = none := by
  induction instrs generalizing index with
  | nil => rfl
  | cons instr rest ih =>
    have later := ih h.tail (index + 1)
    have plain := h instr List.mem_cons_self
    cases instr with
    | pushFrame => cases plain
    | popFrame => cases plain
    | _ => exact later

end Frameless

/-- A choice of scopes to take their frames themselves. Each of them is a body, and leaves its frame
to the caller so far. -/
structure Framing (P : Program) where
  chosen : Scope → Bool
  body : ∀ {scope : Scope}, chosen scope = true → scope.kind.isBody = true
  implicit : ∀ {scope : Scope}, chosen scope = true → (P.code scope).explicit = false
  frameless : ∀ {scope : Scope}, chosen scope = true → Frameless (P.code scope).instrs

namespace Program

variable {P : Program}

def framedCode (P : Program) (X : Framing P) (scope : Scope) : Lowered :=
  if X.chosen scope then (P.code scope).framed else P.code scope

theorem define_mem_framedCode {X : Framing P} {scope inner : Scope} :
    .define inner ∈ (P.framedCode X scope).instrs ↔ .define inner ∈ (P.code scope).instrs := by
  unfold framedCode
  split
  · simp [Lowered.framed, framedInstrs]
  · exact Iff.rfl

/-- The program in which the chosen scopes take their frames themselves. -/
def framed (P : Program) (X : Framing P) : Program where
  has := P.has
  code := P.framedCode X
  height := P.height
  closed part among := P.closed part (define_mem_framedCode.mp among)
  nested among := P.nested (define_mem_framedCode.mp among)
  identified := P.identified

variable {X : Framing P} {scope : Scope}

theorem framed_code_chosen (chosen : X.chosen scope = true) :
    (P.framed X).code scope = (P.code scope).framed := if_pos chosen

theorem framed_code_other (other : ¬X.chosen scope = true) :
    (P.framed X).code scope = P.code scope := if_neg other

theorem accepted_of_chosen (chosen : X.chosen scope = true) :
    (P.code scope).checked = .ok (P.code scope) := by
  have fine : (P.code scope).frameFault? = none := by
    rw [Lowered.frameFault?, X.implicit chosen]
    exact (X.frameless chosen).firstFrame 0
  rw [Lowered.checked, fine]

theorem framed_accepted (chosen : X.chosen scope = true) :
    (P.code scope).framed.checked = .ok (P.code scope).framed := by
  have fine : (P.code scope).framed.frameFault? = none := (X.frameless chosen).imbalance 1
  rw [Lowered.checked, fine]

/-! ## Plain evaluation -/

variable {limit : Option Nat} {receiver : Value}

theorem follow_nested {instrs : List Instr}
    {nested nested' : Scope → Value → Nat → World → Ending × World}
    (same : ∀ inner, .define inner ∈ instrs → nested inner = nested' inner) (frames : Nat)
    (last : Value) (w : World) :
    follow limit receiver instrs (fun inner _ => nested inner) frames last w =
      follow limit receiver instrs (fun inner _ => nested' inner) frames last w := by
  have all : (fun inner (_ : .define inner ∈ instrs) => nested inner) =
      fun inner _ => nested' inner := by
    funext inner among
    exact same inner among
  rw [all]

/-- What is followed up to a pop is followed in the same way without it. -/
theorem follow_append_pop (instrs : List Instr)
    (nested : Scope → Value → Nat → World → Ending × World) (frames : Nat) (last : Value)
    (w : World) :
    follow limit receiver (instrs ++ [.popFrame]) (fun inner _ => nested inner) frames last w =
      follow limit receiver instrs (fun inner _ => nested inner) frames last w := by
  induction instrs generalizing frames last w with
  | nil => rfl
  | cons instr rest ih =>
    cases instr with
    | line n => exact ih ..
    | put v => exact ih ..
    | putSelf => exact ih ..
    | popFrame => exact ih ..
    | raise message => rfl
    | pushFrame =>
      simp only [List.cons_append, follow]
      cases reachedLimit limit frames with
      | some max => rfl
      | none => exact ih ..
    | define inner =>
      simp only [List.cons_append, follow]
      rcases nested inner (.object (w.moduleFor inner receiver.module?).1) frames
        (w.moduleFor inner receiver.module?).2 with ⟨_ | _ | _, w'⟩
      · exact ih ..
      · rfl
      · rfl

theorem follow_framed (instrs : List Instr) (nested : Scope → Value → Nat → World → Ending × World)
    (frames : Nat) (last : Value) (w : World) :
    follow limit receiver (framedInstrs instrs) (fun inner _ => nested inner) frames last w =
      match reachedLimit limit frames with
      | some max => (.failed (.stackOverflow max), w)
      | none =>
        follow limit receiver instrs (fun inner _ => nested inner) (frames + 1) last w := by
  simp only [framedInstrs, follow]
  cases reachedLimit limit frames with
  | some max => rfl
  | none => exact follow_append_pop instrs nested (frames + 1) last w

theorem evaluate_chosen (chosen : X.chosen scope = true)
    (nested : ∀ inner, .define inner ∈ (P.code scope).instrs →
      (P.framed X).evaluate limit inner = P.evaluate limit inner) (frames : Nat) (w : World) :
    (P.framed X).evaluate limit scope receiver frames w =
      P.evaluate limit scope receiver frames w := by
  have code := framed_code_chosen chosen
  have accepted : ((P.framed X).code scope).checked = .ok ((P.framed X).code scope) := by
    rw [code]
    exact framed_accepted chosen
  have explicit : ((P.framed X).code scope).explicit = true := by
    rw [code]
    rfl
  have generic := X.implicit chosen
  have instrs : ((P.framed X).code scope).instrs = framedInstrs (P.code scope).instrs := by
    rw [code]
    rfl
  rw [evaluate_body accepted (.inl explicit) (X.body chosen), if_pos explicit,
    follow_congr instrs, follow_framed]
  cases full : reachedLimit limit frames with
  | some max => rw [evaluate_overflow (accepted_of_chosen chosen) generic full]
  | none =>
    rw [evaluate_body (accepted_of_chosen chosen) (.inr full) (X.body chosen), generic]
    exact follow_nested nested _ _ _

theorem evaluate_other (other : ¬X.chosen scope = true)
    (nested : ∀ inner, .define inner ∈ (P.code scope).instrs →
      (P.framed X).evaluate limit inner = P.evaluate limit inner) (frames : Nat) (w : World) :
    (P.framed X).evaluate limit scope receiver frames w =
      P.evaluate limit scope receiver frames w := by
  have code := framed_code_other (P := P) other
  cases checked : (P.code scope).checked with
  | error reason => rw [evaluate_refused checked, evaluate_refused (code ▸ checked)]
  | ok l =>
    rw [Lowered.checked_ok checked] at checked
    have checked' : ((P.framed X).code scope).checked = .ok ((P.framed X).code scope) := by
      rw [code]
      exact checked
    cases full : if (P.code scope).explicit then none else reachedLimit limit frames with
    | some max =>
      have generic : (P.code scope).explicit = false := by
        cases explicit : (P.code scope).explicit with
        | false => rfl
        | true => rw [explicit] at full; cases full
      rw [generic] at full
      rw [evaluate_overflow checked generic full, evaluate_overflow checked' (code ▸ generic) full]
    | none =>
      have room : (P.code scope).explicit = true ∨ reachedLimit limit frames = none := by
        cases explicit : (P.code scope).explicit with
        | true => exact .inl rfl
        | false => rw [explicit] at full; exact .inr full
      cases kind : scope.kind.isBody with
      | false =>
        rw [evaluate_invalid checked room kind, evaluate_invalid checked' (code ▸ room) kind]
      | true =>
        rw [evaluate_body checked room kind, evaluate_body checked' (code ▸ room) kind,
          follow_congr (congrArg Lowered.instrs code), code]
        exact follow_nested nested _ _ _

/-- A chosen scope meets the limit where its caller would have met it for it. -/
theorem evaluate_framed (P : Program) (X : Framing P) (limit : Option Nat) (scope : Scope) :
    (P.framed X).evaluate limit scope = P.evaluate limit scope := by
  -- on the height: what is nested inside has been compared already
  induction h : P.height scope using Nat.strongRecOn generalizing scope with
  | ind height ih =>
    subst h
    have nested (inner : Scope) (among : .define inner ∈ (P.code scope).instrs) :
        (P.framed X).evaluate limit inner = P.evaluate limit inner :=
      ih _ (P.nested among) inner rfl
    funext receiver frames w
    by_cases chosen : X.chosen scope = true
    · exact evaluate_chosen chosen nested frames w
    · exact evaluate_other chosen nested frames w

end Program

end BodyCall
