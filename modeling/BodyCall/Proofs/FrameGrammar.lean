import BodyCall.Proofs.Sound
import Mathlib.Combinatorics.Enumerative.DyckWord

/-!
# The grammar of lowered bodies

What the check of a body accepts, said without the check. A body that leaves its frame to the caller
has no frame instruction. A body with frames of its own reads as a bracket word, where a push opens and
a pop closes. Of all breaches the first is reported: the first frame instruction, or else the first pop
that has no push left, or else the number of pushes that stay open.

The check counts the open pushes without a bound. A word of 32 bits holds that count as long as there
are fewer pushes than such words.
-/

namespace BodyCall

open DyckStep

def pushes (instrs : List Instr) : Nat := instrs.count .pushFrame

def pops (instrs : List Instr) : Nat := instrs.count .popFrame

def Instr.bracket? : Instr → Option DyckStep
  | pushFrame => some U
  | popFrame => some D
  | _ => none

/-- The frame instructions of a list as brackets. -/
def brackets (instrs : List Instr) : List DyckStep := instrs.filterMap Instr.bracket?

/-- The prefix that ends at `index` has more pops than pushes, counting `depth` pushes before it. -/
def Overdrawn (depth : Nat) (instrs : List Instr) (index : Nat) : Prop :=
  depth + pushes (instrs.take (index + 1)) < pops (instrs.take (index + 1))

instance (depth : Nat) (instrs : List Instr) : DecidablePred (Overdrawn depth instrs) :=
  fun _ => inferInstanceAs (Decidable (_ < _))

structure FirstFrame (instrs : List Instr) (index : Nat) (instr : Instr) : Prop where
  here : instrs[index]? = some instr
  frame : instr.isFrame = true
  first : ∀ other ∈ instrs.take index, other.isFrame = false

/-! ## Counting pushes and pops -/

theorem pushes_cons (instr : Instr) (rest : List Instr) :
    pushes (instr :: rest) = pushes [instr] + pushes rest := by
  unfold pushes
  rw [Nat.add_comm, List.count_cons, List.count_singleton]

theorem pops_cons (instr : Instr) (rest : List Instr) :
    pops (instr :: rest) = pops [instr] + pops rest := by
  unfold pops
  rw [Nat.add_comm, List.count_cons, List.count_singleton]

theorem count_brackets (instrs : List Instr) :
    (brackets instrs).count U = pushes instrs ∧ (brackets instrs).count D = pops instrs := by
  induction instrs with
  | nil => exact ⟨rfl, rfl⟩
  | cons instr rest ih =>
    obtain ⟨ups, downs⟩ := ih
    rw [pushes_cons, pops_cons, ← ups, ← downs]
    cases instr <;> simp [brackets, List.filterMap_cons, Instr.bracket?, pushes, pops, Nat.add_comm]

theorem overdrawn_cons {depth depth' : Nat} {instr : Instr} {rest : List Instr}
    (left : depth' + pops [instr] = depth + pushes [instr]) (index : Nat) :
    Overdrawn depth (instr :: rest) (index + 1) ↔ Overdrawn depth' rest index := by
  unfold Overdrawn
  rw [List.take_succ_cons, pushes_cons, pops_cons]
  omega

theorem not_overdrawn_zero {depth : Nat} {instr : Instr} {rest : List Instr}
    (enough : pops [instr] ≤ depth + pushes [instr]) : ¬ Overdrawn depth (instr :: rest) 0 := by
  unfold Overdrawn
  rw [List.take_succ_cons, List.take_zero]
  omega

/-- A list reads as a bracket word if its pushes and pops come out even and no prefix is overdrawn. -/
theorem bracketed_iff {instrs : List Instr} :
    (∃ w : DyckWord, w.toList = brackets instrs) ↔
      pushes instrs = pops instrs ∧ ∀ index, ¬ Overdrawn 0 instrs index := by
  obtain ⟨ups, downs⟩ := count_brackets instrs
  constructor
  · rintro ⟨w, same⟩
    refine ⟨?_, fun index => ?_⟩
    · rw [← ups, ← downs, ← same]
      exact w.count_U_eq_count_D
    · -- what a prefix reads as is a prefix of the word
      have within : brackets (instrs.take (index + 1)) <+: w.toList :=
        same ▸ List.IsPrefix.filterMap _ ⟨_, List.take_append_drop (index + 1) instrs⟩
      obtain ⟨ups, downs⟩ := count_brackets (instrs.take (index + 1))
      have below := w.count_D_le_count_U (brackets (instrs.take (index + 1))).length
      rw [← List.prefix_iff_eq_take.mp within, ups, downs] at below
      unfold Overdrawn
      omega
  · rintro ⟨even, enough⟩
    refine ⟨⟨brackets instrs, by rw [ups, downs, even], fun i => ?_⟩, rfl⟩
    obtain ⟨front, within, same⟩ := List.prefix_filterMap_iff.mp
      ⟨_, List.take_append_drop i (brackets instrs)⟩
    obtain ⟨ups, downs⟩ := count_brackets front
    rw [same]
    change (brackets front).count D ≤ (brackets front).count U
    rw [ups, downs]
    cases length : front.length with
    | zero => rw [List.length_eq_zero_iff.mp length]; exact Nat.le_refl 0
    | succ n =>
      have fits := enough n
      rw [Overdrawn, ← length, ← List.prefix_iff_eq_take.mp within] at fits
      omega

/-! ## What the checks find -/

/-- What a verdict says of instructions from `index` on that `depth` open pushes come before. -/
def Finding (index depth : Nat) (instrs : List Instr) : Option FrameFault → Prop
  | none => (∀ j, ¬ Overdrawn depth instrs j) ∧ depth + pushes instrs = pops instrs
  | some (.neverPopped n) =>
    (∀ j, ¬ Overdrawn depth instrs j) ∧ depth + pushes instrs = pops instrs + n ∧ 0 < n
  | some (.unmatchedPop i) => ∃ j, i = index + j ∧ IsLeast {j | Overdrawn depth instrs j} j
  | some (.unexpected _ _) => False

theorem Finding.cons {index depth depth' : Nat} {instr : Instr} {rest : List Instr}
    {fault : Option FrameFault} (left : depth' + pops [instr] = depth + pushes [instr])
    (h : Finding (index + 1) depth' rest fault) : Finding index depth (instr :: rest) fault := by
  have at_zero : ¬ Overdrawn depth (instr :: rest) 0 := not_overdrawn_zero (by omega)
  have later (j : Nat) : Overdrawn depth (instr :: rest) (j + 1) ↔ Overdrawn depth' rest j :=
    overdrawn_cons left j
  have nowhere (none : ∀ j, ¬ Overdrawn depth' rest j) : ∀ j, ¬ Overdrawn depth (instr :: rest) j
    | 0 => at_zero
    | j + 1 => fun excess => none j ((later j).mp excess)
  rcases fault with _ | ⟨_, _⟩ | i | n
  · obtain ⟨enough, even⟩ := h
    refine ⟨nowhere enough, ?_⟩
    rw [pushes_cons, pops_cons]
    omega
  · exact h
  · obtain ⟨j, rfl, excess, least⟩ := h
    refine ⟨j + 1, by omega, (later j).mpr excess, fun k excess_k => ?_⟩
    cases k with
    | zero => exact absurd excess_k at_zero
    | succ k => exact Nat.succ_le_succ (least ((later k).mp excess_k))
  · obtain ⟨enough, open_pushes, pos⟩ := h
    refine ⟨nowhere enough, ?_, pos⟩
    rw [pushes_cons, pops_cons]
    omega

theorem imbalance_finding (instrs : List Instr) (index depth : Nat) :
    Finding index depth instrs (imbalance? index depth instrs) := by
  induction instrs generalizing index depth with
  | nil =>
    have nowhere : ∀ j, ¬ Overdrawn depth [] j := fun j => Nat.not_lt_zero _
    unfold imbalance?
    split
    next even => exact ⟨nowhere, even⟩
    next some_left => exact ⟨nowhere, (Nat.zero_add depth).symm, Nat.pos_of_ne_zero some_left⟩
  | cons instr rest ih =>
    cases instr with
    | pushFrame => exact (ih (index + 1) (depth + 1)).cons rfl
    | popFrame =>
      cases depth with
      | zero => exact ⟨0, rfl, Nat.lt_add_one 0, fun _ _ => Nat.zero_le _⟩
      | succ depth => exact (ih (index + 1) depth).cons rfl
    | line | put | putSelf | define | raise => exact (ih (index + 1) depth).cons rfl

theorem Finding.exact {instrs : List Instr} {fault : Option FrameFault}
    (h : Finding 0 0 instrs fault) :
    (fault = none ↔ pushes instrs = pops instrs ∧ ∀ j, ¬ Overdrawn 0 instrs j) ∧
    ((∃ j, Overdrawn 0 instrs j) →
      ∃ j, IsLeast {j | Overdrawn 0 instrs j} j ∧ fault = some (.unmatchedPop j)) ∧
    ((∀ j, ¬ Overdrawn 0 instrs j) → pushes instrs ≠ pops instrs →
      fault = some (.neverPopped (pushes instrs - pops instrs))) := by
  rcases fault with _ | ⟨_, _⟩ | i | n
  · obtain ⟨enough, even⟩ := h
    rw [Nat.zero_add] at even
    exact ⟨iff_of_true rfl ⟨even, enough⟩, fun ⟨j, excess⟩ => absurd excess (enough j),
      fun _ uneven => absurd even uneven⟩
  · exact h.elim
  · obtain ⟨j, rfl, excess, least⟩ := h
    rw [Nat.zero_add]
    exact ⟨iff_of_false nofun fun ⟨_, enough⟩ => enough j excess, fun _ => ⟨j, ⟨excess, least⟩, rfl⟩,
      fun enough => absurd excess (enough j)⟩
  · obtain ⟨enough, open_pushes, pos⟩ := h
    have left : pushes instrs - pops instrs = n := by omega
    refine ⟨iff_of_false nofun fun ⟨even, _⟩ => ?_, fun ⟨j, excess⟩ => absurd excess (enough j),
      fun _ _ => left ▸ rfl⟩
    omega

theorem firstFrame_finding (instrs : List Instr) (index : Nat) :
    match firstFrame? index instrs with
    | none => ∀ instr ∈ instrs, instr.isFrame = false
    | some fault => ∃ j instr, FirstFrame instrs j instr ∧ fault = .unexpected instr (index + j) := by
  induction instrs generalizing index with
  | nil => nofun
  | cons instr rest ih =>
    unfold firstFrame?
    by_cases frame : instr.isFrame = true
    · rw [if_pos frame]
      exact ⟨0, instr, ⟨rfl, frame, nofun⟩, rfl⟩
    · rw [if_neg frame]
      have plain : instr.isFrame = false := eq_false_of_ne_true frame
      have behind := ih (index + 1)
      split at behind
      · exact List.forall_mem_cons.mpr ⟨plain, behind⟩
      · obtain ⟨j, instr', found, rfl⟩ := behind
        refine ⟨j + 1, instr', ⟨found.here, found.frame, ?_⟩, by congr 1; omega⟩
        exact List.forall_mem_cons.mpr ⟨plain, found.first⟩

/-! ## The count in a word -/

/-- The first breach of balance, with the open pushes counted in 32 bits. -/
def wordImbalance? (index : Nat) (depth : UInt32) : List Instr → Option FrameFault
  | [] => if depth = 0 then none else some (.neverPopped depth.toNat)
  | .pushFrame :: rest => wordImbalance? (index + 1) (depth + 1) rest
  | .popFrame :: rest =>
    if depth = 0 then some (.unmatchedPop index) else wordImbalance? (index + 1) (depth - 1) rest
  | _ :: rest => wordImbalance? (index + 1) depth rest

/-- A word never overflows where there is room for all pushes that follow. -/
theorem wordImbalance_eq (instrs : List Instr) (index : Nat) (depth : UInt32)
    (room : depth.toNat + pushes instrs < 2 ^ 32) :
    wordImbalance? index depth instrs = imbalance? index depth.toNat instrs := by
  induction instrs generalizing index depth with
  | nil =>
    have zero : depth = 0 ↔ depth.toNat = 0 := UInt32.toNat_inj.symm
    simp only [wordImbalance?, imbalance?, zero]
  | cons instr rest ih =>
    rw [pushes_cons] at room
    cases instr with
    | pushFrame =>
      have one : pushes [.pushFrame] = 1 := rfl
      have more : (depth + 1).toNat = depth.toNat + 1 := by
        rw [UInt32.toNat_add, UInt32.toNat_one]
        exact Nat.mod_eq_of_lt (by omega)
      have behind := ih (index + 1) (depth + 1) (by omega)
      rw [more] at behind
      exact behind
    | popFrame =>
      cases count : depth.toNat with
      | zero =>
        have empty : depth = 0 := UInt32.toNat_inj.mp count
        exact if_pos empty
      | succ n =>
        have open_push : depth ≠ 0 := fun empty => by simp [empty] at count
        have fewer : (depth - 1).toNat = n := by
          rw [UInt32.toNat_sub_of_le _ _ (by simp [UInt32.le_iff_toNat_le]; omega), count]
          rfl
        have behind := ih (index + 1) (depth - 1) (by omega)
        rw [fewer] at behind
        exact (if_neg open_push).trans behind
    | line | put | putSelf | define | raise => exact ih _ _ (by omega)

/-! ## The grammar -/

theorem Lowered.checked_eq_ok_iff {l : Lowered} : l.checked = .ok l ↔ l.frameFault? = none := by
  unfold checked
  split
  next fault found => simp [found]
  next none_found => simp [none_found]

theorem Lowered.checked_of_fault {l : Lowered} {fault : FrameFault}
    (found : l.frameFault? = some fault) : l.checked = .error fault.message := by
  unfold checked
  rw [found]

theorem frameless_iff {instrs : List Instr} : (∀ instr ∈ instrs, instr.isFrame = false) ↔
    .pushFrame ∉ instrs ∧ .popFrame ∉ instrs := by
  constructor
  · intro plain
    exact ⟨fun among => Bool.noConfusion (plain _ among), fun among => Bool.noConfusion (plain _ among)⟩
  · rintro ⟨no_push, no_pop⟩ instr among
    cases instr with
    | pushFrame => exact absurd among no_push
    | popFrame => exact absurd among no_pop
    | line | put | putSelf | define | raise => rfl

/-- A body that leaves its frame to the caller is accepted if it has no frame instruction, and is
refused for its first one. A body with frames of its own is accepted if these are a bracket word, and
is refused for the pop that ends the least overdrawn prefix, or, if there is none, for the number of
pushes that are never popped. What is accepted stays as it is. A count in 32 bits comes to the same. -/
theorem checked_grammar (l : Lowered) (few : pushes l.instrs < 2 ^ 32) :
    (∀ l', l.checked = .ok l' → l' = l) ∧
    (l.explicit = false →
      (l.checked = .ok l ↔ .pushFrame ∉ l.instrs ∧ .popFrame ∉ l.instrs) ∧
      (.pushFrame ∈ l.instrs ∨ .popFrame ∈ l.instrs →
        ∃ index instr, FirstFrame l.instrs index instr ∧
          l.checked = .error ("frame instruction `" ++ instr.text ++ "` at " ++ toString index ++
            " without explicit call protocol"))) ∧
    (l.explicit = true →
      (l.checked = .ok l ↔ ∃ w : DyckWord, w.toList = brackets l.instrs) ∧
      ((∃ index, Overdrawn 0 l.instrs index) →
        ∃ index, IsLeast {index | Overdrawn 0 l.instrs index} index ∧
          l.checked = .error ("unmatched `pop_frame` at " ++ toString index)) ∧
      ((∀ index, ¬ Overdrawn 0 l.instrs index) → pushes l.instrs ≠ pops l.instrs →
        l.checked = .error
          (toString (pushes l.instrs - pops l.instrs) ++ " frame(s) never popped")) ∧
      wordImbalance? 0 0 l.instrs = l.frameFault?) := by
  refine ⟨fun l' accepted => Lowered.checked_ok accepted, fun implicit => ?_, fun explicit => ?_⟩
  · have fault : l.frameFault? = firstFrame? 0 l.instrs := by simp [Lowered.frameFault?, implicit]
    have found := firstFrame_finding l.instrs 0
    rw [← fault] at found
    rw [Lowered.checked_eq_ok_iff, ← frameless_iff]
    split at found
    next accepted =>
      refine ⟨iff_of_true accepted found, fun frames => ?_⟩
      obtain ⟨no_push, no_pop⟩ := frameless_iff.mp found
      exact absurd frames (not_or.mpr ⟨no_push, no_pop⟩)
    next refused =>
      obtain ⟨index, instr, first, rfl⟩ := found
      rw [Nat.zero_add] at refused
      refine ⟨iff_of_false (by simp [refused]) fun plain => ?_, fun _ => ⟨index, instr, first, ?_⟩⟩
      · exact absurd first.frame (by simp [plain instr (List.mem_of_getElem? first.here)])
      · exact Lowered.checked_of_fault refused
  · have fault : l.frameFault? = imbalance? 0 0 l.instrs := by simp [Lowered.frameFault?, explicit]
    have found := imbalance_finding l.instrs 0 0
    rw [← fault] at found
    obtain ⟨accepted, early, left⟩ := found.exact
    rw [Lowered.checked_eq_ok_iff, bracketed_iff]
    refine ⟨accepted, fun excess => ?_, fun enough uneven => ?_, ?_⟩
    · obtain ⟨index, least, refused⟩ := early excess
      exact ⟨index, least, Lowered.checked_of_fault refused⟩
    · exact Lowered.checked_of_fault (left enough uneven)
    · rw [fault, wordImbalance_eq _ _ _ (by rwa [UInt32.toNat_zero, Nat.zero_add]), UInt32.toNat_zero]

/-- Pushes and pops come out even, but one pop comes before its push. -/
theorem early_pop_checked_grammar :
    let l : Lowered := ⟨[.pushFrame, .line 2, .popFrame, .popFrame, .pushFrame], true⟩
    pushes l.instrs < 2 ^ 32 ∧ l.checked = .error "unmatched `pop_frame` at 3" := by
  intro l
  have few : pushes l.instrs < 2 ^ 32 := by decide
  obtain ⟨-, -, explicit⟩ := checked_grammar l few
  obtain ⟨-, early, -⟩ := explicit rfl
  obtain ⟨index, ⟨excess, least⟩, refused⟩ := early ⟨3, by decide⟩
  have at_most : index ≤ 3 := least (show Overdrawn 0 l.instrs 3 by decide)
  have at_least : 3 ≤ index := by
    by_contra before
    have none_before : ∀ j < 3, ¬ Overdrawn 0 l.instrs j := by decide
    exact none_before index (by omega) excess
  obtain rfl : index = 3 := by omega
  exact ⟨few, refused⟩

end BodyCall
