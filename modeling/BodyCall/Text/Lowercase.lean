import BodyCall.Text.Blank
import BodyCall.Text.Cased
import BodyCall.Text.SimpleLowercase

/-!
# Lowercase text

Each character goes to its lowercase form, with two exceptions. A capital sigma at the end of a
word becomes the final sigma, and a capital I with a dot keeps the dot as a mark of its own.
-/

namespace BodyCall.Text

/-- Whether the nearest character that is not skipped beside case has case. -/
def nextIsCased (cs : List Char) : Bool :=
  match cs.dropWhile isCaseIgnorable with
  | c :: _ => isCased c
  | [] => false

/-- Whether a sigma ends a word, given what stands before it, nearest first, and after it. -/
def endsWord (before after : List Char) : Bool :=
  nextIsCased before && !nextIsCased after

/-- The lowercase form of one character between what is `before` it, nearest first, and `after`. -/
def lowercaseChar (before : List Char) (c : Char) (after : List Char) : List Char :=
  if c = 'Σ' then [if endsWord before after then 'ς' else 'σ']
  else if c = 'İ' then ['i', '\u0307']
  else [simpleLowercase c]

def lowercaseFrom (before : List Char) : List Char → List Char
  | [] => []
  | c :: after => lowercaseChar before c after ++ lowercaseFrom (c :: before) after

def lowercase (cs : List Char) : List Char := lowercaseFrom [] cs

@[simp] theorem lowercase_nil : lowercase [] = [] := rfl

/-! ## ASCII letters in either case -/

theorem toLower_cases (c : Char) : c.toLower = c ∨
    65 ≤ c.toNat ∧ c.toNat ≤ 90 ∧ c.toLower.toNat = c.toNat + 32 := by
  unfold Char.toLower
  split
  next upper =>
    obtain ⟨low, high⟩ := upper
    refine .inr ⟨low, high, ?_⟩
    simp only [Char.toNat, UInt32.toNat_add]
    have high : c.val.toNat ≤ 90 := high
    have shift : ('a'.val - 'A'.val).toNat = 32 := rfl
    rw [shift]
    exact Nat.mod_eq_of_lt (by omega)
  next => exact .inl rfl

/-- What is the same for all letters of ASCII is the same for both cases of one. -/
theorem toLower_same {α : Type} {f : Char → α} {a : α}
    (letters : ∀ c : Char, 65 ≤ c.toNat ∧ c.toNat ≤ 90 ∨ 97 ≤ c.toNat ∧ c.toNat ≤ 122 → f c = a)
    (c : Char) : f c.toLower = f c := by
  rcases toLower_cases c with same | ⟨low, high, shifted⟩
  · rw [same]
  · rw [letters c (.inl ⟨low, high⟩), letters c.toLower (.inr (by omega))]

theorem isBlank_toLower : ∀ c : Char, isBlank c.toLower = isBlank c := by
  apply toLower_same (a := false)
  intro c letter
  simp [isBlank, Ranges.contains, blankRanges]
  omega

theorem isCased_toLower : ∀ c : Char, isCased c.toLower = isCased c := by
  apply toLower_same (a := true)
  intro c letter
  have ascii : c.toNat < 0x80 := by omega
  rw [isCased, if_pos ascii]
  change (decide ('A'.val ≤ c.val ∧ c.val ≤ 'Z'.val) ||
    decide ('a'.val ≤ c.val) && decide (c.val ≤ 'z'.val)) = true
  simp [UInt32.le_iff_toNat_le]
  omega

theorem isCaseIgnorable_toLower : ∀ c : Char, isCaseIgnorable c.toLower = isCaseIgnorable c := by
  apply toLower_same (a := false)
  intro c letter
  have ascii : c.toNat < 0x80 := by omega
  simp only [isCaseIgnorable, if_pos ascii, List.contains_eq_mem, decide_eq_false_iff_not]
  intro listed
  have apart : ∀ d ∈ ['\x27', '.', ':', '^', '\x60'],
      ¬ (65 ≤ d.toNat ∧ d.toNat ≤ 90 ∨ 97 ≤ d.toNat ∧ d.toNat ≤ 122) := by simp
  exact apart c listed letter

theorem simpleLowercase_toLower (c : Char) : simpleLowercase c.toLower = simpleLowercase c := by
  rcases toLower_cases c with same | ⟨low, high, shifted⟩
  · rw [same]
  · have lower : c.toLower.toLower = c.toLower := (toLower_cases c.toLower).resolve_right (by omega)
    rw [simpleLowercase, simpleLowercase, if_pos (by omega), if_pos (by omega), lower]

/-- Only letters of ASCII are changed, and only into each other. -/
theorem toLower_eq_iff {c d : Char}
    (other : ¬ (65 ≤ d.toNat ∧ d.toNat ≤ 90 ∨ 97 ≤ d.toNat ∧ d.toNat ≤ 122)) :
    c.toLower = d ↔ c = d := by
  rcases toLower_cases c with same | ⟨low, high, shifted⟩
  · rw [same]
  · constructor
    · rintro rfl
      exact absurd (.inr (by omega)) other
    · rintro rfl
      exact absurd (.inl ⟨low, high⟩) other

theorem nextIsCased_map_toLower (cs : List Char) :
    nextIsCased (cs.map Char.toLower) = nextIsCased cs := by
  have skips : isCaseIgnorable ∘ Char.toLower = isCaseIgnorable := funext isCaseIgnorable_toLower
  unfold nextIsCased
  rw [List.dropWhile_map, skips]
  cases cs.dropWhile isCaseIgnorable with
  | nil => rfl
  | cons c rest => exact isCased_toLower c

theorem lowercaseChar_toLower (before : List Char) (c : Char) (after : List Char) :
    lowercaseChar (before.map Char.toLower) c.toLower (after.map Char.toLower) =
      lowercaseChar before c after := by
  have sigma : c.toLower = 'Σ' ↔ c = 'Σ' := toLower_eq_iff (by decide)
  have dotted : c.toLower = 'İ' ↔ c = 'İ' := toLower_eq_iff (by decide)
  unfold lowercaseChar endsWord
  rw [nextIsCased_map_toLower, nextIsCased_map_toLower, simpleLowercase_toLower]
  by_cases capital : c = 'Σ'
  · rw [if_pos capital, if_pos (sigma.mpr capital)]
  · rw [if_neg capital, if_neg (mt sigma.mp capital)]
    by_cases mark : c = 'İ'
    · rw [if_pos mark, if_pos (dotted.mpr mark)]
    · rw [if_neg mark, if_neg (mt dotted.mp mark)]

theorem lowercaseFrom_map_toLower (before cs : List Char) :
    lowercaseFrom (before.map Char.toLower) (cs.map Char.toLower) = lowercaseFrom before cs := by
  induction cs generalizing before with
  | nil => rfl
  | cons c after ih =>
    have behind := ih (c :: before)
    rw [List.map_cons] at behind
    rw [List.map_cons, lowercaseFrom, lowercaseFrom, lowercaseChar_toLower, behind]

theorem lowercase_map_toLower (cs : List Char) : lowercase (cs.map Char.toLower) = lowercase cs :=
  lowercaseFrom_map_toLower [] cs

end BodyCall.Text
