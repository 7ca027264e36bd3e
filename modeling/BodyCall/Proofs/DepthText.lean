import BodyCall.LogRecord
import Mathlib.Algebra.GroupWithZero.Nat

/-!
# The text of a frame limit

The frame limit is read from a variable as a decimal number with white space around it and at most one
plus sign before it, which has to fit into a word of 64 bits. Main statement: the limit that is read is
the number that the text writes, there is one complaint about a text that writes none, and neither of
the two variables has an effect on what is read from the other. Reading in words, with each step
checked, comes to the same, so that no number is taken for a smaller one.
-/

namespace BodyCall

open Text

/-- A text of one or more digits, with or without one plus sign before them. -/
def Numeral (cs digits : List Char) : Prop :=
  (cs = digits ∨ cs = '+' :: digits) ∧ digits ≠ [] ∧ ∀ c ∈ digits, c.isDigit = true

/-- Apart from the white space around it, the text writes `n`, which a word of 64 bits holds. -/
def WritesDepth (raw : String) (n : Nat) : Prop :=
  ∃ digits, Numeral (trim raw.toList) digits ∧ n = Nat.ofDigitChars 10 digits 0 ∧ n ≤ 2 ^ 64 - 1

/-- The texts that are complained about because they are no frame limits. -/
def depthWarnings (records : List LogRecord) : List String :=
  records.filterMap fun
    | .badDepth raw => some raw
    | _ => none

/-! ## Numerals -/

theorem isDigit_eq (c : Char) : isDigit c = c.isDigit := by
  rw [Bool.eq_iff_iff, Char.isDigit_iff_toNat]
  simp [isDigit]

theorem readDigits_eq_some_iff {bound n : Nat} {cs : List Char} :
    readDigits bound cs = some n ↔
      cs ≠ [] ∧ (∀ c ∈ cs, c.isDigit = true) ∧ n = Nat.ofDigitChars 10 cs 0 ∧ n < bound := by
  unfold readDigits
  simp only [Bool.and_eq_true, decide_eq_true_eq, List.all_eq_true, isDigit_eq, Bool.not_eq_true',
    List.isEmpty_eq_false_iff]
  split
  next fits =>
    obtain ⟨⟨some_digits, digits⟩, small⟩ := fits
    constructor
    · rintro ⟨⟩
      exact ⟨some_digits, digits, rfl, small⟩
    · rintro ⟨-, -, rfl, -⟩
      rfl
  next none_fits =>
    refine iff_of_false nofun ?_
    rintro ⟨some_digits, digits, rfl, small⟩
    exact none_fits ⟨⟨some_digits, digits⟩, small⟩

theorem readDecimal_eq_some_iff {bound n : Nat} {cs : List Char} :
    readDecimal bound cs = some n ↔
      ∃ digits, Numeral cs digits ∧ n = Nat.ofDigitChars 10 digits 0 ∧ n < bound := by
  have not_digit : '+'.isDigit ≠ true := by decide
  unfold readDecimal
  split
  next digits =>
    rw [readDigits_eq_some_iff]
    constructor
    · rintro ⟨some_digits, all_digits, value, small⟩
      exact ⟨digits, ⟨.inr rfl, some_digits, all_digits⟩, value, small⟩
    · rintro ⟨digits', ⟨rfl | same, some_digits, all_digits⟩, value, small⟩
      · exact absurd (all_digits '+' List.mem_cons_self) not_digit
      · cases same
        exact ⟨some_digits, all_digits, value, small⟩
  next unsigned =>
    rw [readDigits_eq_some_iff]
    constructor
    · rintro ⟨some_digits, all_digits, value, small⟩
      exact ⟨cs, ⟨.inl rfl, some_digits, all_digits⟩, value, small⟩
    · rintro ⟨digits, ⟨rfl | rfl, some_digits, all_digits⟩, value, small⟩
      · exact ⟨some_digits, all_digits, value, small⟩
      · exact absurd rfl (unsigned digits)

theorem readDepth_eq_some_iff {raw : String} {n : Nat} :
    readDepth raw = some n ↔ WritesDepth raw n := by
  have below : n < depthBound ↔ n ≤ 2 ^ 64 - 1 := by simp [depthBound]; omega
  rw [readDepth, readDecimal_eq_some_iff, WritesDepth]
  simp only [below]

/-- The decimal text of a number is a numeral, with white space around it or without. -/
theorem trim_padded_toString {u v : List Char} (left : ∀ c ∈ u, isBlank c = true)
    (right : ∀ c ∈ v, isBlank c = true) (n : Nat) :
    trim (String.ofList u ++ toString n ++ String.ofList v).toList = Nat.toDigits 10 n := by
  have digits : (toString n).toList = Nat.toDigits 10 n := Nat.toList_repr
  rw [String.toList_append, String.toList_append, String.toList_ofList, String.toList_ofList, digits,
    trim_padded left right]
  apply trim_of_not_blank
  intro c among
  have digit := Nat.isDigit_of_mem_toDigits (by decide) (by decide) among
  rw [Char.isDigit_iff_toNat] at digit
  simp [isBlank, Ranges.contains, blankRanges] at digit ⊢
  omega

theorem writesDepth_toString_iff {raw : String} {n m : Nat}
    (text : trim raw.toList = Nat.toDigits 10 n) :
    WritesDepth raw m ↔ m = n ∧ n < 2 ^ 64 := by
  have numeral : Numeral (Nat.toDigits 10 n) (Nat.toDigits 10 n) :=
    ⟨.inl rfl, Nat.toDigits_ne_nil,
      fun _ among => Nat.isDigit_of_mem_toDigits (by decide) (by decide) among⟩
  unfold WritesDepth
  rw [text]
  constructor
  · rintro ⟨digits, ⟨same | same, -, -⟩, value, small⟩
    · rw [← same, Nat.ofDigitChars_ten_toDigits] at value
      omega
    · -- no digit is a plus sign
      have sign : '+' ∈ Nat.toDigits 10 n := same ▸ List.mem_cons_self
      exact absurd (numeral.2.2 _ sign) (by decide)
  · rintro ⟨rfl, small⟩
    exact ⟨_, numeral, Nat.ofDigitChars_ten_toDigits.symm, by omega⟩

/-! ## Reading in words -/

/-- The word that digits add up to after `word`, or `none` from the first step on that would leave the
64 bits or that meets another character. -/
def accumulate (word : UInt64) : List Char → Option UInt64
  | [] => some word
  | c :: cs =>
    if c.isDigit = true ∧ 10 * word.toNat + digitValue c < 2 ^ 64 then
      accumulate (10 * word + UInt64.ofNat (digitValue c)) cs
    else none

def readWord : List Char → Option UInt64
  | [] => none
  | c :: cs => accumulate 0 (c :: cs)

/-- The frame limit as it is read into one word, digit after digit. -/
def wordDepth (raw : String) : Option UInt64 :=
  match trim raw.toList with
  | '+' :: cs => readWord cs
  | cs => readWord cs

theorem le_ofDigitChars (cs : List Char) (value : Nat) : value ≤ Nat.ofDigitChars 10 cs value := by
  rw [Nat.ofDigitChars_eq_ofDigitChars_zero]
  have scaled : value ≤ 10 ^ cs.length * value := Nat.le_mul_of_pos_left value (Nat.pow_pos (by decide))
  omega

theorem accumulate_iff {word : UInt64} {cs : List Char} {n : Nat} :
    (accumulate word cs).map UInt64.toNat = some n ↔
      (∀ c ∈ cs, c.isDigit = true) ∧ n = Nat.ofDigitChars 10 cs word.toNat ∧ n < 2 ^ 64 := by
  induction cs generalizing word with
  | nil =>
    have small := word.toNat_lt
    simp only [accumulate, Option.map_some, Option.some.injEq, Nat.ofDigitChars_nil]
    constructor
    · rintro rfl
      exact ⟨nofun, rfl, small⟩
    · rintro ⟨-, rfl, -⟩
      rfl
  | cons c cs ih =>
    unfold accumulate
    rw [Nat.ofDigitChars_cons]
    split
    next fits =>
      obtain ⟨digit, small⟩ := fits
      have exact_sum : (10 * word + UInt64.ofNat (digitValue c)).toNat =
          10 * word.toNat + digitValue c := by
        rw [UInt64.toNat_add, UInt64.toNat_mul, UInt64.toNat_ofNat']
        simp only [UInt64.reduceToNat]
        omega
      rw [ih, exact_sum, List.forall_mem_cons]
      exact ⟨fun ⟨digits, rest⟩ => ⟨⟨digit, digits⟩, rest⟩, fun ⟨⟨_, digits⟩, rest⟩ => ⟨digits, rest⟩⟩
    next leaves =>
      refine iff_of_false nofun ?_
      rintro ⟨digits, rfl, small⟩
      have grown := le_ofDigitChars cs (10 * word.toNat + (c.toNat - '0'.toNat))
      exact leaves ⟨digits c List.mem_cons_self, Nat.lt_of_le_of_lt grown small⟩

theorem readWord_eq (cs : List Char) : (readWord cs).map UInt64.toNat = readDigits depthBound cs := by
  apply Option.ext
  intro n
  rw [readDigits_eq_some_iff]
  cases cs with
  | nil => exact iff_of_false nofun fun ⟨some_digits, _⟩ => some_digits rfl
  | cons c cs =>
    rw [readWord, accumulate_iff, UInt64.toNat_zero]
    exact ⟨fun read => ⟨List.cons_ne_nil c cs, read⟩, fun ⟨_, read⟩ => read⟩

theorem wordDepth_eq (raw : String) : (wordDepth raw).map UInt64.toNat = readDepth raw := by
  unfold wordDepth readDepth
  split
  next digits signed =>
    rw [signed]
    exact readWord_eq digits
  next unsigned =>
    rw [readDecimal]
    · exact readWord_eq _
    · exact unsigned

/-! ## Both variables -/

theorem depthWarnings_records (r : Reading) : depthWarnings r.records = r.badDepth.toList := by
  have of_words (words : List String) :
      depthWarnings (words.map LogRecord.unknownFlag) = [] := by
    simp [depthWarnings]
  unfold Reading.records
  rw [depthWarnings, List.filterMap_append]
  change _ ++ depthWarnings (r.unknownWords.map .unknownFlag) = _
  rw [of_words, List.append_nil]
  cases r.badDepth <;> rfl

namespace Reading

/-- The limit that is read is the number that the second variable writes, and there is one complaint,
with the text as it was, if that is set and writes none. The switches are those of the first variable.
What is read from one variable, and complained about, is the same whatever the other is. The decimal
text of a number is read back with any white space around it if a word of 64 bits holds the number, and
refused else. A limit that is read in words, digit by digit, is the same. -/
theorem ofVariables_reads (debug maxDepth : Option String) :
    (∀ n, (ofVariables debug maxDepth).settings.maxDepth = some n ↔
      ∃ raw, maxDepth = some raw ∧ WritesDepth raw n) ∧
    depthWarnings (ofVariables debug maxDepth).records =
      (if (ofVariables debug maxDepth).settings.maxDepth = none then maxDepth.toList else []) ∧
    (ofVariables debug maxDepth).settings.debug = DebugSwitches.parse (debug.getD "") ∧
    (∀ debug', (ofVariables debug' maxDepth).settings.maxDepth =
        (ofVariables debug maxDepth).settings.maxDepth ∧
      depthWarnings (ofVariables debug' maxDepth).records =
        depthWarnings (ofVariables debug maxDepth).records) ∧
    (∀ maxDepth', (ofVariables debug maxDepth').settings.debug =
        (ofVariables debug maxDepth).settings.debug ∧
      (ofVariables debug maxDepth').unknownWords = (ofVariables debug maxDepth).unknownWords) ∧
    (∀ (n : Nat) (u v : List Char), (∀ c ∈ u, isBlank c = true) → (∀ c ∈ v, isBlank c = true) →
      (ofVariables debug
        (some (String.ofList u ++ toString n ++ String.ofList v))).settings.maxDepth =
          if n < 2 ^ 64 then some n else none) ∧
    ∀ raw, (ofVariables debug (some raw)).settings.maxDepth =
      (wordDepth raw).map UInt64.toNat := by
  have limit : (ofVariables debug maxDepth).settings.maxDepth = maxDepth.bind readDepth := rfl
  refine ⟨fun n => ?_, ?_, ?_, fun debug' => ⟨rfl, ?_⟩, fun _ => ⟨rfl, rfl⟩, ?_, ?_⟩
  · rw [limit, Option.bind_eq_some_iff]
    simp only [readDepth_eq_some_iff]
  · rw [depthWarnings_records, limit]
    change (maxDepth.filter fun raw => (readDepth raw).isNone).toList = _
    cases maxDepth with
    | none => rfl
    | some raw =>
      rw [Option.bind_some]
      cases read : readDepth raw <;> simp [read]
  · cases debug with
    | none => rfl
    | some text => rfl
  · rw [depthWarnings_records, depthWarnings_records]
    rfl
  · intro n u v left right
    have text := trim_padded_toString left right n
    apply Option.ext
    intro m
    change readDepth _ = some m ↔ _
    rw [readDepth_eq_some_iff, writesDepth_toString_iff text]
    split
    next small =>
      rw [Option.some.injEq]
      exact ⟨fun ⟨same, _⟩ => same.symm, fun same => ⟨same.symm, small⟩⟩
    next large => exact iff_of_false (fun ⟨_, small⟩ => large small) nofun
  · exact fun raw => (wordDepth_eq raw).symm

/-- The largest word is read between blanks, and the next number is refused. -/
theorem largest_word_ofVariables_reads :
    let limit (text : String) := (ofVariables (some "ir") (some text)).settings.maxDepth
    (∀ c ∈ ['\t'], isBlank c = true) ∧ (∀ c ∈ ['\n', ' '], isBlank c = true) ∧
      limit (String.ofList ['\t'] ++ toString (2 ^ 64 - 1) ++ String.ofList ['\n', ' ']) =
        some (2 ^ 64 - 1) ∧
      limit (String.ofList ['\t'] ++ toString (2 ^ 64) ++ String.ofList ['\n', ' ']) = none := by
  intro limit
  have left : ∀ c ∈ ['\t'], isBlank c = true := List.all_eq_true.mp rfl
  have right : ∀ c ∈ ['\n', ' '], isBlank c = true := List.all_eq_true.mp rfl
  obtain ⟨-, -, -, -, -, padded, -⟩ := ofVariables_reads (some "ir") none
  exact ⟨left, right, (padded _ _ _ left right).trans (if_pos (by decide)),
    (padded _ _ _ left right).trans (if_neg (by decide))⟩

end Reading

end BodyCall
