import BodyCall.Text.GraphemeExtend
import BodyCall.Text.Unprintable

/-!
# Quoted text

A text between double quotes, with escapes for what would not show as itself. The main fact is that
no text, whatever it holds, puts a line break into its quoted form.
-/

namespace BodyCall.Text

/-- The escape that names a code point in hexadecimal. -/
def hexEscape (c : Char) : List Char :=
  "\\u\x7b".toList ++ Nat.toDigits 16 c.toNat ++ ['\x7d']

def quoteChar (c : Char) : List Char :=
  if c = '\x00' then ['\\', '0']
  else if c = '\t' then ['\\', 't']
  else if c = '\r' then ['\\', 'r']
  else if c = '\n' then ['\\', 'n']
  else if c = '\\' ∨ c = '"' then ['\\', c]
  else if isGraphemeExtend c || !isPrintable c then hexEscape c
  else [c]

def quoteChars (cs : List Char) : List Char := cs.flatMap quoteChar

def quote (s : String) : String :=
  String.ofList ('"' :: (quoteChars s.toList ++ ['"']))

/-! ## No line breaks -/

theorem unbroken_toDigits {base : Nat} (some_digits : 1 < base) (few : base ≤ 16) (n : Nat) :
    '\n' ∉ Nat.toDigits base n := by
  have digit : ∀ d < 16, '\n' ≠ d.digitChar := by decide
  induction n using Nat.strongRecOn with
  | ind n ih =>
    rw [Nat.toDigits_eq_if some_digits]
    split
    next small => simp [digit n (by omega)]
    next large =>
      have shorter : n / base < n := Nat.div_lt_self (by omega) some_digits
      have last : n % base < base := Nat.mod_lt n (by omega)
      simp [ih (n / base) shorter, digit (n % base) (by omega)]

theorem unbroken_hexEscape (c : Char) : '\n' ∉ hexEscape c := by
  simp [hexEscape, unbroken_toDigits]

theorem unbroken_quoteChar (c : Char) : '\n' ∉ quoteChar c := by
  by_cases short : c = '\x00' ∨ c = '\t' ∨ c = '\r' ∨ c = '\n' ∨ c = '\\' ∨ c = '"'
  · rcases short with rfl | rfl | rfl | rfl | rfl | rfl <;> decide
  · simp only [not_or] at short
    obtain ⟨nul, tab, ret, line, backslash, mark⟩ := short
    simp only [quoteChar, nul, tab, ret, line, backslash, mark, or_self, if_false]
    split
    · exact unbroken_hexEscape c
    · simp [Ne.symm line]

theorem unbroken_quote (s : String) : '\n' ∉ (quote s).toList := by
  have inside : '\n' ∉ quoteChars s.toList := by
    intro among
    obtain ⟨c, _, broken⟩ := List.mem_flatMap.mp among
    exact unbroken_quoteChar c broken
  simp [quote, inside]

end BodyCall.Text
