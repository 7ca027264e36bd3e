/-!
# Decimal numbers below a bound
-/

namespace BodyCall.Text

def isDigit (c : Char) : Bool := 48 ≤ c.toNat && c.toNat ≤ 57

def digitValue (c : Char) : Nat := c.toNat - 48

/-- The value of a run of digits, most significant first, after `value`. -/
def digitsFrom (value : Nat) (cs : List Char) : Nat :=
  cs.foldl (fun n c => 10 * n + digitValue c) value

/-- The number that one or more digits write, if it is below the bound. -/
def readDigits (bound : Nat) (cs : List Char) : Option Nat :=
  if !cs.isEmpty && cs.all isDigit && digitsFrom 0 cs < bound then some (digitsFrom 0 cs) else none

/-- The number that a text writes with or without one plus sign, if it is below the bound. -/
def readDecimal (bound : Nat) : List Char → Option Nat
  | '+' :: cs => readDigits bound cs
  | cs => readDigits bound cs

end BodyCall.Text
