/-!
# Numbers in decimal digits

* `ofDigits?`: the number that digits name; there is at least one digit, and nothing else.
* `ofSignedDigits?`: one plus sign may stand before the digits.
-/

namespace LivePatching.Text

/-- The number of a non-empty run of decimal digits. -/
def ofDigits? (cs : List Char) : Option Nat :=
  if cs ≠ [] ∧ cs.all Char.isDigit then some (Nat.ofDigitChars 10 cs 0) else none

/-- The number of digits behind an optional plus sign. -/
def ofSignedDigits? : List Char → Option Nat
  | '+' :: cs => ofDigits? cs
  | cs => ofDigits? cs

end LivePatching.Text
