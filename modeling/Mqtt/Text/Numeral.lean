/-!
# Unsigned numerals

Decimal numerals with an upper bound: an optional plus sign, then at least one ASCII digit.
Leading zeros are allowed. A numeral is read from the left and the first fault found is the one
reported, so a numeral that has grown too large is never searched for a character that is no digit.
-/

namespace Mqtt.Text

/-- Why a text is no numeral within its bound. -/
inductive NumeralFault where
  | empty
  | invalidDigit
  | tooLarge
deriving DecidableEq

/-- The wording of a fault. -/
def NumeralFault.message : NumeralFault → String
  | .empty        => "cannot parse integer from empty string"
  | .invalidDigit => "invalid digit found in string"
  | .tooLarge     => "number too large to fit in target type"

namespace Numeral

/-- The value of the digits `cs` written after a numeral of value `value`. -/
def digits (bound : Nat) : Nat → List Char → Except NumeralFault Nat
  | value, []      => .ok value
  | value, c :: cs =>
    if c.isDigit then
      let next := 10 * value + (c.toNat - 48)
      if next ≤ bound then digits bound next cs else .error .tooLarge
    else .error .invalidDigit

/-- The value of a numeral that is not above `bound`. -/
def parse (bound : Nat) : List Char → Except NumeralFault Nat
  | []             => .error .empty
  | '+' :: c :: cs => digits bound 0 (c :: cs)
  | cs             => digits bound 0 cs

end Numeral

end Mqtt.Text
