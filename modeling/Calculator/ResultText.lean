import Calculator.Decimal.Shortest

/-! The text of a displayed result: ten decimals, a half away from zero, then the
shortest decimal of the rounded double. Results beyond 10^10 or below 10^-6 are
written with six decimals and an exponent whose sign is always there. -/

set_option autoImplicit false

namespace Calculator

namespace Magnitude

/-- The double nearest to the value rounded to ten decimals. -/
def toTenDecimals (v : Magnitude) : Magnitude :=
  (Decimal.toMagnitude? ⟨Tie.away.divide (v.units * 10 ^ (10 : Nat)) one, -10⟩).getD v

/-- The digits of the value rounded to `decimals` places after the first digit,
as a whole number, and the exponent of that first digit. -/
def scientific (decimals : Nat) (v : Magnitude) : Nat × Int :=
  let (num, den) := v.onGrid (v.order - decimals)
  let digits := Tie.toEven.divide num den
  if digits = 10 ^ (decimals + 1) then (10 ^ decimals, v.order + 1) else (digits, v.order)

def exponentText : Int → List Char
  | .ofNat k => '+' :: Nat.toDigits 10 k
  | .negSucc k => '-' :: Nat.toDigits 10 (k + 1)

def scientificText (decimals : Nat) (v : Magnitude) : List Char :=
  let (digits, exponent) := v.scientific decimals
  (⟨digits, -(decimals : Int)⟩ : Decimal).text ++ 'e' :: exponentText exponent

def largestPlain : Magnitude := (Decimal.toMagnitude? ⟨1, 10⟩).getD .zero

/-- The double nearest to one millionth, the smallest result written in full. -/
def smallestPlain : Magnitude := (Decimal.toMagnitude? ⟨1, -6⟩).getD .zero

def resultText (v : Magnitude) : List Char :=
  if largestPlain.units < v.units ∨ (0 < v.units ∧ v.units < smallestPlain.units) then
    v.scientificText 6
  else v.text

end Magnitude

namespace Number

/-- What the display shows for a value; there is no negative zero. -/
def resultText : Number → List Char
  | .nan => "NaN".toList
  | .infinite false => "Infinity".toList
  | .infinite true => "-Infinity".toList
  | .finite negative m =>
    let r := m.toTenDecimals
    if negative ∧ r.units ≠ 0 then '-' :: r.resultText else r.resultText

end Number

end Calculator
