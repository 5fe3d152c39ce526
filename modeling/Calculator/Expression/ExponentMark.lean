import Calculator.Decimal.Text

set_option autoImplicit false

namespace Calculator

/-- Whether a literal can stop before this text and go on in it: a digit, or a
sign and a digit. -/
def startsExponent : List Char → Bool
  | c :: d :: _ => c.isDigit || (Decimal.isSign c && d.isDigit)
  | [c] => c.isDigit
  | [] => false

def isLiteralCharacter (c : Char) : Bool := c.isDigit || c == '.'

/-- Whether the text starts with the mark of an exponent, given the character
before it. -/
def marksExponent (previous : Option Char) : List Char → Bool
  | c :: after =>
    Decimal.isExponentLetter c && previous.any isLiteralCharacter && startsExponent after
  | [] => false

def marksExponentAt (cs : List Char) (i : Nat) : Bool :=
  marksExponent (if i = 0 then none else cs[i - 1]?) (cs.drop i)

theorem marksExponentAt_zero (cs : List Char) : marksExponentAt cs 0 = false := by
  cases cs <;> simp [marksExponentAt, marksExponent]

end Calculator
