import Calculator.Expression.ExponentMark
import Calculator.Text.Alphabetic

/-! The constants π and e, written out as numbers in parentheses. An `e` that
touches a letter belongs to a name and one that marks an exponent to a literal;
both stay. -/

set_option autoImplicit false

namespace Calculator

namespace Constants

def pi : List Char := "(3.141592653589793)".toList

def euler : List Char := "(2.718281828459045)".toList

/-- Whether a neighbour makes an `e` part of a name; π is a constant, no letter. -/
def isNameLetter (c : Char) : Bool := isAlphabetic c && c != 'π'

def isEuler (previous : Option Char) (after : List Char) : Bool :=
  !previous.any isNameLetter && !after.head?.any isNameLetter &&
    !marksExponent previous ('e' :: after)

/-- The text behind the character `previous` with its constants written out. -/
def expandAfter (previous : Option Char) : List Char → List Char
  | [] => []
  | c :: after =>
    let written :=
      if c = 'π' then pi
      else if c = 'e' ∧ isEuler previous after = true then euler
      else [c]
    written ++ expandAfter (some c) after

def expand (cs : List Char) : List Char := expandAfter none cs

end Constants

end Calculator
