import Calculator.Arithmetic

set_option autoImplicit false

namespace Calculator

inductive Symbol
  | binary (op : Operator)
  | negate
  | opening
  | closing
  deriving DecidableEq, Repr

inductive Token
  | number (x : Number)
  | symbol (s : Symbol)
  deriving DecidableEq

namespace Operator

def char : Operator → Char
  | .plus => '+'
  | .minus => '-'
  | .times => '×'
  | .divide => '÷'
  | .power => '^'

end Operator

inductive Associativity
  | left
  | right
  deriving DecidableEq, Repr

/-- How strongly an operator holds its operands, and how equal ones group. -/
structure Binding where
  precedence : Nat
  associativity : Associativity
  deriving DecidableEq, Repr

def Operator.binding : Operator → Binding
  | .plus | .minus => ⟨1, .left⟩
  | .times | .divide => ⟨2, .left⟩
  | .power => ⟨3, .right⟩

namespace Symbol

def char : Symbol → Char
  | .binary op => op.char
  | .negate => '-'
  | .opening => '('
  | .closing => ')'

/-- Parentheses do not bind. -/
def binding? : Symbol → Option Binding
  | .binary op => some op.binding
  | .negate => some ⟨2, .right⟩
  | .opening => none
  | .closing => none

/-- The symbol that a character of an expression stands for; prefix minus has no
character of its own. -/
def ofChar? : Char → Option Symbol
  | '+' => some (.binary .plus)
  | '-' => some (.binary .minus)
  | '×' => some (.binary .times)
  | '*' => some (.binary .times)
  | '÷' => some (.binary .divide)
  | '/' => some (.binary .divide)
  | '^' => some (.binary .power)
  | '(' => some .opening
  | ')' => some .closing
  | _ => none

theorem ofChar?_char (s : Symbol) (h : s ≠ .negate) : ofChar? s.char = some s := by
  cases s with
  | binary op => cases op <;> rfl
  | negate => contradiction
  | opening => rfl
  | closing => rfl

end Symbol

namespace Token

def text : Token → List Char
  | .number x => x.text
  | .symbol .negate => "neg".toList
  | .symbol s => [s.char]

def listText : List Token → List Char
  | [] => []
  | [t] => t.text
  | t :: ts => t.text ++ ' ' :: listText ts

end Token

end Calculator
