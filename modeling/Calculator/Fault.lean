import Calculator.Decimal.Shortest
import Calculator.Function.Basic

set_option autoImplicit false

namespace Calculator

inductive Fault
  | unexpectedCharacter (c : Char)
  | malformedLiteral (literal : List Char)
  | literalTooLarge (literal : List Char)
  | closingWithoutOpening
  | unclosedParenthesis
  | missingOperand
  | strayParenthesis
  | emptyExpression
  | leftoverValues
  | unknownFunction (name : List Char)
  | missingParenthesis (f : Elementary)
  | callsTooDeep
  | unclosedCall (f : Elementary)
  | divisionByZero
  | logarithmDomain (f : Elementary)
  | rootDomain
  | factorialDomain
  | factorialTooLarge (n : Number)
  | notFinite
  deriving DecidableEq

namespace Fault

def maxCallDepth : Nat := 64

/-- The largest natural number whose factorial is below the largest double. -/
def maxFactorial : Nat := 170

inductive Kind
  | malformed
  | divisionByZero
  | domain
  | overflow
  | invalidResult
  deriving DecidableEq, Repr

def kind : Fault → Kind
  | .divisionByZero => .divisionByZero
  | .logarithmDomain _ | .rootDomain | .factorialDomain => .domain
  | .factorialTooLarge _ => .overflow
  | .notFinite => .invalidResult
  | _ => .malformed

def detail : Fault → List Char
  | .unexpectedCharacter c => "caractère inattendu: '".toList ++ [c] ++ "'".toList
  | .malformedLiteral literal => "nombre invalide: '".toList ++ literal ++ "'".toList
  | .literalTooLarge literal => "nombre hors limites: '".toList ++ literal ++ "'".toList
  | .closingWithoutOpening => "parenthèse fermante sans ouvrante".toList
  | .unclosedParenthesis => "parenthèse non fermée".toList
  | .missingOperand => "opérande manquant".toList
  | .strayParenthesis => "parenthèse inattendue en RPN".toList
  | .emptyExpression => "expression vide".toList
  | .leftoverValues => "expression invalide".toList
  | .unknownFunction name => "fonction inconnue: ".toList ++ name
  | .missingParenthesis f => "'(' attendue après ".toList ++ f.name
  | .callsTooDeep =>
    "plus de ".toList ++ Nat.toDigits 10 maxCallDepth ++
      " appels de fonction imbriqués".toList
  | .unclosedCall f => "parenthèse non fermée après ".toList ++ f.name
  | .logarithmDomain f => f.name ++ " d’un nombre négatif ou nul".toList
  | .rootDomain => "racine carrée d’un nombre négatif".toList
  | .factorialDomain => "factorielle d’un nombre négatif ou non entier".toList
  | .factorialTooLarge n =>
    n.text ++ "! dépasse ".toList ++ Nat.toDigits 10 maxFactorial ++ "!".toList
  | .divisionByZero | .notFinite => []

def message (f : Fault) : List Char :=
  match f.kind with
  | .malformed => "erreur de syntaxe: ".toList ++ f.detail
  | .divisionByZero => "division par zéro".toList
  | .domain => "hors domaine: ".toList ++ f.detail
  | .overflow => "dépassement: ".toList ++ f.detail
  | .invalidResult => "résultat invalide".toList

@[simp]
theorem ok_bind {α β : Type} (a : α) (f : α → Except Fault β) : (.ok a >>= f) = f a := rfl

@[simp]
theorem error_bind {α β : Type} (e : Fault) (f : α → Except Fault β) :
    (.error e >>= f) = .error e := rfl

theorem bind_eq_ok {α β : Type} {x : Except Fault α} {f : α → Except Fault β} {b : β} :
    (x >>= f) = .ok b ↔ ∃ a, x = .ok a ∧ f a = .ok b := by
  cases x with
  | error e => simp
  | ok a => simp

theorem bind_eq_error {α β : Type} {x : Except Fault α} {f : α → Except Fault β} {e : Fault} :
    (x >>= f) = .error e ↔ x = .error e ∨ ∃ a, x = .ok a ∧ f a = .error e := by
  cases x with
  | error e => simp
  | ok a => simp

end Fault

end Calculator
