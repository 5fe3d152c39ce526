import Calculator.Expression.Constants
import Calculator.Expression.Calls

set_option autoImplicit false

namespace Calculator

def evaluateWith (A : Arithmetic) (cs : List Char) : Except Fault Number := do
  let expanded ← Calls.expand A (Constants.expand cs)
  let x ← infixValue A expanded
  finite x

def evaluate (cs : List Char) : Except Fault Number := evaluateWith .double cs

theorem isFinite_of_evaluateWith {A : Arithmetic} {cs : List Char} {x : Number}
    (h : evaluateWith A cs = .ok x) : x.isFinite = true := by
  obtain ⟨_, _, h⟩ := Fault.bind_eq_ok.1 h
  obtain ⟨_, _, h⟩ := Fault.bind_eq_ok.1 h
  exact (finite_eq_ok_iff.1 h).1 ▸ (finite_eq_ok_iff.1 h).2

end Calculator
