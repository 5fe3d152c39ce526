import Calculator.Number.Arithmetic
import Calculator.Number.Elementary
import Calculator.Fault

set_option autoImplicit false

namespace Calculator

inductive Operator
  | plus
  | minus
  | times
  | divide
  | power
  deriving DecidableEq, Repr

structure Arithmetic where
  negate : Number → Number
  combine : Operator → Number → Number → Number
  elementary : Elementary → Number → Number

namespace Arithmetic

/-- Double-precision arithmetic, angles in radians. -/
def double : Arithmetic where
  negate := Number.neg
  combine
    | .plus => Number.add
    | .minus => Number.sub
    | .times => Number.mul
    | .divide => Number.div
    | .power => Number.pow
  elementary
    | .sqrt => Number.sqrt
    | .sin => Number.sin
    | .cos => Number.cos
    | .tan => Number.tan
    | .log => Number.log
    | .ln => Number.ln

end Arithmetic

def finite (x : Number) : Except Fault Number :=
  if x.isFinite then .ok x else .error .notFinite

theorem finite_eq_ok_iff {x y : Number} : finite x = .ok y ↔ x = y ∧ y.isFinite = true := by
  unfold finite
  split
  · constructor
    · intro h
      injection h with h
      subst h
      exact ⟨rfl, by assumption⟩
    · rintro ⟨rfl, _⟩
      rfl
  · constructor
    · intro h
      cases h
    · rintro ⟨rfl, h⟩
      contradiction

namespace Elementary

def admits (f : Elementary) (x : Number) : Except Fault Unit :=
  match f with
  | .log | .ln => if x.atMost .zero then .error (.logarithmDomain f) else .ok ()
  | .sqrt => if x.less .zero then .error .rootDomain else .ok ()
  | _ => .ok ()

def apply (A : Arithmetic) (f : Elementary) (x : Number) : Except Fault Number := do
  f.admits x
  finite (A.elementary f x)

end Elementary

namespace Number

/-- The whole number that a value is, if it is none below zero. -/
def natural? : Number → Option Nat
  | .finite negative m =>
    if m.units % Magnitude.one = 0 ∧ (negative = true → m.units = 0) then
      some (m.units / Magnitude.one)
    else none
  | _ => none

end Number

def factorial : Nat → Nat
  | 0 => 1
  | n + 1 => (n + 1) * factorial n

namespace Function

def apply (A : Arithmetic) (f : Function) (x : Number) : Except Fault Number :=
  match f with
  | .elementary f => f.apply A x
  | .square => finite (A.combine .times x x)
  | .cube => finite (A.combine .times (A.combine .times x x) x)
  | .opposite => finite (A.negate x)
  | .percent => finite (A.combine .divide x (.ofNat 100))
  | .factorial =>
    match x.natural? with
    | none => .error .factorialDomain
    | some n =>
      if n ≤ Fault.maxFactorial then finite (.ofNat (Calculator.factorial n))
      else .error (.factorialTooLarge x)

end Function

theorem Elementary.isFinite_of_apply {A : Arithmetic} {f : Elementary} {x y : Number}
    (h : f.apply A x = .ok y) : y.isFinite = true := by
  obtain ⟨_, _, h⟩ := Fault.bind_eq_ok.1 h
  exact (finite_eq_ok_iff.1 h).2

theorem Function.isFinite_of_apply {A : Arithmetic} {f : Function} {x y : Number}
    (h : f.apply A x = .ok y) : y.isFinite = true := by
  cases f with
  | elementary f => exact Elementary.isFinite_of_apply h
  | factorial =>
    unfold apply at h
    dsimp only at h
    split at h
    · cases h
    · split at h
      · exact (finite_eq_ok_iff.1 h).2
      · cases h
  | _ => exact (finite_eq_ok_iff.1 h).2

def applyNamed (A : Arithmetic) (name : List Char) (x : Number) : Except Fault Number :=
  match Function.ofName? name with
  | some f => f.apply A x
  | none => .error (.unknownFunction name)

end Calculator
