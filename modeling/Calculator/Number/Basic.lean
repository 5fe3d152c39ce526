import Calculator.Number.Magnitude

/-! Double-precision numbers: a signed magnitude, an infinity of either sign, or
no number at all. Comparison looks at values, so neither zero is less than the
other, and nothing compares with `nan`. -/

set_option autoImplicit false

namespace Calculator

inductive Number
  | nan
  | infinite (negative : Bool)
  | finite (negative : Bool) (magnitude : Magnitude)
  deriving DecidableEq

namespace Number

def zero : Number := .finite false .zero

/-- A value on the scale of units, an infinity lying beyond every finite value. -/
def rank? : Number → Option Int
  | .nan => none
  | .infinite false => some Magnitude.bound
  | .infinite true => some (-Magnitude.bound)
  | .finite false m => some m.units
  | .finite true m => some (-m.units)

def less (x y : Number) : Bool :=
  match x.rank?, y.rank? with
  | some i, some j => i < j
  | _, _ => false

def atMost (x y : Number) : Bool :=
  match x.rank?, y.rank? with
  | some i, some j => i ≤ j
  | _, _ => false

/-- The smaller value; a number wins against `nan`. -/
def min (x y : Number) : Number :=
  match x, y with
  | .nan, y => y
  | x, .nan => x
  | x, y => if y.less x then y else x

def max (x y : Number) : Number :=
  match x, y with
  | .nan, y => y
  | x, .nan => x
  | x, y => if x.less y then y else x

def isZero : Number → Bool
  | .finite _ m => m.units == 0
  | _ => false

def isFinite : Number → Bool
  | .finite _ _ => true
  | _ => false

def neg : Number → Number
  | .nan => .nan
  | .infinite negative => .infinite !negative
  | .finite negative m => .finite (!negative) m

/-- A quotient of units rounded to a number, to an infinity beyond the range. -/
def ofQuotient (negative : Bool) (num den : Nat) : Number :=
  (Magnitude.nearest? num den).elim (.infinite negative) (.finite negative)

def ofNat (n : Nat) : Number := ofQuotient false (n * Magnitude.one) 1

theorem isFinite_neg (x : Number) : x.neg.isFinite = x.isFinite := by
  cases x <;> rfl

theorem ofQuotient_units (negative : Bool) (m : Magnitude) :
    ofQuotient negative m.units 1 = .finite negative m := by
  unfold ofQuotient
  rw [Magnitude.nearest?_units]
  rfl

end Number

end Calculator
