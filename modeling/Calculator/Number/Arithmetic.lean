import Calculator.Number.Basic

set_option autoImplicit false

namespace Calculator

namespace Number

def signed (negative : Bool) (m : Magnitude) : Int :=
  if negative then -(m.units : Int) else m.units

def add : Number → Number → Number
  | .nan, _ => .nan
  | _, .nan => .nan
  | .infinite s, .infinite t => if s = t then .infinite s else .nan
  | .infinite s, .finite _ _ => .infinite s
  | .finite _ _, .infinite t => .infinite t
  | .finite s a, .finite t b =>
    let sum := signed s a + signed t b
    if sum = 0 then .finite (s && t) .zero
    else ofQuotient (decide (sum < 0)) sum.natAbs 1

def sub (x y : Number) : Number := x.add y.neg

def mul : Number → Number → Number
  | .nan, _ => .nan
  | _, .nan => .nan
  | .infinite s, .infinite t => .infinite (s != t)
  | .infinite s, .finite t b => if b.units = 0 then .nan else .infinite (s != t)
  | .finite s a, .infinite t => if a.units = 0 then .nan else .infinite (s != t)
  | .finite s a, .finite t b => ofQuotient (s != t) (a.units * b.units) Magnitude.one

def div : Number → Number → Number
  | .nan, _ => .nan
  | _, .nan => .nan
  | .infinite _, .infinite _ => .nan
  | .infinite s, .finite t _ => .infinite (s != t)
  | .finite s _, .infinite t => .finite (s != t) .zero
  | .finite s a, .finite t b =>
    if b.units = 0 then
      if a.units = 0 then .nan else .infinite (s != t)
    else ofQuotient (s != t) (a.units * Magnitude.one) b.units

/-- The largest number whose square is at most `n`, found two bits at a time;
`pairs` bounds the number of bit pairs of `n`. -/
def rootFloor : (pairs : Nat) → (n : Nat) → Nat
  | 0, _ => 0
  | pairs + 1, n =>
    let r := 2 * rootFloor pairs (n / 4)
    if (r + 1) * (r + 1) ≤ n then r + 1 else r

/-- The root of `m × 2^shift` units, `m` being below 2^53: the root of `m` with sixty
more bits, an odd last bit standing for a rest. No root is half way between two
numbers, so rounding that is rounding the exact root. -/
def rootOf (m shift : Nat) : Number :=
  let square := m * 2 ^ (shift % 2) * 4 ^ (60 : Nat)
  let root := rootFloor 87 square
  let doubled := 2 * root + if root * root = square then 0 else 1
  ofQuotient false (doubled * 2 ^ (shift / 2)) (2 * 2 ^ (60 : Nat))

def sqrt : Number → Number
  | .nan => .nan
  | .infinite false => .infinite false
  | .infinite true => .nan
  | .finite s a =>
    if a.units = 0 then .finite s a
    else if s then .nan
    else
      rootOf (a.units / Magnitude.gap a.units)
        (Nat.log2 a.units - 52 + Magnitude.fractionBits)

theorem rootFloor_mul_self_le (pairs n : Nat) : rootFloor pairs n * rootFloor pairs n ≤ n := by
  induction pairs generalizing n with
  | zero => simp [rootFloor]
  | succ pairs ih =>
    simp only [rootFloor]
    split
    · assumption
    · have h := ih (n / 4)
      have hq : 2 * rootFloor pairs (n / 4) * (2 * rootFloor pairs (n / 4)) =
          4 * (rootFloor pairs (n / 4) * rootFloor pairs (n / 4)) := by
        rw [Nat.mul_mul_mul_comm]
      omega

theorem lt_rootFloor_succ_mul_self {pairs n : Nat} (hn : n < 4 ^ pairs) :
    n < (rootFloor pairs n + 1) * (rootFloor pairs n + 1) := by
  induction pairs generalizing n with
  | zero => simp [rootFloor]; omega
  | succ pairs ih =>
    have h := ih (n := n / 4) (by rw [Nat.pow_succ] at hn; omega)
    simp only [rootFloor]
    generalize rootFloor pairs (n / 4) = r at h
    have hs : (2 * r + 1 + 1) * (2 * r + 1 + 1) = 4 * ((r + 1) * (r + 1)) := by
      rw [show 2 * r + 1 + 1 = 2 * (r + 1) by omega, Nat.mul_mul_mul_comm]
    split
    · omega
    · omega

end Number

end Calculator
