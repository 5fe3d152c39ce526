/-! Division of naturals rounded to the nearest whole number. The tie rule is a
parameter: doubles round a half to the even neighbour, displayed decimals away
from zero. -/

set_option autoImplicit false

namespace Calculator

-- Powers of naturals are the built-in ones, whatever else a module imports.
attribute [scoped instance(high)] instPowNat

/-- Where a quotient half way between two whole numbers goes. -/
inductive Tie
  | toEven
  | away
  deriving DecidableEq, Repr

def Tie.divide (tie : Tie) (num den : Nat) : Nat :=
  if 2 * (num % den) < den then num / den
  else if den < 2 * (num % den) then num / den + 1
  else if tie = .toEven ∧ num / den % 2 = 0 then num / den
  else num / den + 1

namespace Tie

theorem le_divide (tie : Tie) (num den : Nat) : num / den ≤ tie.divide num den := by
  unfold divide
  split
  · omega
  · split
    · omega
    · split <;> omega

theorem divide_le (tie : Tie) (num den : Nat) : tie.divide num den ≤ num / den + 1 := by
  unfold divide
  split
  · omega
  · split
    · omega
    · split <;> omega

theorem divide_mul_right (tie : Tie) (q : Nat) {den : Nat} (hd : 0 < den) :
    tie.divide (q * den) den = q := by
  simp [divide, Nat.mul_mod_left, Nat.mul_div_cancel q hd, hd]

theorem divide_error (tie : Tie) (num : Nat) {den : Nat} (hd : 0 < den) :
    2 * num ≤ 2 * (tie.divide num den * den) + den ∧
      2 * (tie.divide num den * den) ≤ 2 * num + den := by
  have hm := Nat.div_add_mod num den
  have hr := Nat.mod_lt num hd
  have hq : (num / den + 1) * den = den * (num / den) + den := by
    rw [Nat.add_mul, Nat.one_mul, Nat.mul_comm]
  have hq' : num / den * den = den * (num / den) := Nat.mul_comm _ _
  unfold divide
  split
  · rw [hq']; omega
  · split
    · rw [hq]; omega
    · split
      · rw [hq']; omega
      · rw [hq]; omega

end Tie

end Calculator
