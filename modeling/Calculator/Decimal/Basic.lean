import Calculator.Number.Basic

set_option autoImplicit false

namespace Calculator

structure Decimal where
  coefficient : Nat
  exponent : Int
  deriving DecidableEq, Repr

namespace Decimal

/-- The decimal in units, as a quotient. -/
def units (d : Decimal) : Nat × Nat :=
  match d.exponent with
  | .ofNat k => (d.coefficient * 10 ^ k * Magnitude.one, 1)
  | .negSucc k => (d.coefficient * Magnitude.one, 10 ^ (k + 1))

def toMagnitude? (d : Decimal) : Option Magnitude :=
  match d.exponent with
  | .ofNat k =>
    if d.coefficient = 0 then some .zero
    else if Magnitude.width ≤ 3 * k + Magnitude.fractionBits then none
    else Magnitude.nearest? d.units.1 d.units.2
  | .negSucc k =>
    if Nat.log2 d.coefficient + Magnitude.fractionBits + 2 ≤ 3 * (k + 1) then some .zero
    else Magnitude.nearest? d.units.1 d.units.2

theorem nearest?_eq_none {num den : Nat} (h : Magnitude.bound ≤ num / den) :
    Magnitude.nearest? num den = none := by
  have hne : num / den ≠ 0 := by
    have := Magnitude.bound_pos
    omega
  have hlog : Magnitude.width ≤ Nat.log2 (num / den) := by
    rcases Nat.lt_or_ge (Nat.log2 (num / den)) Magnitude.width with hl | hl
    · exact absurd ((Nat.log2_lt hne).1 hl) (Nat.not_lt.2 h)
    · exact hl
  have hw : Magnitude.width = 2098 := rfl
  have hm := @Magnitude.le_rounded_mantissa num den (by omega)
  have hr : Magnitude.bound ≤ Magnitude.rounded num den := by
    refine Nat.le_trans ?_ (Nat.mul_le_mul_right _ hm)
    rw [Magnitude.gap, ← Nat.pow_add]
    exact Nat.pow_le_pow_right (by decide) (by omega)
  simp only [Magnitude.nearest?, Nat.not_lt.2 hr, dite_false]

theorem nearest?_eq_zero {num den : Nat} (h : 2 * num < den) :
    Magnitude.nearest? num den = some .zero := by
  have hq : num / den = 0 := Nat.div_eq_of_lt (by omega)
  have hg : Magnitude.gap 0 = 1 := by decide
  have hr : Magnitude.rounded num den = 0 := by
    have hmod : num % den = num := Nat.mod_eq_of_lt (by omega)
    simp only [Magnitude.rounded, hq, hg, Nat.mul_one, Tie.divide, hmod, h, if_true]
  have hb : Magnitude.rounded num den < Magnitude.bound := by
    rw [hr]
    exact Magnitude.bound_pos
  simp only [Magnitude.nearest?, hb, dite_true, Option.some.injEq]
  exact Magnitude.ext hr

theorem two_pow_le_ten_pow (k : Nat) : 2 ^ (3 * k) ≤ 10 ^ k := by
  rw [Nat.pow_mul]
  exact Nat.pow_le_pow_left (by decide) k

theorem bound_le {c k : Nat} (hc : c ≠ 0)
    (hk : Magnitude.width ≤ 3 * k + Magnitude.fractionBits) :
    Magnitude.bound ≤ c * 10 ^ k * Magnitude.one := by
  calc
    Magnitude.bound ≤ 2 ^ (3 * k + Magnitude.fractionBits) :=
      Nat.pow_le_pow_right (by decide) hk
    _ = 2 ^ (3 * k) * Magnitude.one := Nat.pow_add 2 _ _
    _ ≤ 10 ^ k * Magnitude.one := Nat.mul_le_mul_right _ (two_pow_le_ten_pow k)
    _ ≤ c * 10 ^ k * Magnitude.one :=
      Nat.mul_le_mul_right _ (Nat.le_mul_of_pos_left _ (Nat.pos_of_ne_zero hc))

theorem two_mul_lt {c k : Nat} (hk : Nat.log2 c + Magnitude.fractionBits + 2 ≤ 3 * k) :
    2 * (c * Magnitude.one) < 10 ^ k := by
  calc
    2 * (c * Magnitude.one) < 2 * (2 ^ (Nat.log2 c + 1) * Magnitude.one) :=
      Nat.mul_lt_mul_of_pos_left
        (Nat.mul_lt_mul_of_pos_right Nat.lt_log2_self Magnitude.one_pos) (by decide)
    _ = 2 ^ (Nat.log2 c + 1 + Magnitude.fractionBits + 1) := by
      rw [Magnitude.one, ← Nat.pow_add, Nat.pow_add_one 2 (Nat.log2 c + 1 + _), Nat.mul_comm]
    _ ≤ 2 ^ (3 * k) := Nat.pow_le_pow_right (by decide) (by omega)
    _ ≤ 10 ^ k := two_pow_le_ten_pow k

/-- The exponent bounds only spare work. -/
theorem toMagnitude?_eq (d : Decimal) :
    d.toMagnitude? = Magnitude.nearest? d.units.1 d.units.2 := by
  obtain ⟨c, e⟩ := d
  cases e with
  | ofNat k =>
    simp only [toMagnitude?, units]
    split
    · subst c
      simp only [Nat.zero_mul]
      exact (nearest?_eq_zero (by decide)).symm
    · split
      · symm
        apply nearest?_eq_none
        rw [Nat.div_one]
        exact bound_le (by assumption) (by assumption)
      · rfl
  | negSucc k =>
    simp only [toMagnitude?, units]
    split
    · exact (nearest?_eq_zero (two_mul_lt (by assumption))).symm
    · rfl

theorem units_neg (c n : Nat) : units ⟨c, -(n : Int)⟩ = (c * Magnitude.one, 10 ^ n) := by
  cases n with
  | zero => simp [units]
  | succ n => rfl

theorem toMagnitude?_neg (c n : Nat) :
    toMagnitude? ⟨c, -(n : Int)⟩ = Magnitude.nearest? (c * Magnitude.one) (10 ^ n) := by
  rw [toMagnitude?_eq, units_neg]

def toNumber (d : Decimal) : Number :=
  d.toMagnitude?.elim (.infinite false) (.finite false)

def scale (d : Decimal) (shift : Int) : Decimal := ⟨d.coefficient, d.exponent + shift⟩

end Decimal

end Calculator
