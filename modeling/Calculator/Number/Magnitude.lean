import Calculator.Rounding

/-! The size of a finite double, counted in units of 2^-1074. A magnitude has at
most 53 significant bits and stays below 2^1024. Main statement: rounding a
quotient to 53 bits gives a magnitude unless it reaches 2^1024, and a magnitude
rounds to itself. -/

set_option autoImplicit false

namespace Calculator

/-- At most 53 significant bits, and at most 2045 zero bits after them. -/
def Representable (units : Nat) : Prop :=
  ∃ m k : Nat, m < 2 ^ (53 : Nat) ∧ k ≤ 2045 ∧ units = m * 2 ^ k

structure Magnitude where
  units : Nat
  representable : Representable units
  deriving DecidableEq

namespace Magnitude

def fractionBits : Nat := 1074

def width : Nat := 2098

/-- How many units make the number one. -/
def one : Nat := 2 ^ fractionBits

def bound : Nat := 2 ^ width

theorem ext {v w : Magnitude} (h : v.units = w.units) : v = w := by
  cases v
  cases w
  cases h
  rfl

theorem one_pos : 0 < one := Nat.two_pow_pos _

theorem bound_pos : 0 < bound := Nat.two_pow_pos _

theorem two_pow_le_bound {n : Nat} (h : n ≤ width) : 2 ^ n ≤ bound :=
  Nat.pow_le_pow_right (by decide) h

theorem lt_of_two_pow_lt_bound {n : Nat} (h : 2 ^ n < bound) : n < width :=
  (Nat.pow_lt_pow_iff_right (by decide)).1 h

theorem units_lt_bound (v : Magnitude) : v.units < bound := by
  obtain ⟨m, k, hm, hk, hu⟩ := v.representable
  rw [hu]
  calc
    m * 2 ^ k < 2 ^ (53 : Nat) * 2 ^ k := Nat.mul_lt_mul_of_pos_right hm (Nat.two_pow_pos k)
    _ = 2 ^ (53 + k) := (Nat.pow_add 2 53 k).symm
    _ ≤ bound := two_pow_le_bound (by unfold width; omega)

/-- The distance between neighbouring magnitudes of this size. -/
def gap (units : Nat) : Nat := 2 ^ (Nat.log2 units - 52)

theorem gap_pos (units : Nat) : 0 < gap units := Nat.two_pow_pos _

/-- The quotient `num / den` rounded to 53 significant bits, a tie to the even neighbour. -/
def rounded (num den : Nat) : Nat :=
  Tie.toEven.divide num (den * gap (num / den)) * gap (num / den)

theorem rounded_mantissa_le (num den : Nat) :
    Tie.toEven.divide num (den * gap (num / den)) ≤ 2 ^ (53 : Nat) := by
  have h := Tie.toEven.divide_le num (den * gap (num / den))
  have hlt : num / den < 2 ^ (53 : Nat) * gap (num / den) := by
    have hl := Nat.lt_log2_self (n := num / den)
    rw [gap, ← Nat.pow_add]
    exact Nat.lt_of_lt_of_le hl (Nat.pow_le_pow_right (by decide) (by omega))
  have hd : num / (den * gap (num / den)) < 2 ^ (53 : Nat) := by
    rw [← Nat.div_div_eq_div_mul]
    exact Nat.div_lt_of_lt_mul (by rw [Nat.mul_comm]; exact hlt)
  omega

theorem le_rounded_mantissa {num den : Nat} (h : 52 < Nat.log2 (num / den)) :
    2 ^ (52 : Nat) ≤ Tie.toEven.divide num (den * gap (num / den)) := by
  have hne : num / den ≠ 0 := by
    intro h0
    rw [h0] at h
    simp at h
  have hl := Nat.log2_self_le hne
  have hg : 2 ^ (52 : Nat) * gap (num / den) ≤ num / den := by
    rw [gap, ← Nat.pow_add]
    rw [show 52 + (Nat.log2 (num / den) - 52) = Nat.log2 (num / den) by omega]
    exact hl
  refine Nat.le_trans ?_ (Tie.toEven.le_divide _ _)
  rw [← Nat.div_div_eq_div_mul]
  exact (Nat.le_div_iff_mul_le (gap_pos _)).2 hg

theorem representable_rounded {num den : Nat} (h : rounded num den < bound) :
    Representable (rounded num den) := by
  have hle := rounded_mantissa_le num den
  have hge := @le_rounded_mantissa num den
  generalize hm : Tie.toEven.divide num (den * gap (num / den)) = m at hle hge
  generalize he : Nat.log2 (num / den) - 52 = e at *
  have hr : rounded num den = m * 2 ^ e := by rw [rounded, hm, gap, he]
  rw [hr] at h ⊢
  rcases Nat.lt_or_eq_of_le hle with hlt | heq
  · refine ⟨m, e, hlt, ?_, rfl⟩
    rcases Nat.eq_zero_or_pos e with h0 | hpos
    · omega
    · have hm52 : 2 ^ (52 : Nat) ≤ m := hge (by omega)
      have hb : 2 ^ (52 + e) < bound := by
        rw [Nat.pow_add]
        exact Nat.lt_of_le_of_lt (Nat.mul_le_mul_right _ hm52) h
      have hw := lt_of_two_pow_lt_bound hb
      unfold width at hw
      omega
  · refine ⟨2 ^ (52 : Nat), e + 1, by decide, ?_, ?_⟩
    · rw [heq, ← Nat.pow_add] at h
      have hw := lt_of_two_pow_lt_bound h
      unfold width at hw
      omega
    · rw [heq, ← Nat.pow_add, ← Nat.pow_add, show 53 + e = 52 + (e + 1) by omega]

/-- The magnitude nearest to `num / den` units, or nothing from 2^1024 on. -/
def nearest? (num den : Nat) : Option Magnitude :=
  if h : rounded num den < bound then some ⟨rounded num den, representable_rounded h⟩ else none

def zero : Magnitude := ⟨0, 0, 0, by decide, by decide, rfl⟩

theorem gap_dvd (v : Magnitude) : gap v.units ∣ v.units ∧ Nat.log2 v.units - 52 ≤ 2045 := by
  obtain ⟨m, k, hm, hk, hu⟩ := v.representable
  rcases Nat.eq_zero_or_pos v.units with h0 | hpos
  · rw [h0]
    exact ⟨Nat.dvd_zero _, by decide⟩
  · have hlog : Nat.log2 v.units < 53 + k := by
      refine (Nat.log2_lt (by omega)).2 ?_
      rw [hu, Nat.pow_add]
      exact Nat.mul_lt_mul_of_pos_right hm (Nat.two_pow_pos k)
    refine ⟨Nat.dvd_trans (Nat.pow_dvd_pow 2 (show Nat.log2 v.units - 52 ≤ k by omega)) ?_,
      by omega⟩
    rw [hu]
    exact Nat.dvd_mul_left _ _

theorem rounded_units (v : Magnitude) : rounded v.units 1 = v.units := by
  obtain ⟨c, hc⟩ := v.gap_dvd.1
  simp only [rounded, Nat.div_one, Nat.one_mul]
  have hd : Tie.toEven.divide v.units (gap v.units) = c := by
    conv => lhs; arg 2; rw [hc, Nat.mul_comm]
    exact Tie.toEven.divide_mul_right c (gap_pos _)
  rw [hd, Nat.mul_comm]
  exact hc.symm

theorem nearest?_units (v : Magnitude) : nearest? v.units 1 = some v := by
  have h := v.rounded_units
  have hb : rounded v.units 1 < bound := by rw [h]; exact v.units_lt_bound
  simp only [nearest?, hb, dite_true, Option.some.injEq]
  exact ext h

end Magnitude

end Calculator
