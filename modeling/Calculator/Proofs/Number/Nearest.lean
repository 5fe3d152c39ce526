import Mathlib.Algebra.Order.Field.Power
import Mathlib.Tactic.FieldSimp
import Mathlib.Tactic.Linarith
import Mathlib.Tactic.Positivity
import Mathlib.Tactic.Ring
import Calculator.Decimal.Basic

set_option autoImplicit false

namespace Calculator

theorem Tie.divide_nearest (tie : Tie) (num : Nat) {den : Nat} (hd : 0 < den) (k : Nat) :
    |((tie.divide num den * den : Nat) : Int) - num| ≤ |((k * den : Nat) : Int) - num| := by
  obtain ⟨hlow, hhigh⟩ := tie.divide_error num hd
  generalize tie.divide num den = d at *
  rcases Nat.lt_trichotomy k d with hk | rfl | hk
  · have hle : (k + 1) * den ≤ d * den := Nat.mul_le_mul_right den hk
    rw [Nat.add_mul, Nat.one_mul] at hle
    generalize k * den = x at *
    generalize d * den = y at *
    rcases abs_cases ((y : Int) - num) with ⟨h, _⟩ | ⟨h, _⟩ <;>
      rcases abs_cases ((x : Int) - num) with ⟨h', _⟩ | ⟨h', _⟩ <;> omega
  · exact le_refl _
  · have hle : (d + 1) * den ≤ k * den := Nat.mul_le_mul_right den hk
    rw [Nat.add_mul, Nat.one_mul] at hle
    generalize k * den = x at *
    generalize d * den = y at *
    rcases abs_cases ((y : Int) - num) with ⟨h, _⟩ | ⟨h, _⟩ <;>
      rcases abs_cases ((x : Int) - num) with ⟨h', _⟩ | ⟨h', _⟩ <;> omega

namespace Magnitude

/-- A magnitude is on the grid of a size, or below the power of two at its foot, which
is on the grid. -/
theorem gap_dvd_or_lt (v : Magnitude) (n : Nat) :
    gap n ∣ v.units ∨ v.units < 2 ^ Nat.log2 n ∧ gap n ∣ 2 ^ Nat.log2 n ∧ 2 ^ Nat.log2 n ≤ n := by
  by_cases hlog : Nat.log2 n ≤ Nat.log2 v.units
  · left
    have hdvd : gap n ∣ gap v.units := Nat.pow_dvd_pow 2 (by omega)
    exact Nat.dvd_trans hdvd v.gap_dvd.1
  · right
    have hn : n ≠ 0 := by
      rintro rfl
      simp at hlog
    refine ⟨?_, Nat.pow_dvd_pow 2 (by omega), Nat.log2_self_le hn⟩
    by_cases hv : v.units = 0
    · rw [hv]
      exact Nat.two_pow_pos _
    · exact (Nat.log2_lt hv).1 (by omega)

/-- No magnitude is nearer to a quotient than the rounded one. -/
theorem rounded_nearest (num : Nat) {den : Nat} (hd : 0 < den) (v : Magnitude) :
    |((rounded num den * den : Nat) : Int) - num| ≤ |((v.units * den : Nat) : Int) - num| := by
  have hgrid : ∀ k : Nat, gap (num / den) ∣ k →
      |((rounded num den * den : Nat) : Int) - num| ≤ |((k * den : Nat) : Int) - num| := by
    rintro k ⟨c, rfl⟩
    have h := Tie.toEven.divide_nearest num (Nat.mul_pos hd (gap_pos (num / den))) c
    rw [rounded, Nat.mul_assoc, Nat.mul_comm (gap _) den, Nat.mul_comm (gap _) c, Nat.mul_assoc,
      Nat.mul_comm (gap _) den]
    exact h
  rcases v.gap_dvd_or_lt (num / den) with hv | ⟨hlt, hdvd, hle⟩
  · exact hgrid _ hv
  · refine le_trans (hgrid _ hdvd) ?_
    have hfoot : 2 ^ Nat.log2 (num / den) * den ≤ num := (Nat.le_div_iff_mul_le hd).1 hle
    have hbelow : v.units * den ≤ 2 ^ Nat.log2 (num / den) * den :=
      Nat.mul_le_mul_right den (Nat.le_of_lt hlt)
    generalize 2 ^ Nat.log2 (num / den) * den = x at *
    generalize v.units * den = y at *
    rw [abs_of_nonpos (by omega), abs_of_nonpos (by omega)]
    omega

theorem rounded_le {num den : Nat} (hd : 0 < den) {v : Magnitude} (h : num ≤ v.units * den) :
    rounded num den ≤ v.units := by
  have hnear := rounded_nearest num hd v
  refine Nat.le_of_mul_le_mul_right ?_ hd
  generalize v.units * den = y at *
  rw [abs_of_nonneg (a := (y : Int) - num) (by omega)] at hnear
  have := le_trans (le_abs_self _) hnear
  omega

theorem le_rounded {num den : Nat} (hd : 0 < den) {v : Magnitude} (h : v.units * den ≤ num) :
    v.units ≤ rounded num den := by
  have hnear := rounded_nearest num hd v
  refine Nat.le_of_mul_le_mul_right ?_ hd
  generalize v.units * den = y at *
  rw [abs_of_nonpos (a := (y : Int) - num) (by omega)] at hnear
  have := le_trans (neg_le_abs _) hnear
  omega

theorem exists_nearest? {num den : Nat} (hd : 0 < den) {v : Magnitude}
    (h : num ≤ v.units * den) : ∃ r, nearest? num den = some r := by
  have hb : rounded num den < bound := Nat.lt_of_le_of_lt (rounded_le hd h) v.units_lt_bound
  exact ⟨_, by rw [nearest?, dif_pos hb]⟩

theorem units_of_nearest? {num den : Nat} {r : Magnitude} (h : nearest? num den = some r) :
    r.units = rounded num den := by
  rw [nearest?] at h
  split at h
  · cases h
    rfl
  · cases h

def toRat (v : Magnitude) : ℚ := v.units / one

theorem toRat_nonneg (v : Magnitude) : 0 ≤ v.toRat := by
  unfold toRat
  positivity

end Magnitude

namespace Decimal

def toRat (d : Decimal) : ℚ := d.coefficient * 10 ^ d.exponent

theorem toRat_nonneg (d : Decimal) : 0 ≤ d.toRat :=
  mul_nonneg (Nat.cast_nonneg _) (zpow_nonneg (by norm_num) _)

theorem units_pos (d : Decimal) : 0 < d.units.2 := by
  obtain ⟨c, e⟩ := d
  cases e with
  | ofNat k => exact Nat.one_pos
  | negSucc k => exact Nat.pow_pos (by decide)

theorem toRat_eq (d : Decimal) : d.toRat = d.units.1 / (d.units.2 * Magnitude.one : ℚ) := by
  have hone : (Magnitude.one : ℚ) ≠ 0 := Nat.cast_ne_zero.2 Magnitude.one_pos.ne'
  obtain ⟨c, e⟩ := d
  cases e with
  | ofNat k =>
    simp only [toRat, units, Int.ofNat_eq_natCast, zpow_natCast]
    push_cast
    field_simp
  | negSucc k =>
    simp only [toRat, units, zpow_negSucc]
    push_cast
    field_simp

theorem abs_toRat_sub (d : Decimal) (v : Magnitude) :
    |v.toRat - d.toRat| =
      |((v.units * d.units.2 : Nat) : Int) - d.units.1| / (d.units.2 * Magnitude.one : ℚ) := by
  have hone : (0 : ℚ) < Magnitude.one := Nat.cast_pos.2 Magnitude.one_pos
  have hden : (0 : ℚ) < d.units.2 := Nat.cast_pos.2 d.units_pos
  have heq : v.toRat - d.toRat =
      (((v.units * d.units.2 : Nat) : Int) - d.units.1 : Int) /
        (d.units.2 * Magnitude.one : ℚ) := by
    rw [toRat_eq, Magnitude.toRat]
    push_cast
    field_simp
  rw [heq, abs_div, abs_of_pos (mul_pos hden hone), Int.cast_abs]

theorem units_of_toMagnitude? {d : Decimal} {r : Magnitude} (h : d.toMagnitude? = some r) :
    r.units = Magnitude.rounded d.units.1 d.units.2 := by
  rw [toMagnitude?_eq] at h
  exact Magnitude.units_of_nearest? h

theorem toMagnitude?_nearest {d : Decimal} {r : Magnitude} (h : d.toMagnitude? = some r)
    (v : Magnitude) : |r.toRat - d.toRat| ≤ |v.toRat - d.toRat| := by
  have hnear := Magnitude.rounded_nearest d.units.1 d.units_pos v
  rw [← units_of_toMagnitude? h] at hnear
  rw [abs_toRat_sub, abs_toRat_sub]
  have hpos : (0 : ℚ) ≤ d.units.2 * Magnitude.one :=
    mul_nonneg (Nat.cast_nonneg _) (Nat.cast_nonneg _)
  exact div_le_div_of_nonneg_right (Int.cast_le.2 hnear) hpos

theorem exists_toMagnitude? {d : Decimal} {v : Magnitude} (h : d.toRat ≤ v.toRat) :
    ∃ r, d.toMagnitude? = some r := by
  have hone : (0 : ℚ) < Magnitude.one := Nat.cast_pos.2 Magnitude.one_pos
  have hden : (0 : ℚ) < d.units.2 := Nat.cast_pos.2 d.units_pos
  rw [toRat_eq, Magnitude.toRat, div_le_div_iff₀ (mul_pos hden hone) hone, ← mul_assoc] at h
  have hle : (d.units.1 : ℚ) ≤ v.units * d.units.2 := le_of_mul_le_mul_right h hone
  rw [toMagnitude?_eq]
  exact Magnitude.exists_nearest? d.units_pos (v := v) (by exact_mod_cast hle)

end Decimal

def Number.toRat : Number → ℚ
  | .finite false m => m.toRat
  | .finite true m => -m.toRat
  | _ => 0

end Calculator
