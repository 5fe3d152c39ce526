import Calculator.Decimal.Shortest
import Calculator.Proofs.Number.Nearest

set_option autoImplicit false

namespace Calculator

namespace Magnitude

theorem toRat_le_iff {v w : Magnitude} : v.toRat ≤ w.toRat ↔ v.units ≤ w.units := by
  have hone : (0 : ℚ) < one := Nat.cast_pos.2 one_pos
  rw [toRat, toRat, div_le_div_iff_of_pos_right hone, Nat.cast_le]

theorem toRat_lt_iff {v w : Magnitude} : v.toRat < w.toRat ↔ v.units < w.units := by
  rw [← not_le, ← not_le, toRat_le_iff]

theorem toRat_eq_zero_iff {v : Magnitude} : v.toRat = 0 ↔ v.units = 0 := by
  have hone : (one : ℚ) ≠ 0 := Nat.cast_ne_zero.2 one_pos.ne'
  rw [toRat, div_eq_zero_iff, or_iff_left hone, Nat.cast_eq_zero]

/-- Below a power of two magnitudes lie half as far apart as above it. -/
theorem two_pow_le_mul_sub {u : Magnitude} {n : Nat} (h : u.units < 2 ^ n) :
    2 ^ n ≤ 2 ^ (53 : Nat) * (2 ^ n - u.units) := by
  obtain ⟨m, k, hm, -, hu⟩ := u.representable
  rw [hu] at h ⊢
  rcases Nat.lt_or_ge n k with hnk | hkn
  · have hm0 : m = 0 := by
      by_contra hne
      have hpow : 2 ^ n < 2 ^ k := (Nat.pow_lt_pow_iff_right (by decide)).2 hnk
      have hmul : 2 ^ k ≤ m * 2 ^ k := Nat.le_mul_of_pos_left _ (Nat.pos_of_ne_zero hne)
      omega
    rw [hm0, Nat.zero_mul, Nat.sub_zero]
    exact Nat.le_mul_of_pos_left _ (by decide)
  · obtain ⟨j, rfl⟩ := Nat.exists_eq_add_of_le' hkn
    rw [Nat.pow_add] at h ⊢
    have hlt : m < 2 ^ j := Nat.lt_of_mul_lt_mul_right h
    have hsteps : 2 ^ j ≤ 2 ^ (53 : Nat) * (2 ^ j - m) := by
      rcases Nat.lt_or_ge 53 j with hj | hj
      · have hwide : 2 ^ (54 : Nat) ≤ 2 ^ j := Nat.pow_le_pow_right (by decide) hj
        omega
      · have hnarrow : 2 ^ j ≤ 2 ^ (53 : Nat) := Nat.pow_le_pow_right (by decide) hj
        exact hnarrow.trans (Nat.le_mul_of_pos_right _ (by omega))
    calc
      2 ^ j * 2 ^ k ≤ 2 ^ (53 : Nat) * (2 ^ j - m) * 2 ^ k := Nat.mul_le_mul_right _ hsteps
      _ = 2 ^ (53 : Nat) * (2 ^ j * 2 ^ k - m * 2 ^ k) := by rw [Nat.mul_assoc, Nat.sub_mul]

theorem le_mul_sub_of_lt {u v : Magnitude} (h : u.units < v.units) :
    v.units ≤ 2 ^ (53 : Nat) * (v.units - u.units) := by
  have hne : v.units ≠ 0 := by omega
  have hfoot := Nat.log2_self_le hne
  have hlt : v.units < 2 ^ (53 : Nat) * gap v.units := by
    refine Nat.lt_of_lt_of_le Nat.lt_log2_self ?_
    rw [gap, ← Nat.pow_add]
    exact Nat.pow_le_pow_right (by decide) (by omega)
  -- two numbers on the grid of `v` differ by a gap
  have hgrid (a : Nat) (ha : gap v.units ∣ a) (hav : a < v.units) :
      v.units ≤ 2 ^ (53 : Nat) * (v.units - a) := by
    have hdvd := Nat.le_of_dvd (by omega) (Nat.dvd_sub v.gap_dvd.1 ha)
    exact hlt.le.trans (Nat.mul_le_mul_left _ hdvd)
  rcases u.gap_dvd_or_lt v.units with hu | ⟨hu, hdvd, -⟩
  · exact hgrid _ hu h
  · rcases Nat.lt_or_eq_of_le hfoot with hfoot | hfoot
    · exact (hgrid _ hdvd hfoot).trans (Nat.mul_le_mul_left _ (by omega))
    · rw [← hfoot]
      exact two_pow_le_mul_sub hu

theorem toRat_div_le_abs_sub {u v : Magnitude} (h : u ≠ v) :
    v.toRat / 2 ^ 53 ≤ |u.toRat - v.toRat| := by
  have hone : (0 : ℚ) < one := Nat.cast_pos.2 one_pos
  have hunits : v.units ≤ 2 ^ (53 : Nat) * ((u.units : Int) - v.units).natAbs := by
    rcases Nat.lt_trichotomy u.units v.units with hlt | heq | hgt
    · have := le_mul_sub_of_lt hlt
      omega
    · exact absurd (ext heq) h
    · have := le_mul_sub_of_lt hgt
      omega
  have habs : |u.toRat - v.toRat| = (((u.units : Int) - v.units).natAbs : ℚ) / one := by
    rw [toRat, toRat, ← sub_div, abs_div, abs_of_pos hone, Nat.cast_natAbs]
    push_cast
    rfl
  have hcast : (v.units : ℚ) ≤ 2 ^ (53 : Nat) * (((u.units : Int) - v.units).natAbs : ℚ) := by
    exact_mod_cast hunits
  rw [habs, toRat, div_right_comm, div_le_div_iff_of_pos_right hone, div_le_iff₀ (by positivity)]
  linarith

/-- A quotient of normal size is rounded by 1/2^53 of it at most. -/
theorem rounded_error {num den : Nat} (hd : 0 < den) (h : 2 ^ (52 : Nat) * den ≤ num) :
    2 ^ (53 : Nat) * |((rounded num den * den : Nat) : Int) - num| ≤ num := by
  have hq : 2 ^ (52 : Nat) ≤ num / den := (Nat.le_div_iff_mul_le hd).2 h
  have hlog : 52 ≤ Nat.log2 (num / den) := (Nat.le_log2 (by omega)).2 hq
  have hgap : 2 ^ (52 : Nat) * gap (num / den) ≤ num / den := by
    rw [gap, ← Nat.pow_add, Nat.add_sub_cancel' hlog]
    exact Nat.log2_self_le (by omega)
  have hstep : 2 ^ (52 : Nat) * (den * gap (num / den)) ≤ num := by
    calc
      2 ^ (52 : Nat) * (den * gap (num / den)) = den * (2 ^ (52 : Nat) * gap (num / den)) := by ring
      _ ≤ den * (num / den) := Nat.mul_le_mul_left den hgap
      _ ≤ num := Nat.mul_div_le num den
  obtain ⟨hlow, hhigh⟩ := Tie.toEven.divide_error num (Nat.mul_pos hd (gap_pos (num / den)))
  have hrounded : rounded num den * den =
      Tie.toEven.divide num (den * gap (num / den)) * (den * gap (num / den)) := by
    rw [rounded]
    ring
  rw [hrounded]
  generalize Tie.toEven.divide num _ * _ = nearest at *
  generalize den * gap (num / den) = step at *
  rcases abs_cases ((nearest : Int) - num) with ⟨habs, -⟩ | ⟨habs, -⟩ <;> omega

end Magnitude

namespace Decimal

theorem toMagnitude?_congr {d e : Decimal} (h : d.toRat = e.toRat) :
    d.toMagnitude? = e.toMagnitude? := by
  have hone : (Magnitude.one : ℚ) ≠ 0 := Nat.cast_ne_zero.2 Magnitude.one_pos.ne'
  have hd : (d.units.2 : ℚ) ≠ 0 := Nat.cast_ne_zero.2 d.units_pos.ne'
  have he : (e.units.2 : ℚ) ≠ 0 := Nat.cast_ne_zero.2 e.units_pos.ne'
  rw [toRat_eq, toRat_eq, div_eq_div_iff (mul_ne_zero hd hone) (mul_ne_zero he hone),
    ← mul_assoc, ← mul_assoc] at h
  have hcross : d.units.1 * e.units.2 = e.units.1 * d.units.2 := by
    exact_mod_cast mul_right_cancel₀ hone h
  rw [toMagnitude?_eq, toMagnitude?_eq, ← Magnitude.nearest?_mul_right _ _ e.units_pos, hcross,
    Nat.mul_comm d.units.2, Magnitude.nearest?_mul_right _ _ d.units_pos]

theorem abs_toMagnitude?_sub_le {d : Decimal} {r : Magnitude} (h : d.toMagnitude? = some r)
    (hd : 2 ^ 52 / Magnitude.one ≤ d.toRat) : |r.toRat - d.toRat| ≤ d.toRat / 2 ^ 53 := by
  have hone : (0 : ℚ) < Magnitude.one := Nat.cast_pos.2 Magnitude.one_pos
  have hden : (0 : ℚ) < d.units.2 := Nat.cast_pos.2 d.units_pos
  rw [toRat_eq, div_le_div_iff₀ hone (mul_pos hden hone), ← mul_assoc] at hd
  have hnormal : 2 ^ (52 : Nat) * d.units.2 ≤ d.units.1 := by
    exact_mod_cast le_of_mul_le_mul_right hd hone
  have herror := Magnitude.rounded_error d.units_pos hnormal
  rw [← units_of_toMagnitude? h] at herror
  have hcast : (2 : ℚ) ^ 53 * ((|((r.units * d.units.2 : Nat) : Int) - d.units.1| : Int) : ℚ) ≤
      d.units.1 := by
    exact_mod_cast herror
  rw [abs_toRat_sub, toRat_eq, div_right_comm,
    div_le_div_iff_of_pos_right (mul_pos hden hone), le_div_iff₀ (by positivity)]
  linarith

/-- What lies nearer to a magnitude than half the way to any other is read as it. -/
theorem eq_of_toMagnitude?_of_near {d : Decimal} {v w : Magnitude} (hw : d.toMagnitude? = some w)
    (h : |d.toRat - v.toRat| < v.toRat / 2 ^ 54) : w = v := by
  by_contra hwv
  have hnear := toMagnitude?_nearest hw v
  have hapart := Magnitude.toRat_div_le_abs_sub hwv
  have htriangle := abs_sub_le w.toRat d.toRat v.toRat
  rw [abs_sub_comm v.toRat] at hnear
  have hhalf : v.toRat / 2 ^ 53 = v.toRat / 2 ^ 54 + v.toRat / 2 ^ 54 := by ring
  linarith

end Decimal

end Calculator
