import Calculator.Number.Arithmetic
import Calculator.Proofs.Number.Nearest

set_option autoImplicit false

namespace Calculator

namespace Magnitude

def halfGap : Nat := 2 ^ (width - 54)

theorem halfGap_pos : 0 < halfGap := Nat.two_pow_pos _

theorem two_mul_halfGap : 2 * halfGap = 2 ^ (width - 53) := by
  have hwidth : width - 53 = width - 54 + 1 := by decide
  rw [hwidth, Nat.pow_succ', halfGap]

theorem bound_eq : bound = 2 ^ (54 : Nat) * halfGap := by
  have hwidth : 54 + (width - 54) = width := by decide
  rw [halfGap, ← Nat.pow_add, hwidth, bound]

theorem rounded_lt_bound {n : Nat} (h : n + halfGap < bound) : rounded n 1 < bound := by
  have hlog : Nat.log2 n < width := by
    by_cases hn : n = 0
    · subst hn
      decide
    · exact (Nat.log2_lt hn).2 (Nat.lt_of_le_of_lt (Nat.le_add_right _ _) h)
  have hgap : gap n ≤ 2 * halfGap := by
    rw [two_mul_halfGap]
    exact Nat.pow_le_pow_right (by decide) (by omega)
  obtain ⟨-, herror⟩ := Tie.toEven.divide_error n (gap_pos n)
  rw [rounded, Nat.div_one, Nat.one_mul]
  omega

theorem bound_le_rounded {n : Nat} (h : bound ≤ n + halfGap) (hn : n < bound) :
    bound ≤ rounded n 1 := by
  have hpos := halfGap_pos
  have hbound := bound_eq
  have hlog (e : Nat) (he : e + 1 = width) : Nat.log2 n = e := by
    have hdouble : bound = 2 ^ e * 2 := by rw [bound, ← he, Nat.pow_succ]
    refine (Nat.log2_eq_iff (by omega)).2 ⟨by omega, ?_⟩
    rw [Nat.pow_succ, ← hdouble]
    exact hn
  have hgap : gap n = 2 * halfGap := by
    have hwidth : width - 1 - 52 = width - 53 := by decide
    rw [gap, hlog (width - 1) (by decide), two_mul_halfGap, hwidth]
  -- the quotient is the largest of 53 bits, which is odd, so that a tie goes up
  have hdiv : n / (2 * halfGap) = 2 ^ (53 : Nat) - 1 := by
    refine Nat.div_eq_of_lt_le ?_ ?_ <;> omega
  have hmod := Nat.div_add_mod n (2 * halfGap)
  rw [hdiv] at hmod
  have hdivide : Tie.toEven.divide n (2 * halfGap) = 2 ^ (53 : Nat) := by
    rw [Tie.divide, hdiv, if_neg (by omega)]
    split
    · rfl
    · rw [if_neg (by decide)]
  rw [rounded, Nat.div_one, Nat.one_mul, hgap, hdivide, hbound]
  omega

theorem rounded_lt_bound_iff (n : Nat) : rounded n 1 < bound ↔ n + halfGap < bound := by
  refine ⟨fun h => ?_, rounded_lt_bound⟩
  by_contra hlimit
  rcases Nat.lt_or_ge n bound with hn | hn
  · exact Nat.not_lt.2 (bound_le_rounded (Nat.not_lt.1 hlimit) hn) h
  · have hnone := @Decimal.nearest?_eq_none n 1 (by rwa [Nat.div_one])
    rw [nearest?, dif_pos h] at hnone
    cases hnone

end Magnitude

namespace Number

/-- From this value on, nothing is rounded to a finite number. -/
def limit : ℚ := 2 ^ (1024 : Nat) - 2 ^ (970 : Nat)

theorem lt_limit_iff (n : Nat) :
    (n / Magnitude.one : ℚ) < limit ↔ n + Magnitude.halfGap < Magnitude.bound := by
  have hone : (0 : ℚ) < Magnitude.one := by exact_mod_cast Magnitude.one_pos
  have hscale (k : Nat) :
      ((2 ^ (k + Magnitude.fractionBits) : Nat) : ℚ) = 2 ^ k * Magnitude.one := by
    rw [Nat.pow_add, Magnitude.one]
    push_cast
    rfl
  have hbound : ((Magnitude.bound : Nat) : ℚ) = 2 ^ (1024 : Nat) * Magnitude.one := by
    have hwidth : Magnitude.width = 1024 + Magnitude.fractionBits := by decide
    rw [Magnitude.bound, hwidth]
    exact hscale 1024
  have hhalf : ((Magnitude.halfGap : Nat) : ℚ) = 2 ^ (970 : Nat) * Magnitude.one := by
    have hwidth : Magnitude.width - 54 = 970 + Magnitude.fractionBits := by decide
    rw [Magnitude.halfGap, hwidth]
    exact hscale 970
  rw [div_lt_iff₀ hone, limit, sub_mul, ← hbound, ← hhalf, lt_sub_iff_add_lt]
  exact_mod_cast Iff.rfl

theorem isFinite_ofQuotient (negative : Bool) (n : Nat) :
    (ofQuotient negative n 1).isFinite = true ↔ Magnitude.rounded n 1 < Magnitude.bound := by
  rw [ofQuotient, Magnitude.nearest?]
  split
  · exact ⟨fun _ => by assumption, fun _ => rfl⟩
  · refine ⟨fun h => ?_, fun h => absurd h (by assumption)⟩
    cases h

theorem toRat_eq_signed (s : Bool) (m : Magnitude) :
    (Number.finite s m).toRat = (signed s m : ℚ) / Magnitude.one := by
  cases s with
  | false => rfl
  | true =>
    rw [toRat, Magnitude.toRat, signed, if_pos rfl, ← neg_div]
    push_cast
    rfl

theorem isFinite_add {x y : Number} (hx : x.isFinite = true) (hy : y.isFinite = true) :
    (x.add y).isFinite = true ↔ |x.toRat + y.toRat| < limit := by
  cases x with
  | nan => cases hx
  | infinite s => cases hx
  | finite s a =>
    cases y with
    | nan => cases hy
    | infinite t => cases hy
    | finite t b =>
      have hone : (0 : ℚ) ≤ Magnitude.one := by positivity
      have hsum : |(finite s a).toRat + (finite t b).toRat| =
          (((signed s a + signed t b).natAbs : Nat) : ℚ) / Magnitude.one := by
        rw [toRat_eq_signed, toRat_eq_signed, ← add_div, abs_div, abs_of_nonneg hone, Nat.cast_natAbs]
        push_cast
        rfl
      rw [hsum, lt_limit_iff, ← Magnitude.rounded_lt_bound_iff, add]
      split
      · rename_i hzero
        have hlow : Magnitude.rounded (Int.natAbs 0) 1 < Magnitude.bound := by decide +kernel
        rw [hzero]
        exact ⟨fun _ => hlow, fun _ => rfl⟩
      · exact isFinite_ofQuotient _ _

theorem toRat_neg (x : Number) : x.neg.toRat = -x.toRat := by
  cases x with
  | finite t b => cases t <;> simp [neg, toRat]
  | _ => simp [neg, toRat]

end Number

end Calculator
