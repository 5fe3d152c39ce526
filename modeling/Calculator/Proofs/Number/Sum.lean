import Calculator.Proofs.Number.Overflow
import Calculator.Proofs.Number.Order

set_option autoImplicit false

namespace Calculator

def Magnitude.unit : Magnitude := ⟨1, 1, 0, by decide, by decide, rfl⟩

namespace Number

theorem rank?_finite (negative : Bool) (m : Magnitude) :
    (finite negative m).rank? = some (signed negative m) := by
  cases negative <;> rfl

theorem atMost_iff_toRat {x y : Number} (hx : x.isFinite = true) (hy : y.isFinite = true) :
    x.atMost y = true ↔ x.toRat ≤ y.toRat := by
  cases x with
  | finite s a =>
    cases y with
    | finite t b =>
      have hone : (0 : ℚ) < Magnitude.one := by exact_mod_cast Magnitude.one_pos
      rw [toRat_eq_signed, toRat_eq_signed, div_le_div_iff_of_pos_right hone, Int.cast_le]
      simp only [atMost, rank?_finite, decide_eq_true_eq]
    | _ => cases hy
  | _ => cases hx

theorem toRat_of_not_isFinite {x : Number} (h : x.isFinite ≠ true) : x.toRat = 0 := by
  cases x with
  | finite s m => exact absurd rfl h
  | _ => rfl

theorem isFinite_add_of_toRat_eq {x y : Number} (hx : x.isFinite = true) (hy : y.isFinite = true)
    (h : (x.add y).toRat = x.toRat + y.toRat) : (x.add y).isFinite = true := by
  by_contra hsum
  have hzero : x.toRat + y.toRat = 0 := h.symm.trans (toRat_of_not_isFinite hsum)
  refine hsum ((isFinite_add hx hy).2 ?_)
  rw [hzero, abs_zero, limit, sub_pos]
  exact pow_lt_pow_right₀ (by norm_num) (by norm_num)

theorem signed_natAbs {n : Int} {m : Magnitude} (h : m.units = n.natAbs) :
    signed (decide (n < 0)) m = n := by
  by_cases hneg : n < 0
  · rw [decide_eq_true hneg, signed, if_pos rfl]
    omega
  · rw [decide_eq_false hneg, signed, if_neg Bool.false_ne_true]
    omega

theorem exists_ofNat_eq {n : Nat} (hn : n < 2 ^ (53 : Nat)) :
    ∃ d : Magnitude, ofNat n = finite false d ∧ d.units = n * Magnitude.one := by
  let d : Magnitude := ⟨n * Magnitude.one, n, Magnitude.fractionBits, hn, by decide, rfl⟩
  exact ⟨d, ofQuotient_units false d, rfl⟩

theorem toRat_ofNat {n : Nat} (hn : n < 2 ^ (53 : Nat)) : (ofNat n).toRat = n := by
  obtain ⟨d, hd, hunits⟩ := exists_ofNat_eq hn
  have hone : (Magnitude.one : ℚ) ≠ 0 := Nat.cast_ne_zero.2 Magnitude.one_pos.ne'
  rw [hd, toRat, Magnitude.toRat, hunits, Nat.cast_mul, mul_div_cancel_right₀ _ hone]

theorem toRat_add_of_representable {s t : Bool} {a b : Magnitude}
    (h : Representable (signed s a + signed t b).natAbs) :
    ((finite s a).add (finite t b)).toRat = (finite s a).toRat + (finite t b).toRat := by
  rw [toRat_eq_signed, toRat_eq_signed, ← add_div, ← Int.cast_add, add]
  split
  next hzero =>
    have hsigned : signed (s && t) .zero = 0 := by cases s <;> cases t <;> rfl
    rw [hzero, toRat_eq_signed, hsigned]
  next =>
    let sum : Magnitude := ⟨_, h⟩
    have hsum := ofQuotient_units (decide (signed s a + signed t b < 0)) sum
    rw [hsum, toRat_eq_signed, signed_natAbs rfl]

theorem exists_signed_eq_mul (s : Bool) {m : Magnitude} {grid c : Nat} (h : m.units = grid * c) :
    ∃ i : Int, signed s m = i * grid ∧ i.natAbs = c := by
  cases s with
  | false =>
    refine ⟨c, ?_, Int.natAbs_natCast c⟩
    rw [signed, if_neg Bool.false_ne_true, h, Nat.cast_mul, Int.mul_comm]
  | true =>
    refine ⟨-c, ?_, by rw [Int.natAbs_neg, Int.natAbs_natCast]⟩
    rw [signed, if_pos rfl, h, Nat.cast_mul, neg_mul, Int.mul_comm]

/-- Numbers on one grid have a sum on it, which is not rounded if it has few enough bits. -/
theorem toRat_add_of_grid {s t : Bool} {a b : Magnitude} {e c d : Nat} (he : e ≤ 2045)
    (ha : a.units = 2 ^ e * c) (hb : b.units = 2 ^ e * d) (h : c + d < 2 ^ (53 : Nat)) :
    ((finite s a).add (finite t b)).toRat = (finite s a).toRat + (finite t b).toRat := by
  obtain ⟨i, hi, hc⟩ := exists_signed_eq_mul s ha
  obtain ⟨j, hj, hd⟩ := exists_signed_eq_mul t hb
  refine toRat_add_of_representable ⟨(i + j).natAbs, e, ?_, he, ?_⟩
  · have hbound := Int.natAbs_add_le i j
    omega
  · rw [hi, hj, ← add_mul, Int.natAbs_mul, Int.natAbs_natCast]

theorem toRat_add_ofNat {negative : Bool} {a : Magnitude} {k n : Nat} (hk : k ≤ 51)
    (hdvd : 2 ^ (Magnitude.fractionBits - k) ∣ a.units)
    (ha : a.units < 2 ^ (52 - k) * Magnitude.one) (hn : n ≤ 2) :
    ((finite negative a).add (ofNat n)).toRat = (finite negative a).toRat + n := by
  obtain ⟨d, hd, hunits⟩ := exists_ofNat_eq (n := n) (by omega)
  obtain ⟨c, hc⟩ := hdvd
  have hone : Magnitude.one = 2 ^ (Magnitude.fractionBits - k) * 2 ^ k := by
    rw [← Nat.pow_add, Magnitude.one]
    exact congrArg (2 ^ ·) (by rw [Magnitude.fractionBits]; omega)
  have hcount : c < 2 ^ (52 : Nat) := by
    have hpow : 2 ^ (52 - k) * 2 ^ k = 2 ^ (52 : Nat) := by
      rw [← Nat.pow_add]
      exact congrArg (2 ^ ·) (by omega)
    rw [hc, hone, Nat.mul_left_comm, hpow] at ha
    exact Nat.lt_of_mul_lt_mul_left ha
  have hdelay : n * 2 ^ k ≤ 2 ^ (52 : Nat) := by
    calc
      n * 2 ^ k ≤ 2 * 2 ^ (51 : Nat) := Nat.mul_le_mul hn (Nat.pow_le_pow_right (by decide) hk)
      _ = 2 ^ (52 : Nat) := by decide
  rw [hone, Nat.mul_left_comm] at hunits
  rw [← toRat_ofNat (n := n) (by omega), hd]
  exact toRat_add_of_grid (by rw [Magnitude.fractionBits]; omega) hc hunits (by omega)
/-- A positive sum up to some number is rounded to a positive number up to it. -/
theorem exists_add_of_pos_le {x y : Number} (hx : x.isFinite = true) (hy : y.isFinite = true)
    {v : Magnitude} (hpos : 0 < x.toRat + y.toRat) (hle : x.toRat + y.toRat ≤ v.toRat) :
    ∃ m : Magnitude, x.add y = finite false m ∧ 0 < m.units ∧ m.units ≤ v.units := by
  cases x with
  | finite s a =>
    cases y with
    | finite t b =>
      have hone : (0 : ℚ) < Magnitude.one := by exact_mod_cast Magnitude.one_pos
      rw [toRat_eq_signed, toRat_eq_signed, ← add_div, ← Int.cast_add] at hpos hle
      rw [add]
      generalize signed s a + signed t b = sum at *
      have hpos : 0 < sum := Int.cast_pos.1 ((div_pos_iff_of_pos_right hone).1 hpos)
      have hle : sum ≤ v.units := by
        rw [Magnitude.toRat, div_le_div_iff_of_pos_right hone] at hle
        exact_mod_cast hle
      rw [if_neg hpos.ne', decide_eq_false (by omega)]
      have hlow : Magnitude.unit.units * 1 ≤ sum.natAbs := Int.natAbs_pos.2 hpos.ne'
      have hhigh : sum.natAbs ≤ v.units * 1 := by omega
      obtain ⟨m, hm⟩ := Magnitude.exists_nearest? Nat.one_pos hhigh
      have hunits := Magnitude.units_of_nearest? hm
      refine ⟨m, by rw [ofQuotient, hm, Option.elim_some], ?_, ?_⟩
      · exact hunits ▸ Magnitude.le_rounded Nat.one_pos hlow
      · exact hunits ▸ Magnitude.rounded_le Nat.one_pos hhigh
    | _ => cases hy
  | _ => cases hx

theorem exists_sub_of_lt {x y : Number} (hx : x.isFinite = true) (hy : y.isFinite = true)
    {v : Magnitude} (hlt : y.toRat < x.toRat) (hle : x.toRat ≤ y.toRat + v.toRat) :
    ∃ m : Magnitude, x.sub y = finite false m ∧ 0 < m.units ∧ m.units ≤ v.units := by
  refine exists_add_of_pos_le hx (by rw [isFinite_neg, hy]) ?_ ?_
  · rw [toRat_neg]
    linarith
  · rw [toRat_neg]
    linarith

theorem max_zero (m : Magnitude) : (finite false m).max .zero = finite false m := by
  have hless : (finite false m).less .zero = false :=
    decide_eq_false (Int.not_lt.2 (Int.natCast_nonneg m.units))
  show (if (finite false m).less .zero then Number.zero else finite false m) = finite false m
  rw [hless]
  rfl

end Number

end Calculator
