import Calculator.Proofs.Number.Nearest
import Calculator.ResultText

set_option autoImplicit false

namespace Calculator

theorem Tie.abs_divide_sub_le (tie : Tie) (num : Nat) {den : Nat} (hd : 0 < den) :
    |(tie.divide num den : ℚ) - num / den| ≤ 1 / 2 := by
  have hden : (0 : ℚ) < den := Nat.cast_pos.2 hd
  obtain ⟨hlow, hhigh⟩ := tie.divide_error num hd
  generalize tie.divide num den = d at *
  have hlow' : (2 * num : ℚ) ≤ 2 * (d * den) + den := by exact_mod_cast hlow
  have hhigh' : (2 * (d * den) : ℚ) ≤ 2 * num + den := by exact_mod_cast hhigh
  have hsub : (d : ℚ) - num / den = (d * den - num) / den := by field_simp
  rw [hsub, abs_div, abs_of_pos hden, div_le_div_iff₀ hden two_pos, one_mul]
  have habs : |(d : ℚ) * den - num| ≤ den / 2 := abs_le.2 ⟨by linarith, by linarith⟩
  linarith

theorem ten_pow_length_toDigits {n : Nat} (hn : 0 < n) :
    10 ^ ((Nat.toDigits 10 n).length - 1) ≤ n ∧ n < 10 ^ (Nat.toDigits 10 n).length := by
  have hpos := Nat.length_toDigits_pos (b := 10) (n := n)
  generalize hl : (Nat.toDigits 10 n).length = len at *
  constructor
  · by_cases h1 : len = 1
    · rw [h1]
      exact hn
    · by_contra hlt
      have h := (Nat.length_toDigits_le_iff (b := 10) (by decide)
        (show 0 < len - 1 by omega)).2 (Nat.not_le.1 hlt)
      omega
  · exact (Nat.length_toDigits_le_iff (by decide) hpos).1 (Nat.le_of_eq hl)

namespace Magnitude

theorem ten_zpow_leadingExponent_of_le {num den : Nat} (hd : 0 < den) (hle : den ≤ num) :
    (10 : ℚ) ^ leadingExponent num den ≤ num / den ∧
      (num / den : ℚ) < 10 ^ (leadingExponent num den + 1) := by
  have hden : (0 : ℚ) < den := Nat.cast_pos.2 hd
  obtain ⟨hlow, hhigh⟩ := ten_pow_length_toDigits (Nat.div_pos hle hd)
  have hlen := Nat.length_toDigits_pos (b := 10) (n := num / den)
  rw [leadingExponent, if_pos hle]
  generalize (Nat.toDigits 10 (num / den)).length = len at *
  have hcast : (len : Int) - 1 = ((len - 1 : Nat) : Int) := by omega
  have hmul : 10 ^ (len - 1) * den ≤ num := (Nat.le_div_iff_mul_le hd).1 hlow
  have hlt : num < 10 ^ len * den := (Nat.div_lt_iff_lt_mul hd).1 hhigh
  constructor
  · rw [hcast, zpow_natCast, le_div_iff₀ hden]
    exact_mod_cast hmul
  · rw [sub_add_cancel, zpow_natCast, div_lt_iff₀ hden]
    exact_mod_cast hlt

theorem ten_zpow_leadingExponent_of_lt {num den : Nat} (hn : 0 < num) (hlt : num < den) :
    (10 : ℚ) ^ leadingExponent num den ≤ num / den ∧
      (num / den : ℚ) < 10 ^ (leadingExponent num den + 1) := by
  have hden : (0 : ℚ) < den := Nat.cast_pos.2 (Nat.zero_lt_of_lt hlt)
  obtain ⟨hlow, hhigh⟩ := ten_pow_length_toDigits (Nat.div_pos (Nat.le_sub_one_of_lt hlt) hn)
  have hlen := Nat.length_toDigits_pos (b := 10) (n := (den - 1) / num)
  rw [leadingExponent, if_neg (Nat.not_le.2 hlt)]
  generalize (Nat.toDigits 10 ((den - 1) / num)).length = len at *
  have hmul : 10 ^ (len - 1) * num ≤ den - 1 := (Nat.le_div_iff_mul_le hn).1 hlow
  have hbelow : den - 1 < 10 ^ len * num := (Nat.div_lt_iff_lt_mul hn).1 hhigh
  have hle : den ≤ 10 ^ len * num := by omega
  have hstrict : 10 ^ (len - 1) * num < den := by omega
  have hcast : -(len : Int) + 1 = -((len - 1 : Nat) : Int) := by omega
  constructor
  · rw [zpow_neg, zpow_natCast, le_div_iff₀ hden, inv_mul_le_iff₀ (by positivity)]
    exact_mod_cast hle
  · rw [hcast, zpow_neg, zpow_natCast, div_lt_iff₀ hden, lt_inv_mul_iff₀ (by positivity)]
    exact_mod_cast hstrict

theorem ten_zpow_leadingExponent {num den : Nat} (hn : 0 < num) (hd : 0 < den) :
    (10 : ℚ) ^ leadingExponent num den ≤ num / den ∧
      (num / den : ℚ) < 10 ^ (leadingExponent num den + 1) := by
  by_cases h : den ≤ num
  · exact ten_zpow_leadingExponent_of_le hd h
  · exact ten_zpow_leadingExponent_of_lt hn (Nat.not_le.1 h)

theorem ten_zpow_order {v : Magnitude} (hv : v.units ≠ 0) :
    (10 : ℚ) ^ v.order ≤ v.toRat ∧ v.toRat < 10 ^ (v.order + 1) :=
  ten_zpow_leadingExponent (Nat.pos_of_ne_zero hv) one_pos

theorem onGrid_pos (v : Magnitude) (grid : Int) : 0 < (v.onGrid grid).2 := by
  cases grid with
  | ofNat k => exact Nat.mul_pos (Nat.pow_pos (by decide)) one_pos
  | negSucc k => exact one_pos

theorem onGrid_eq (v : Magnitude) (grid : Int) :
    ((v.onGrid grid).1 / (v.onGrid grid).2 : ℚ) = v.toRat / 10 ^ grid := by
  have hone : (one : ℚ) ≠ 0 := Nat.cast_ne_zero.2 one_pos.ne'
  cases grid with
  | ofNat k =>
    simp only [onGrid, toRat, Int.ofNat_eq_natCast, zpow_natCast]
    push_cast
    field_simp
  | negSucc k =>
    simp only [onGrid, toRat, zpow_negSucc]
    push_cast
    rw [div_inv_eq_mul, mul_div_right_comm]

/-- The decimal that scientific form spells out. -/
def scientificDecimal (decimals : Nat) (v : Magnitude) : Decimal :=
  ⟨(v.scientific decimals).1, (v.scientific decimals).2 - decimals⟩

theorem toRat_scientificDecimal (decimals : Nat) (v : Magnitude) :
    (v.scientificDecimal decimals).toRat =
      Tie.toEven.divide (v.onGrid (v.order - decimals)).1 (v.onGrid (v.order - decimals)).2 *
        10 ^ (v.order - decimals) := by
  unfold Decimal.toRat scientificDecimal scientific
  dsimp only
  generalize Tie.toEven.divide _ _ = digits
  by_cases h : digits = 10 ^ (decimals + 1)
  · have hexp : v.order + 1 - (decimals : Int) = 1 + (v.order - decimals) := by ring
    rw [if_pos h, h, hexp, zpow_add₀ (by norm_num)]
    push_cast
    ring
  · rw [if_neg h]

/-- Scientific form is off by half a step of the last digit at most. -/
theorem abs_scientificDecimal_sub_le (decimals : Nat) (v : Magnitude) :
    |(v.scientificDecimal decimals).toRat - v.toRat| ≤ 10 ^ (v.order - decimals) / 2 := by
  have hstep : (0 : ℚ) < 10 ^ (v.order - decimals) := by positivity
  have h := Tie.toEven.abs_divide_sub_le (v.onGrid (v.order - decimals)).1
    (v.onGrid_pos (v.order - decimals))
  rw [onGrid_eq] at h
  rw [toRat_scientificDecimal]
  generalize (Tie.toEven.divide _ _ : ℚ) = digits at *
  generalize (10 : ℚ) ^ (v.order - decimals) = step at *
  have heq : digits * step - v.toRat = (digits - v.toRat / step) * step := by field_simp
  rw [heq, abs_mul, abs_of_pos hstep]
  calc
    |digits - v.toRat / step| * step ≤ 1 / 2 * step := mul_le_mul_of_nonneg_right h hstep.le
    _ = step / 2 := by ring

def largest : Magnitude :=
  ⟨(2 ^ (53 : Nat) - 1) * 2 ^ (2045 : Nat), 2 ^ (53 : Nat) - 1, 2045, by decide, by decide, rfl⟩

theorem le_toRat_largest : (1797693 * 10 ^ (302 : Int) : ℚ) ≤ largest.toRat := by
  have hone : (0 : ℚ) < one := Nat.cast_pos.2 one_pos
  have h : 1797693 * 10 ^ (302 : Nat) * one ≤ largest.units := by decide +kernel
  rw [toRat, le_div_iff₀ hone, zpow_ofNat]
  generalize (302 : Nat) = k at *
  exact_mod_cast h

theorem toMagnitude?_eq_getD {d : Decimal} (h : d.toRat ≤ 10 ^ 11) :
    d.toMagnitude? = some (d.toMagnitude?.getD .zero) := by
  have hstep : (10 : ℚ) ^ (11 : Int) ≤ 10 ^ (302 : Int) :=
    zpow_le_zpow_right₀ (by norm_num) (by norm_num)
  have hlargest := le_toRat_largest
  generalize (10 : ℚ) ^ (302 : Int) = unit at *
  norm_num at hstep h
  obtain ⟨w, hw⟩ := Decimal.exists_toMagnitude? (d := d) (v := largest) (by linarith)
  rw [hw, Option.getD_some]

theorem toRat_lt (v : Magnitude) : v.toRat < 7190773 / 4 * 10 ^ (302 : Int) := by
  have hone : (0 : ℚ) < one := Nat.cast_pos.2 one_pos
  have h : 4 * bound ≤ 7190773 * 10 ^ (302 : Nat) * one := by decide +kernel
  have hv : 4 * v.units < 7190773 * 10 ^ (302 : Nat) * one :=
    Nat.lt_of_lt_of_le (Nat.mul_lt_mul_of_pos_left v.units_lt_bound (by decide)) h
  rw [toRat, div_lt_iff₀ hone, zpow_ofNat]
  generalize (302 : Nat) = k at *
  have hcast : (4 * v.units : ℚ) < 7190773 * 10 ^ k * one := by exact_mod_cast hv
  linarith

theorem order_le (v : Magnitude) (hv : v.units ≠ 0) : v.order ≤ 308 := by
  by_contra hgt
  have hlow := (ten_zpow_order hv).1
  have hmax := v.toRat_lt
  have hle : (10 : ℚ) ^ (7 + 302 : Int) ≤ 10 ^ v.order :=
    zpow_le_zpow_right₀ (by norm_num) (by omega)
  rw [zpow_add₀ (by norm_num)] at hle
  have hunit : (0 : ℚ) < 10 ^ (302 : Int) := by positivity
  generalize (10 : ℚ) ^ (302 : Int) = unit at *
  generalize (10 : ℚ) ^ v.order = least at *
  norm_num at hle
  linarith

/-- The digits of scientific form are at most the number that the value is below by more
than half a step. -/
theorem divide_onGrid_le (v : Magnitude) (grid : Int) (n : Nat)
    (h : v.toRat / 10 ^ grid < n + 1 / 2) :
    Tie.toEven.divide (v.onGrid grid).1 (v.onGrid grid).2 ≤ n := by
  have herror := (abs_le.1 (Tie.toEven.abs_divide_sub_le (v.onGrid grid).1
    (v.onGrid_pos grid))).2
  rw [onGrid_eq] at herror
  generalize Tie.toEven.divide _ _ = digits at *
  have hlt : (digits : ℚ) < n + 1 := by linarith
  exact Nat.lt_succ_iff.1 (by exact_mod_cast hlt)

theorem toRat_scientificDecimal_le_of_lt {v : Magnitude} (hv : v.units ≠ 0) (h : v.order < 308) :
    (v.scientificDecimal 6).toRat ≤ 1797693 * 10 ^ (302 : Int) := by
  have hhigh := (ten_zpow_order hv).2
  have hsucc : v.order + 1 = 7 + (v.order - (6 : Nat)) := by
    push_cast
    ring
  rw [hsucc, zpow_add₀ (by norm_num)] at hhigh
  have hstep : (0 : ℚ) < 10 ^ (v.order - (6 : Nat)) := by positivity
  have hcoarse : (10 : ℚ) * 10 ^ (v.order - (6 : Nat)) ≤ 10 ^ (302 : Int) := by
    rw [← zpow_one_add₀ (by norm_num)]
    exact zpow_le_zpow_right₀ (by norm_num) (by omega)
  have hdigits := v.divide_onGrid_le (v.order - (6 : Nat)) 10000000
  rw [toRat_scientificDecimal]
  generalize Tie.toEven.divide _ _ = digits at *
  generalize (10 : ℚ) ^ (v.order - (6 : Nat)) = step at *
  generalize (10 : ℚ) ^ (302 : Int) = unit at *
  have hquotient : v.toRat / step < 10 ^ (7 : Int) := (div_lt_iff₀ hstep).2 hhigh
  norm_num at hquotient
  have hle : digits ≤ 10000000 := hdigits (by push_cast; linarith)
  have hle' : (digits : ℚ) ≤ 10000000 := by exact_mod_cast hle
  calc
    (digits : ℚ) * step ≤ 10000000 * step := mul_le_mul_of_nonneg_right hle' hstep.le
    _ ≤ 1797693 * unit := by linarith

theorem toRat_scientificDecimal_le_of_eq {v : Magnitude} (h : v.order = 308) :
    (v.scientificDecimal 6).toRat ≤ 1797693 * 10 ^ (302 : Int) := by
  have hmax := v.toRat_lt
  have hunit : (0 : ℚ) < 10 ^ (302 : Int) := by positivity
  have hstep : v.order - (6 : Nat) = 302 := by rw [h]; rfl
  have hdigits := v.divide_onGrid_le 302 1797693
  rw [toRat_scientificDecimal, hstep]
  generalize Tie.toEven.divide _ _ = digits at *
  generalize (10 : ℚ) ^ (302 : Int) = unit at *
  have hquotient : v.toRat / unit < 7190773 / 4 := (div_lt_iff₀ hunit).2 hmax
  have hle : digits ≤ 1797693 := hdigits (by push_cast; linarith)
  exact mul_le_mul_of_nonneg_right (by exact_mod_cast hle) hunit.le

theorem exists_toMagnitude?_scientificDecimal {v : Magnitude} (hv : v.units ≠ 0) :
    ∃ w, (v.scientificDecimal 6).toMagnitude? = some w := by
  refine Decimal.exists_toMagnitude? (le_trans ?_ le_toRat_largest)
  rcases Int.lt_or_eq_of_le (v.order_le hv) with hlt | heq
  · exact toRat_scientificDecimal_le_of_lt hv hlt
  · exact toRat_scientificDecimal_le_of_eq heq

theorem scientific_digits (decimals : Nat) {v : Magnitude} (hv : v.units ≠ 0) :
    10 ^ decimals ≤ (v.scientific decimals).1 ∧
      (v.scientific decimals).1 < 10 ^ (decimals + 1) := by
  obtain ⟨hlow, hhigh⟩ := ten_zpow_order hv
  have hstep : (0 : ℚ) < 10 ^ (v.order - decimals) := by positivity
  have hgrid := onGrid_eq v (v.order - decimals)
  have hpos := v.onGrid_pos (v.order - decimals)
  have hden : (0 : ℚ) < (v.onGrid (v.order - decimals)).2 := Nat.cast_pos.2 hpos
  have hbelow : v.toRat / 10 ^ (v.order - decimals) < (10 ^ (decimals + 1) : Nat) + 1 / 2 := by
    have hsum : v.order + 1 = ((decimals + 1 : Nat) : Int) + (v.order - decimals) := by
      push_cast
      ring
    rw [hsum, zpow_add₀ (by norm_num), zpow_natCast, ← div_lt_iff₀ hstep] at hhigh
    push_cast
    linarith
  have habove : ((10 ^ decimals : Nat) : ℚ) ≤ v.toRat / 10 ^ (v.order - decimals) := by
    have hsum : v.order = (decimals : Int) + (v.order - decimals) := by ring
    rw [hsum, zpow_add₀ (by norm_num), zpow_natCast] at hlow
    rw [le_div_iff₀ hstep]
    exact_mod_cast hlow
  have hle := v.divide_onGrid_le (v.order - decimals) (10 ^ (decimals + 1)) hbelow
  have hge : 10 ^ decimals ≤ Tie.toEven.divide (v.onGrid (v.order - decimals)).1
      (v.onGrid (v.order - decimals)).2 := by
    refine Nat.le_trans ((Nat.le_div_iff_mul_le hpos).2 ?_) (Tie.toEven.le_divide _ _)
    rw [← hgrid, le_div_iff₀ hden] at habove
    exact_mod_cast habove
  unfold scientific
  dsimp only
  generalize Tie.toEven.divide _ _ = digits at *
  have hten : 10 ^ decimals < 10 ^ (decimals + 1) := by
    rw [Nat.pow_succ]
    have := Nat.pow_pos (n := decimals) (by decide : 0 < 10)
    omega
  by_cases hcarry : digits = 10 ^ (decimals + 1)
  · rw [if_pos hcarry]
    exact ⟨le_refl _, hten⟩
  · rw [if_neg hcarry]
    exact ⟨hge, Nat.lt_of_le_of_ne hle hcarry⟩

theorem scientific_eq_of_toRat_eq {decimals : Nat} {v w : Magnitude} (hv : v.units ≠ 0)
    (hw : w.units ≠ 0)
    (h : (v.scientificDecimal decimals).toRat = (w.scientificDecimal decimals).toRat) :
    v.scientific decimals = w.scientific decimals := by
  obtain ⟨hvlow, hvhigh⟩ := scientific_digits decimals hv
  obtain ⟨hwlow, hwhigh⟩ := scientific_digits decimals hw
  unfold scientificDecimal Decimal.toRat at h
  dsimp only at h
  generalize v.scientific decimals = p at *
  generalize w.scientific decimals = q at *
  obtain ⟨m, a⟩ := p
  obtain ⟨n, b⟩ := q
  -- the larger exponent would make the larger value
  have hexponent {m n : Nat} {a b : Int} (hm : m < 10 ^ (decimals + 1)) (hn : 10 ^ decimals ≤ n)
      (h : (m * 10 ^ (a - decimals) : ℚ) = n * 10 ^ (b - decimals)) : b ≤ a := by
    by_contra hlt
    have hstep : (0 : ℚ) < 10 ^ (a - decimals) := by positivity
    have hcoarse : (10 : ℚ) * 10 ^ (a - decimals) ≤ 10 ^ (b - decimals) := by
      rw [← zpow_one_add₀ (by norm_num)]
      exact zpow_le_zpow_right₀ (by norm_num) (by omega)
    have hm' : (m : ℚ) < 10 ^ decimals * 10 := by
      rw [← pow_succ]
      exact_mod_cast hm
    have hn' : (10 : ℚ) ^ decimals ≤ n := by exact_mod_cast hn
    have hbig : (10 : ℚ) ^ decimals * (10 * 10 ^ (a - decimals)) ≤ n * 10 ^ (b - decimals) :=
      mul_le_mul hn' hcoarse (by positivity) (Nat.cast_nonneg n)
    have hsmall := mul_lt_mul_of_pos_right hm' hstep
    rw [mul_assoc] at hsmall
    linarith
  obtain rfl : a = b := le_antisymm (hexponent hwhigh hvlow h.symm) (hexponent hvhigh hwlow h)
  have hstep : (10 : ℚ) ^ (a - decimals) ≠ 0 := by positivity
  have hdigits : (m : ℚ) = n := mul_right_cancel₀ hstep h
  rw [Nat.cast_inj.1 hdigits]

theorem order_eq {v : Magnitude} {e : Int} (hlow : 10 ^ e ≤ v.toRat)
    (hhigh : v.toRat < 10 ^ (e + 1)) : v.order = e := by
  have hv : v.units ≠ 0 := by
    intro hzero
    have hpos : (0 : ℚ) < 10 ^ e := by positivity
    rw [toRat, hzero, Nat.cast_zero, zero_div] at hlow
    linarith
  obtain ⟨hlow', hhigh'⟩ := ten_zpow_order hv
  have hle := (zpow_lt_zpow_iff_right₀ (by norm_num : (1 : ℚ) < 10)).1 (hlow'.trans_lt hhigh)
  have hge := (zpow_lt_zpow_iff_right₀ (by norm_num : (1 : ℚ) < 10)).1 (hlow.trans_lt hhigh')
  omega

theorem divide_onGrid_eq {v : Magnitude} {grid : Int} {n : Nat}
    (h : |v.toRat - n * 10 ^ grid| < 10 ^ grid / 2) :
    Tie.toEven.divide (v.onGrid grid).1 (v.onGrid grid).2 = n := by
  have hstep : (0 : ℚ) < 10 ^ grid := by positivity
  have herror := Tie.toEven.abs_divide_sub_le (v.onGrid grid).1 (v.onGrid_pos grid)
  have hnear : |v.toRat / 10 ^ grid - n| < 1 / 2 := by
    have heq : v.toRat / 10 ^ grid - n = (v.toRat - n * 10 ^ grid) / 10 ^ grid := by field_simp
    rw [heq, abs_div, abs_of_pos hstep, div_lt_iff₀ hstep]
    linarith
  rw [onGrid_eq] at herror
  generalize Tie.toEven.divide _ _ = digits at *
  have htriangle := abs_sub_le (digits : ℚ) (v.toRat / 10 ^ grid) n
  have hlt : |((digits : Int) - (n : Int) : ℚ)| < 1 := by
    push_cast
    linarith
  have hzero : |(digits : Int) - n| < 1 := by exact_mod_cast hlt
  rw [Int.abs_lt_one_iff] at hzero
  omega

/-- Seven digits that a magnitude is almost equal to are the ones of its scientific form. -/
theorem toRat_scientificDecimal_of_near {w : Magnitude} {n : Nat} {grid : Int}
    (hlow : 1000000 ≤ n) (hhigh : n < 10000000)
    (hnear : |w.toRat - n * 10 ^ grid| < 10 ^ grid / 20) :
    (w.scientificDecimal 6).toRat = n * 10 ^ grid := by
  have hstep : (0 : ℚ) < 10 ^ grid := by positivity
  have hpower (k : Nat) : (10 : ℚ) ^ (grid + k) = 10 ^ k * 10 ^ grid := by
    rw [zpow_add₀ (by norm_num), zpow_natCast, mul_comm]
  have hfive := hpower 5
  have hsix := hpower 6
  have hseven := hpower 7
  have hn : (1000000 : ℚ) * 10 ^ grid ≤ n * 10 ^ grid :=
    mul_le_mul_of_nonneg_right (by exact_mod_cast hlow) hstep.le
  have hn' : (n + 1 : ℚ) * 10 ^ grid ≤ 10000000 * 10 ^ grid :=
    mul_le_mul_of_nonneg_right (by exact_mod_cast hhigh) hstep.le
  obtain ⟨hleft, hright⟩ := abs_lt.1 hnear
  rw [toRat_scientificDecimal]
  norm_num at hfive hsix hseven
  by_cases hfoot : (10 : ℚ) ^ (grid + 6) ≤ w.toRat
  · have horder : w.order = grid + 6 := by
      refine order_eq hfoot ?_
      rw [add_assoc]
      norm_num
      rw [hseven]
      generalize (10 : ℚ) ^ grid = step at *
      linarith
    have hgrid : w.order - ((6 : Nat) : Int) = grid := by omega
    rw [hgrid, divide_onGrid_eq (hnear.trans (by linarith))]
  · -- just below a power of ten there is a digit more, and the last one is carried over
    have hfine : (10 : ℚ) ^ (grid - 1) = 10 ^ grid / 10 := zpow_sub_one₀ (by norm_num) grid
    rw [hsix, not_le] at hfoot
    have hn1 : n = 1000000 := by
      by_contra hne
      have hmore : (1000001 : ℚ) * 10 ^ grid ≤ n * 10 ^ grid :=
        mul_le_mul_of_nonneg_right (by exact_mod_cast (show 1000001 ≤ n by omega)) hstep.le
      generalize (10 : ℚ) ^ grid = step at *
      linarith
    subst hn1
    have horder : w.order = grid + 5 := by
      refine order_eq ?_ ?_
      · rw [hfive]
        push_cast at hleft
        generalize (10 : ℚ) ^ grid = step at *
        linarith
      · rw [add_assoc]
        norm_num
        rw [hsix]
        exact hfoot
    have hgrid : w.order - ((6 : Nat) : Int) = grid - 1 := by omega
    have hdigits : Tie.toEven.divide (w.onGrid (grid - 1)).1 (w.onGrid (grid - 1)).2 =
        10000000 := by
      refine divide_onGrid_eq ?_
      have heq : w.toRat - ((10000000 : Nat) : ℚ) * 10 ^ (grid - 1) =
          w.toRat - ((1000000 : Nat) : ℚ) * 10 ^ grid := by
        rw [hfine]
        push_cast
        ring
      rw [heq, hfine]
      refine hnear.trans_le ?_
      linarith
    rw [hgrid, hdigits, hfine]
    push_cast
    ring

end Magnitude

end Calculator
