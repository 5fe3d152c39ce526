import Calculator.Proofs.ResultText.TenDecimals

/-! The displayed text of a result, read and displayed once more. A result in full is
read back exactly, and one with an exponent as a magnitude with the same seven digits.
Main statement: the text stays the same, save for results a little above ten to the
tenth, which seven digits do not tell from it and which are written in full the second
time. -/

set_option autoImplicit false

namespace Calculator

namespace Magnitude

theorem divide_onGrid_eq_of_even {v : Magnitude} {grid : Int} {n : Nat} (heven : n % 2 = 0)
    (h : |v.toRat - n * 10 ^ grid| ≤ 10 ^ grid / 2) :
    Tie.toEven.divide (v.onGrid grid).1 (v.onGrid grid).2 = n := by
  have hpos := v.onGrid_pos grid
  have hden : (0 : ℚ) < (v.onGrid grid).2 := Nat.cast_pos.2 hpos
  have hstep : (0 : ℚ) < 10 ^ grid := by positivity
  have hvalue := v.onGrid_eq grid
  rw [div_eq_iff hden.ne'] at hvalue
  obtain ⟨hlow, hhigh⟩ := abs_le.1 h
  have hlow' : (n - 1 / 2 : ℚ) ≤ v.toRat / 10 ^ grid := by
    rw [le_div_iff₀ hstep]
    linarith
  have hhigh' : v.toRat / 10 ^ grid ≤ (n + 1 / 2 : ℚ) := by
    rw [div_le_iff₀ hstep]
    linarith
  have hbelow := mul_le_mul_of_nonneg_right hlow' hden.le
  have habove := mul_le_mul_of_nonneg_right hhigh' hden.le
  rw [← hvalue] at hbelow habove
  generalize (v.onGrid grid).1 = num at *
  generalize (v.onGrid grid).2 = den at *
  refine Tie.toEven_divide_eq hpos heven ?_ ?_
  · have hcast : (2 * (n * den) : ℚ) ≤ 2 * num + den := by linarith
    exact_mod_cast hcast
  · have hcast : (2 * num : ℚ) ≤ 2 * (n * den) + den := by linarith
    exact_mod_cast hcast

theorem least_normal_le : (2 : ℚ) ^ 52 / one ≤ 10 ^ (-10 : Int) := by
  have hone : (0 : ℚ) < one := Nat.cast_pos.2 one_pos
  have hunit : 2 ^ (86 : Nat) ≤ one := Nat.pow_le_pow_right (by decide) (by decide)
  have hunit' : (2 : ℚ) ^ 86 ≤ one := by exact_mod_cast hunit
  rw [div_le_iff₀ hone]
  generalize (one : ℚ) = unit at *
  norm_num at hunit' ⊢
  linarith

theorem toRat_scientificDecimal_of_toMagnitude? {d : Decimal} {w : Magnitude}
    (hlow : 1000000 ≤ d.coefficient) (hhigh : d.coefficient < 10000000)
    (hnormal : 2 ^ 52 / one ≤ d.toRat) (h : d.toMagnitude? = some w) :
    (w.scientificDecimal 6).toRat = d.toRat := by
  refine toRat_scientificDecimal_of_near hlow hhigh ?_
  have herror := Decimal.abs_toMagnitude?_sub_le h hnormal
  have hstep : (0 : ℚ) < 10 ^ d.exponent := by positivity
  have hcoefficient : (d.coefficient : ℚ) * 10 ^ d.exponent ≤ 10000000 * 10 ^ d.exponent :=
    mul_le_mul_of_nonneg_right (by exact_mod_cast hhigh.le) hstep.le
  unfold Decimal.toRat at herror
  generalize (d.coefficient : ℚ) * 10 ^ d.exponent = value at *
  generalize (10 : ℚ) ^ d.exponent = step at *
  norm_num at herror ⊢
  linarith

theorem largestPlain_pos : 0 < largestPlain.units := by
  rw [largestPlain_units]
  exact Nat.mul_pos (by decide) one_pos

theorem texts_largestPlain :
    largestPlain.scientific 6 = (1000000, 10) ∧
      largestPlain.scientificText 6 = "1.000000e+10".toList ∧
      largestPlain.resultText = "10000000000".toList := by decide +kernel

theorem toMagnitude?_eq_largestPlain {d : Decimal} (h : d.toRat = 10 ^ 10) :
    d.toMagnitude? = some largestPlain := by
  have hvalue : d.toRat = (⟨1, 10⟩ : Decimal).toRat := by
    rw [h, Decimal.toRat]
    norm_num
  have hrange : (⟨1, 10⟩ : Decimal).toRat ≤ 10 ^ 11 := by
    rw [← hvalue, h]
    norm_num
  rw [Decimal.toMagnitude?_congr hvalue]
  exact toMagnitude?_eq_getD hrange

theorem toMagnitude?_eq_smallestPlain {d : Decimal} (h : d.toRat = 10 ^ (-6 : Int)) :
    d.toMagnitude? = some smallestPlain := by
  have hvalue : d.toRat = (⟨1, -6⟩ : Decimal).toRat := by
    rw [h, Decimal.toRat]
    norm_num
  have hrange : (⟨1, -6⟩ : Decimal).toRat ≤ 10 ^ 11 := by
    rw [← hvalue, h]
    norm_num
  rw [Decimal.toMagnitude?_congr hvalue]
  exact toMagnitude?_eq_getD hrange

theorem coefficient_tenDecimals_of_small {r : Magnitude}
    (hread : r.tenDecimals.toMagnitude? = some r) (hr : r.units ≠ 0)
    (hsmall : r.units < smallestPlain.units) :
    0 < r.tenDecimals.coefficient ∧ r.tenDecimals.coefficient < 10000 := by
  have hsmallest := smallestPlain_units.2
  have hlow := ((r.coefficient_tenDecimals_iff _).1 rfl).1
  have hexponent : r.tenDecimals.exponent = -10 := rfl
  have hlt : r.units * 10 ^ (10 : Nat) < smallestPlain.units * 10 ^ (10 : Nat) :=
    Nat.mul_lt_mul_of_pos_right hsmall (by decide)
  constructor
  · refine Nat.pos_of_ne_zero fun hzero => hr ?_
    refine toRat_eq_zero_iff.1 (toRat_eq_zero_of_readsBack (readsBack_iff.2 hread) ?_)
    rw [Decimal.toRat, hzero, Nat.cast_zero, zero_mul]
  · have hle : r.tenDecimals.coefficient < 10001 := by
      by_contra hge
      have hmul : 10001 * one ≤ r.tenDecimals.coefficient * one :=
        Nat.mul_le_mul_right one (Nat.not_lt.1 hge)
      have hone := one_pos
      generalize r.tenDecimals.coefficient = steps at *
      generalize one = unit at *
      omega
    refine Nat.lt_of_le_of_ne (Nat.lt_succ_iff.1 hle) fun heq => ?_
    have hvalue : r.tenDecimals.toRat = 10 ^ (-6 : Int) := by
      rw [Decimal.toRat, heq, hexponent]
      norm_num
    rw [toMagnitude?_eq_smallestPlain hvalue] at hread
    exact absurd hsmall (by rw [Option.some.inj hread]; exact Nat.lt_irrefl _)

theorem exists_seven_digits {k : Nat} (hpos : 0 < k) (hlt : k < 10000) :
    ∃ j : Nat, 1000000 ≤ k * 10 ^ j ∧ k * 10 ^ j < 10000000 := by
  rcases Nat.lt_or_ge k 10 with h1 | h1
  · exact ⟨6, by omega, by omega⟩
  rcases Nat.lt_or_ge k 100 with h2 | h2
  · exact ⟨5, by omega, by omega⟩
  rcases Nat.lt_or_ge k 1000 with h3 | h3
  · exact ⟨4, by omega, by omega⟩
  · exact ⟨3, by omega, by omega⟩

/-- The seven digits of a small result are all that is left of it, so it is read back. -/
theorem reread_of_small {r : Magnitude} (hfix : r.toTenDecimals = r) (hr : r.units ≠ 0)
    (hsmall : r.units < smallestPlain.units) : r.reread = r := by
  have hread := toMagnitude?_tenDecimals (hsmall.le.trans smallestPlain_le_largestPlain)
  rw [hfix] at hread
  obtain ⟨hpos, hlt⟩ := coefficient_tenDecimals_of_small hread hr hsmall
  have hexponent : r.tenDecimals.exponent = -10 := rfl
  generalize r.tenDecimals = d at *
  obtain ⟨k, e⟩ := d
  dsimp only at hpos hlt hexponent
  subst hexponent
  obtain ⟨j, hlow, hhigh⟩ := exists_seven_digits hpos hlt
  have hvalue : (⟨k * 10 ^ j, -10 - j⟩ : Decimal).toRat = (⟨k, -10⟩ : Decimal).toRat := by
    have hten : (10 : ℚ) ^ j ≠ 0 := by positivity
    rw [Decimal.toRat, Decimal.toRat]
    dsimp only
    rw [zpow_sub₀ (by norm_num), zpow_natCast]
    push_cast
    field_simp
  have hnormal : (2 : ℚ) ^ 52 / one ≤ (⟨k, -10⟩ : Decimal).toRat := by
    have hk : (1 : ℚ) ≤ k := by exact_mod_cast hpos
    exact least_normal_le.trans (le_mul_of_one_le_left (by positivity) hk)
  rw [← hvalue] at hnormal
  rw [← Decimal.toMagnitude?_congr hvalue] at hread
  have hscientific := toRat_scientificDecimal_of_toMagnitude? hlow hhigh hnormal hread
  rw [← Decimal.toMagnitude?_congr hscientific,
    toMagnitude?_scientificDecimal (.inr ⟨Nat.pos_of_ne_zero hr, hsmall⟩)] at hread
  exact Option.some.inj hread

theorem largestPlain_lt_iff {v : Magnitude} :
    largestPlain.units < v.units ↔ 10 ^ 10 < v.toRat := by
  rw [← toRat_lt_iff, toRat_largestPlain]

theorem coefficient_scientificDecimal (decimals : Nat) (v : Magnitude) :
    (v.scientificDecimal decimals).coefficient = (v.scientific decimals).1 := by
  unfold scientificDecimal
  generalize v.scientific decimals = p
  rfl

/-- Scientific form starts at the leading digit, or one digit before it. -/
theorem order_le_scientific (decimals : Nat) (v : Magnitude) :
    v.order ≤ (v.scientific decimals).2 := by
  unfold scientific
  dsimp only
  generalize Tie.toEven.divide _ _ = digits
  generalize v.order = e
  split
  · exact Int.le_of_lt (Int.lt_succ e)
  · exact Int.le_refl e

theorem ten_zpow_le_scientificDecimal {v : Magnitude} (hv : v.units ≠ 0) {e : Int}
    (h : e ≤ v.order) : (10 : ℚ) ^ e ≤ (v.scientificDecimal 6).toRat := by
  have hdigits := (scientific_digits 6 hv).1
  have horder := v.order_le_scientific 6
  have hsum : e = ((6 : Nat) : Int) + (e - (6 : Nat)) := by ring
  rw [hsum, zpow_add₀ (by norm_num), zpow_natCast]
  unfold Decimal.toRat scientificDecimal
  dsimp only
  generalize v.scientific 6 = p at *
  refine mul_le_mul (by exact_mod_cast hdigits) ?_ (by positivity) (Nat.cast_nonneg _)
  exact zpow_le_zpow_right₀ (by norm_num) (by omega)

theorem order_of_large {v : Magnitude} (h : largestPlain.units < v.units) : 10 ≤ v.order := by
  have hvalue := largestPlain_lt_iff.1 h
  have hhigh := (ten_zpow_order (show v.units ≠ 0 by omega)).2
  have hlt : (10 : ℚ) ^ (10 : Int) < 10 ^ (v.order + 1) := by
    rw [zpow_ofNat]
    exact hvalue.trans hhigh
  have := (zpow_lt_zpow_iff_right₀ (by norm_num : (1 : ℚ) < 10)).1 hlt
  omega

theorem toRat_scientificDecimal_eq_iff {v : Magnitude} (h : largestPlain.units < v.units) :
    (v.scientificDecimal 6).toRat = 10 ^ 10 ↔ v.toRat ≤ 10 ^ 10 + 5000 := by
  have hv : v.units ≠ 0 := by omega
  have hvalue := largestPlain_lt_iff.1 h
  have hleast := order_of_large h
  constructor
  · intro hten
    have horder : v.order = 10 := by
      by_contra hne
      have hbig := ten_zpow_le_scientificDecimal hv (show (11 : Int) ≤ v.order by omega)
      rw [hten] at hbig
      norm_num at hbig
    have herror := (abs_le.1 (v.abs_scientificDecimal_sub_le 6)).1
    rw [hten, horder] at herror
    norm_num at herror
    linarith
  · intro hnear
    have horder : v.order = 10 := by
      refine order_eq ?_ ?_
      · rw [zpow_ofNat]
        exact hvalue.le
      · norm_num
        linarith
    have hgrid : v.order - ((6 : Nat) : Int) = 4 := by
      rw [horder]
      rfl
    have hdigits : Tie.toEven.divide (v.onGrid 4).1 (v.onGrid 4).2 = 1000000 := by
      refine divide_onGrid_eq_of_even rfl ?_
      rw [abs_le]
      norm_num
      constructor <;> linarith
    rw [toRat_scientificDecimal, hgrid, hdigits]
    norm_num

theorem reread_of_large {v : Magnitude} (h : largestPlain.units < v.units) :
    (v.reread.scientificDecimal 6).toRat = (v.scientificDecimal 6).toRat ∧
      largestPlain.units ≤ v.reread.units := by
  have hv : v.units ≠ 0 := by omega
  have hread := toMagnitude?_scientificDecimal (.inl h)
  have hlarge := ten_zpow_le_scientificDecimal hv (order_of_large h)
  obtain ⟨hlow, hhigh⟩ := scientific_digits 6 hv
  rw [← coefficient_scientificDecimal] at hlow hhigh
  constructor
  · refine toRat_scientificDecimal_of_toMagnitude? hlow hhigh ?_ hread
    refine least_normal_le.trans (le_trans ?_ hlarge)
    norm_num
  · have hnear := Decimal.toMagnitude?_nearest hread largestPlain
    rw [toRat_largestPlain, zpow_ofNat] at *
    rw [← toRat_le_iff, toRat_largestPlain]
    have habs := abs_of_nonpos (show (10 : ℚ) ^ 10 - (v.scientificDecimal 6).toRat ≤ 0 by linarith)
    rw [habs] at hnear
    have := (abs_le.1 hnear).1
    linarith

theorem scientificText_eq_of_toRat_eq {v w : Magnitude} (hv : v.units ≠ 0) (hw : w.units ≠ 0)
    (h : (v.scientificDecimal 6).toRat = (w.scientificDecimal 6).toRat) :
    v.scientificText 6 = w.scientificText 6 := by
  unfold scientificText
  rw [scientific_eq_of_toRat_eq hv hw h]

theorem toRat_scientificDecimal_largestPlain :
    (largestPlain.scientificDecimal 6).toRat = 10 ^ 10 := by
  rw [scientificDecimal, texts_largestPlain.1, Decimal.toRat]
  norm_num

/-- Just above ten to the tenth the exponent goes away. -/
theorem resultText_reread_of_near {v : Magnitude} (h : largestPlain.units < v.units)
    (hnear : v.toRat ≤ 10 ^ 10 + 5000) :
    v.resultText = "1.000000e+10".toList ∧ v.reread.resultText = "10000000000".toList := by
  have hten := (toRat_scientificDecimal_eq_iff h).2 hnear
  have hread := toMagnitude?_scientificDecimal (.inl h)
  rw [toMagnitude?_eq_largestPlain hten] at hread
  constructor
  · rw [resultText_of_isExtreme (.inl h),
      scientificText_eq_of_toRat_eq (show v.units ≠ 0 by omega) largestPlain_pos.ne'
        (hten.trans toRat_scientificDecimal_largestPlain.symm)]
    exact texts_largestPlain.2.1
  · rw [← Option.some.inj hread]
    exact texts_largestPlain.2.2

theorem resultText_reread_of_large {v : Magnitude} (h : largestPlain.units < v.units)
    (hfar : 10 ^ 10 + 5000 < v.toRat) : v.reread.resultText = v.resultText := by
  have hv : v.units ≠ 0 := by omega
  obtain ⟨hdigits, hlarge⟩ := reread_of_large h
  have hne : v.reread ≠ largestPlain := by
    intro heq
    rw [heq, toRat_scientificDecimal_largestPlain] at hdigits
    exact absurd ((toRat_scientificDecimal_eq_iff h).1 hdigits.symm) (not_le.2 hfar)
  have hstrict : largestPlain.units < v.reread.units :=
    Nat.lt_of_le_of_ne hlarge fun heq => hne (ext heq.symm)
  rw [resultText_of_isExtreme (.inl h), resultText_of_isExtreme (.inl hstrict)]
  exact scientificText_eq_of_toRat_eq (by omega) hv hdigits

theorem toTenDecimals_reread {r : Magnitude} (hfix : r.toTenDecimals = r) :
    r.reread.toTenDecimals = r.reread := by
  by_cases h : r.IsExtreme
  · rcases h with hlarge | ⟨hpos, hsmall⟩
    · exact toTenDecimals_of_large (.inl (reread_of_large hlarge).2)
    · rw [reread_of_small hfix hpos.ne' hsmall, hfix]
  · rw [reread_of_not_isExtreme h, hfix]

theorem units_reread_eq_zero_iff {r : Magnitude} (hfix : r.toTenDecimals = r) :
    r.reread.units = 0 ↔ r.units = 0 := by
  by_cases h : r.IsExtreme
  · rcases h with hlarge | ⟨hpos, hsmall⟩
    · have hle := (reread_of_large hlarge).2
      have hpos := largestPlain_pos
      omega
    · rw [reread_of_small hfix hpos.ne' hsmall]
  · rw [reread_of_not_isExtreme h]

theorem resultText_reread {r : Magnitude} (hfix : r.toTenDecimals = r)
    (h : ¬ (10 ^ 10 < r.toRat ∧ r.toRat ≤ 10 ^ 10 + 5000)) :
    r.reread.resultText = r.resultText := by
  by_cases hextreme : r.IsExtreme
  · rcases hextreme with hlarge | ⟨hpos, hsmall⟩
    · refine resultText_reread_of_large hlarge ?_
      by_contra hnear
      exact h ⟨largestPlain_lt_iff.1 hlarge, not_lt.1 hnear⟩
    · rw [reread_of_small hfix hpos.ne' hsmall]
  · rw [reread_of_not_isExtreme hextreme]

end Magnitude

namespace Number

def shownSign (negative : Bool) (m : Magnitude) : List Char :=
  if negative = true ∧ m.toTenDecimals.units ≠ 0 then ['-'] else []

theorem resultText_eq_append (s : Bool) (m : Magnitude) :
    (finite s m).resultText = shownSign s m ++ m.toTenDecimals.resultText := by
  rw [resultText_finite, shownSign]
  by_cases h : s = true ∧ m.toTenDecimals.units ≠ 0
  · rw [if_pos h, if_pos h, List.singleton_append]
  · rw [if_neg h, if_neg h, List.nil_append]

/-- Above ten to the tenth, by half a step of its seven digits at most. -/
def IsJustLarge (x : Number) : Prop := 10 ^ 10 < |x.toRat| ∧ |x.toRat| ≤ 10 ^ 10 + 5000

end Number

theorem evaluate_resultText_eq (s : Bool) (m : Magnitude) :
    evaluate (Number.finite s m).resultText =
      .ok (.finite (s && decide (m.toTenDecimals.units ≠ 0)) m.toTenDecimals.reread) := by
  obtain ⟨l, htext, hvalue⟩ := m.toTenDecimals.exists_literal_reread
  rw [Number.resultText_finite, ← htext]
  split
  next h =>
    rw [evaluate_negative l, hvalue, h.1, Bool.true_and, decide_eq_true h.2]
    rfl
  next h =>
    have hsign : (s && decide (m.toTenDecimals.units ≠ 0)) = false := by
      rw [← Bool.not_eq_true, Bool.and_eq_true, decide_eq_true_iff]
      exact h
    rw [evaluate_literal l, hvalue, hsign]

/-- A displayed text, evaluated and displayed again, is the same, save just above ten to
the tenth, where the exponent is not written the second time. -/
theorem resultText_evaluate {x : Number} (hx : x.isFinite = true) :
    ∃ y, evaluate x.resultText = .ok y ∧ y.isFinite = true ∧
      (¬ x.IsJustLarge → y.resultText = x.resultText) ∧
      (x.IsJustLarge → ∃ sign : List Char, sign = (if x.toRat < 0 then ['-'] else []) ∧
        x.resultText = sign ++ "1.000000e+10".toList ∧
        y.resultText = sign ++ "10000000000".toList) := by
  cases x with
  | nan => cases hx
  | infinite s => cases hx
  | finite s m =>
    have hfix := m.toTenDecimals_toTenDecimals
    have hsign : Number.shownSign (s && decide (m.toTenDecimals.units ≠ 0))
        m.toTenDecimals.reread = Number.shownSign s m := by
      simp only [Number.shownSign, Magnitude.toTenDecimals_reread hfix, ne_eq,
        Magnitude.units_reread_eq_zero_iff hfix, Bool.and_eq_true, decide_eq_true_iff,
        and_assoc, and_self]
    refine ⟨_, evaluate_resultText_eq s m, rfl, ?_⟩
    rw [Number.resultText_eq_append, Number.resultText_eq_append, hsign,
      Magnitude.toTenDecimals_reread hfix, Number.IsJustLarge, Number.abs_toRat]
    constructor
    · intro h
      rw [Magnitude.resultText_reread hfix]
      rintro ⟨hlow, hhigh⟩
      have hsame := Magnitude.toTenDecimals_of_large
        (.inr (Magnitude.largestPlain_lt_iff.2 hlow).le)
      rw [hsame] at hlow hhigh
      exact h ⟨hlow, hhigh⟩
    · rintro ⟨hlow, hhigh⟩
      have hlarge := Magnitude.largestPlain_lt_iff.2 hlow
      have hsame := Magnitude.toTenDecimals_of_large (.inl hlarge.le)
      obtain ⟨hfirst, hsecond⟩ := Magnitude.resultText_reread_of_near hlarge hhigh
      refine ⟨Number.shownSign s m, ?_, ?_, ?_⟩
      · have hpos : 0 < m.toRat := lt_trans (by norm_num) hlow
        have hne : m.units ≠ 0 := by omega
        rw [Number.shownSign, hsame]
        cases s with
        | false => rw [Number.toRat, if_neg (by simp), if_neg (not_lt.2 hpos.le)]
        | true => rw [Number.toRat, if_pos ⟨rfl, hne⟩, if_pos (by linarith)]
      · rw [hsame, hfirst]
      · rw [hsame, hsecond]

theorem resultText_evaluate_small :
    ∃ y, evaluate "-1.230000e-8".toList = .ok y ∧ y.resultText = "-1.230000e-8".toList := by
  obtain ⟨m, hm⟩ : ∃ m, m = (Decimal.toMagnitude? ⟨123456789, -16⟩).getD .zero := ⟨_, rfl⟩
  have htext : (Number.finite true m).resultText = "-1.230000e-8".toList := by
    rw [hm]
    decide +kernel
  have hplain : m.units ≤ Magnitude.largestPlain.units := by
    rw [hm]
    decide +kernel
  have hnot : ¬ (Number.finite true m).IsJustLarge := by
    rintro ⟨hlow, -⟩
    rw [Number.abs_toRat] at hlow
    exact absurd (Magnitude.largestPlain_lt_iff.2 hlow) (Nat.not_lt.2 hplain)
  obtain ⟨y, hy, -, hsame, -⟩ := @resultText_evaluate (.finite true m) rfl
  rw [htext] at hy hsame
  exact ⟨y, hy, hsame hnot⟩

/-- Ten to the tenth and one is displayed as ten to the tenth with an exponent, and that
text as ten to the tenth in full. -/
theorem resultText_evaluate_ne :
    evaluate (Number.ofNat 10000000001).resultText = .ok (Number.ofNat 10000000000) ∧
      (Number.ofNat 10000000000).resultText ≠ (Number.ofNat 10000000001).resultText := by
  have hvalue : Number.ofNat 10000000001 =
      .finite false ((Decimal.toMagnitude? ⟨10000000001, 0⟩).getD .zero) := by decide +kernel
  have hread : Magnitude.reread (Magnitude.toTenDecimals
      ((Decimal.toMagnitude? ⟨10000000001, 0⟩).getD .zero)) = Magnitude.largestPlain := by
    decide +kernel
  refine ⟨?_, by decide +kernel⟩
  rw [hvalue, evaluate_resultText_eq, hread]
  decide +kernel

end Calculator
