import Mathlib.Data.Rat.Floor
import Calculator.Proofs.Decimal.Shortest
import Calculator.Proofs.Evaluate

/-! The displayed text of a result, read again. Main statement: it has a value, within
1/10^10 of the result when the text is positional, and within a millionth of the
result more when it has an exponent. -/

set_option autoImplicit false

namespace Calculator

def Exponent.ofInt : Int → Exponent
  | .ofNat k =>
    ⟨'e', some '+', Nat.toDigits 10 k, .inl rfl, .inr (.inl rfl),
      fun _ => Decimal.isDigit_of_mem_toDigits, Decimal.toDigits_ne_nil k⟩
  | .negSucc k =>
    ⟨'e', some '-', Nat.toDigits 10 (k + 1), .inl rfl, .inr (.inr rfl),
      fun _ => Decimal.isDigit_of_mem_toDigits, Decimal.toDigits_ne_nil (k + 1)⟩

theorem Exponent.text_ofInt (e : Int) : (ofInt e).text = 'e' :: Magnitude.exponentText e := by
  cases e <;> rfl

theorem Exponent.value_ofInt (e : Int) : (ofInt e).value = e := by
  cases e with
  | ofNat k =>
    simp [ofInt, value, Nat.ofDigitChars_toDigits (b := 10) (by decide) (by decide)]
  | negSucc k =>
    simp only [ofInt, value, if_true, Nat.ofDigitChars_toDigits (b := 10) (by decide) (by decide)]
    rfl

theorem Mantissa.scaled_ofScientific (v : Magnitude) :
    Mantissa.scaled (.ofDecimal ⟨(v.scientific 6).1, -((6 : Nat) : Int)⟩)
      (some (.ofInt (v.scientific 6).2)) = v.scientificDecimal 6 := by
  have hexp : -((6 : Nat) : Int) + (v.scientific 6).2 = (v.scientific 6).2 - (6 : Nat) := by ring
  rw [scaled, Option.elim_some, decimal_ofDecimal, Exponent.value_ofInt, Decimal.scale,
    Magnitude.scientificDecimal, ← hexp]
  generalize v.scientific 6 = p
  rfl

namespace Literal

def ofScientific (v : Magnitude) (hv : v.units ≠ 0) : Literal where
  mantissa := .ofDecimal ⟨(v.scientific 6).1, -((6 : Nat) : Int)⟩
  exponent := some (.ofInt (v.scientific 6).2)
  isFinite := by
    obtain ⟨w, hw⟩ := Magnitude.exists_toMagnitude?_scientificDecimal hv
    rw [Mantissa.scaled_ofScientific, Decimal.toNumber, hw]
    rfl

theorem text_ofScientific (v : Magnitude) (hv : v.units ≠ 0) :
    (ofScientific v hv).text = v.scientificText 6 := by
  rw [text, ofScientific, Option.elim_some, Mantissa.text_ofDecimal, Exponent.text_ofInt]
  unfold Magnitude.scientificText
  generalize v.scientific 6 = p
  rfl

theorem value_ofScientific (v : Magnitude) (hv : v.units ≠ 0) :
    (ofScientific v hv).value = (v.scientificDecimal 6).toNumber :=
  congrArg Decimal.toNumber (Mantissa.scaled_ofScientific v)

end Literal

theorem Mantissa.ne_e_of_mem {m : Mantissa} {c : Char} (h : c ∈ m.text) : c ≠ 'e' := by
  rintro rfl
  cases isLiteralCharacter_of_mem h

namespace Magnitude

theorem e_not_mem_text (v : Magnitude) : 'e' ∉ v.text := by
  intro h
  rw [text, ← Mantissa.text_ofDecimal] at h
  exact Mantissa.ne_e_of_mem h rfl

theorem e_mem_scientificText (decimals : Nat) (v : Magnitude) :
    'e' ∈ v.scientificText decimals := by
  unfold scientificText
  simp

/-- Reading scientific form again moves a magnitude by a millionth at most. -/
theorem abs_sub_le_of_scientific {v w : Magnitude} (hv : v.units ≠ 0)
    (hw : (v.scientificDecimal 6).toMagnitude? = some w) :
    |w.toRat - v.toRat| ≤ v.toRat / 10 ^ 6 := by
  have hnear := Decimal.toMagnitude?_nearest hw v
  have herror := v.abs_scientificDecimal_sub_le 6
  have horder := (ten_zpow_order hv).1
  have hstep : (10 : ℚ) ^ v.order = 10 ^ 6 * 10 ^ (v.order - (6 : Nat)) := by
    rw [zpow_sub₀ (by norm_num), zpow_natCast]
    field_simp
  rw [hstep] at horder
  rw [abs_sub_comm] at herror
  have htriangle := abs_sub_le w.toRat (v.scientificDecimal 6).toRat v.toRat
  rw [abs_sub_comm (v.scientificDecimal 6).toRat] at htriangle
  generalize (10 : ℚ) ^ (v.order - (6 : Nat)) = step at *
  norm_num at horder ⊢
  linarith

/-- Whether a result is written with an exponent. -/
def IsExtreme (v : Magnitude) : Prop :=
  largestPlain.units < v.units ∨ (0 < v.units ∧ v.units < smallestPlain.units)

instance (v : Magnitude) : Decidable v.IsExtreme := inferInstanceAs (Decidable (_ ∨ _))

theorem resultText_of_isExtreme {v : Magnitude} (h : v.IsExtreme) :
    v.resultText = v.scientificText 6 := if_pos h

theorem resultText_of_not_isExtreme {v : Magnitude} (h : ¬ v.IsExtreme) :
    v.resultText = v.text := if_neg h

theorem IsExtreme.units_ne_zero {v : Magnitude} (h : v.IsExtreme) : v.units ≠ 0 := by
  unfold IsExtreme at h
  omega

/-- The magnitude that the text of a result is read as. -/
def reread (v : Magnitude) : Magnitude :=
  if v.IsExtreme then (v.scientificDecimal 6).toMagnitude?.getD v else v

theorem toMagnitude?_scientificDecimal {v : Magnitude} (h : v.IsExtreme) :
    (v.scientificDecimal 6).toMagnitude? = some v.reread := by
  obtain ⟨w, hw⟩ := exists_toMagnitude?_scientificDecimal h.units_ne_zero
  rw [reread, if_pos h, hw, Option.getD_some]

theorem reread_of_not_isExtreme {v : Magnitude} (h : ¬ v.IsExtreme) : v.reread = v := if_neg h

theorem exists_literal_reread (v : Magnitude) :
    ∃ l : Literal, l.text = v.resultText ∧ l.value = .finite false v.reread := by
  by_cases h : v.IsExtreme
  · refine ⟨.ofScientific v h.units_ne_zero, ?_, ?_⟩
    · rw [Literal.text_ofScientific, resultText_of_isExtreme h]
    · rw [Literal.value_ofScientific, Decimal.toNumber, toMagnitude?_scientificDecimal h]
      rfl
  · refine ⟨.ofMagnitude v, ?_, ?_⟩
    · rw [Literal.text_ofMagnitude, resultText_of_not_isExtreme h]
    · rw [Literal.value_ofMagnitude, reread_of_not_isExtreme h]

/-- The text of a result is a literal. It has an `e` just if the result is large or
small, and then its value is a millionth off at most. -/
theorem exists_literal (v : Magnitude) : ∃ (l : Literal) (w : Magnitude),
    l.text = v.resultText ∧ l.value = .finite false w ∧
      ('e' ∉ v.resultText ∧ w = v ∨
        'e' ∈ v.resultText ∧ v.units ≠ 0 ∧ |w.toRat - v.toRat| ≤ v.toRat / 10 ^ 6 ∧
          (largestPlain.units < v.units ∨ v.units < smallestPlain.units)) := by
  obtain ⟨l, htext, hvalue⟩ := v.exists_literal_reread
  refine ⟨l, v.reread, htext, hvalue, ?_⟩
  by_cases h : v.IsExtreme
  · have herror := abs_sub_le_of_scientific h.units_ne_zero (toMagnitude?_scientificDecimal h)
    rw [resultText_of_isExtreme h]
    exact .inr ⟨e_mem_scientificText 6 v, h.units_ne_zero, herror, h.imp_right And.right⟩
  · rw [resultText_of_not_isExtreme h]
    exact .inl ⟨v.e_not_mem_text, reread_of_not_isExtreme h⟩

/-- The value in whole steps of the tenth decimal. -/
def tenDecimals (v : Magnitude) : Decimal :=
  ⟨Tie.away.divide (v.units * 10 ^ (10 : Nat)) one, -10⟩

theorem tenDecimals_eq_roundedTo (v : Magnitude) : v.tenDecimals = v.roundedTo (-10) := rfl

theorem abs_tenDecimals_sub_le (v : Magnitude) :
    |v.tenDecimals.toRat - v.toRat| ≤ 1 / 10 ^ 10 / 2 := by
  have h := v.abs_roundedTo_sub_le (-10)
  rw [← tenDecimals_eq_roundedTo] at h
  norm_num at h ⊢
  exact h

theorem toTenDecimals_eq (v : Magnitude) :
    v.toTenDecimals = v.tenDecimals.toMagnitude?.getD v := rfl

theorem toTenDecimals_cases (v : Magnitude) : v.toTenDecimals = v ∨
    v.tenDecimals.toMagnitude? = some v.toTenDecimals := by
  rw [toTenDecimals_eq]
  cases v.tenDecimals.toMagnitude? with
  | none => exact .inl rfl
  | some r => exact .inr rfl

theorem abs_toTenDecimals_sub_le (v : Magnitude) :
    |v.toTenDecimals.toRat - v.toRat| ≤ 1 / 10 ^ 10 := by
  rcases v.toTenDecimals_cases with h | h
  · rw [h, sub_self, abs_zero]
    positivity
  · have hnear := Decimal.toMagnitude?_nearest h v
    have herror := v.abs_tenDecimals_sub_le
    have htriangle := abs_sub_le v.toTenDecimals.toRat v.tenDecimals.toRat v.toRat
    rw [abs_sub_comm v.toRat] at hnear
    linarith

theorem abs_units_sub_le {v w : Magnitude} (h : |v.toRat - w.toRat| ≤ 1 / 10 ^ 10) :
    |(v.units : Int) - w.units| * 10 ^ (10 : Nat) ≤ one := by
  have hone : (0 : ℚ) < one := Nat.cast_pos.2 one_pos
  rw [toRat, toRat, ← sub_div, abs_div, abs_of_pos hone, div_le_div_iff₀ hone (by positivity),
    one_mul] at h
  exact_mod_cast h

theorem two_pow_dvd {v : Magnitude} {k : Nat} (h : 2 ^ (52 + k) ≤ v.units) : 2 ^ k ∣ v.units := by
  have hne : v.units ≠ 0 := by
    have := Nat.two_pow_pos (52 + k)
    omega
  have hlog : 52 + k ≤ Nat.log2 v.units := (Nat.le_log2 hne).2 h
  exact Nat.dvd_trans (Nat.pow_dvd_pow 2 (by omega)) v.gap_dvd.1

theorem eq_of_abs_sub_lt {v w : Magnitude} {k : Nat} (hv : 2 ^ (52 + k) ≤ v.units)
    (hw : 2 ^ (52 + k) ≤ w.units) (h : |(v.units : Int) - w.units| < (2 ^ k : Nat)) : v = w := by
  obtain ⟨a, ha⟩ := two_pow_dvd hv
  obtain ⟨b, hb⟩ := two_pow_dvd hw
  refine ext ?_
  rw [ha, hb] at h ⊢
  generalize 2 ^ k = step at *
  by_contra hne
  have hab : (a : Int) - b ≠ 0 := by
    intro h0
    exact hne (by rw [show a = b by omega])
  have hstep : (step : Int) ≤ |((step * a : Nat) : Int) - (step * b : Nat)| := by
    push_cast
    rw [← mul_sub, abs_mul, Nat.abs_cast]
    exact le_mul_of_one_le_right (Int.natCast_nonneg _) (Int.one_le_abs hab)
  omega

theorem largestPlain_units : largestPlain.units = 10 ^ (10 : Nat) * one := by decide +kernel

theorem smallestPlain_units :
    99999 * one ≤ smallestPlain.units * 10 ^ (11 : Nat) ∧
      smallestPlain.units * 10 ^ (11 : Nat) ≤ 100001 * one := by decide +kernel

theorem toRat_largestPlain : largestPlain.toRat = 10 ^ 10 := by
  have hone : (one : ℚ) ≠ 0 := Nat.cast_ne_zero.2 one_pos.ne'
  rw [toRat, largestPlain_units, Nat.cast_mul, mul_div_cancel_right₀ _ hone]
  norm_num

theorem smallestPlain_le_largestPlain : smallestPlain.units ≤ largestPlain.units := by
  rw [largestPlain_units]
  have hsmallest := smallestPlain_units.2
  generalize smallestPlain.units = units at *
  omega

theorem eq_of_abs_toRat_sub_le {v w : Magnitude} (hv : 2 ^ (33 : Nat) * one ≤ v.units)
    (hw : 2 ^ (33 : Nat) * one ≤ w.units) (h : |v.toRat - w.toRat| ≤ 1 / 10 ^ 10) : v = w := by
  have herror := abs_units_sub_le h
  obtain ⟨k, hk⟩ : ∃ k, fractionBits = 19 + k := ⟨1055, rfl⟩
  have hunit : one = 2 ^ (19 : Nat) * 2 ^ k := by rw [one, hk, Nat.pow_add]
  have hfoot : 2 ^ (52 + k) = 2 ^ (33 : Nat) * one := by
    have hsum : 52 + k = 33 + fractionBits := by omega
    rw [hsum, Nat.pow_add, one]
  have hpos := Nat.two_pow_pos k
  refine eq_of_abs_sub_lt (k := k) ?_ ?_ ?_
  · omega
  · omega
  · omega

theorem toTenDecimals_of_large {v : Magnitude}
    (h : largestPlain.units ≤ v.units ∨ largestPlain.units ≤ v.toTenDecimals.units) :
    v.toTenDecimals = v := by
  have herror := abs_units_sub_le v.abs_toTenDecimals_sub_le
  rw [largestPlain_units] at h
  have hone := one_pos
  have habs := abs_le.1 (le_refl |(v.toTenDecimals.units : Int) - v.units|)
  refine eq_of_abs_toRat_sub_le ?_ ?_ v.abs_toTenDecimals_sub_le
  · omega
  · omega

/-- The magnitude of a number below eight in whole steps of 2^-50. -/
def dyadic (n : Nat) (h : n < 2 ^ (53 : Nat)) : Magnitude :=
  ⟨n * 2 ^ (fractionBits - 50), n, fractionBits - 50, h, by decide, rfl⟩

theorem toRat_dyadic (n : Nat) (h : n < 2 ^ (53 : Nat)) : (dyadic n h).toRat = n / 2 ^ 50 := by
  have hbits : fractionBits = 50 + (fractionBits - 50) := rfl
  have hunit : one = 2 ^ (50 : Nat) * 2 ^ (fractionBits - 50) := by
    rw [one, ← Nat.pow_add, ← hbits]
  have hunits : (dyadic n h).units = n * 2 ^ (fractionBits - 50) := rfl
  rw [toRat, hunits, hunit]
  generalize fractionBits - 50 = k
  have hpos : (0 : ℚ) < 2 ^ k := pow_pos two_pos _
  rw [Nat.cast_mul, Nat.cast_mul, Nat.cast_pow, Nat.cast_pow, mul_div_mul_right _ _ (by positivity)]
  rfl

theorem toRat_lt_one_of_toMagnitude? {d : Decimal} {r : Magnitude}
    (h : d.toMagnitude? = some r) (hr : r.units < one) : d.toRat < 1 := by
  have hone : (0 : ℚ) < one := Nat.cast_pos.2 one_pos
  have hsmall : r.toRat < 1 := by
    rw [toRat, div_lt_one hone]
    exact_mod_cast hr
  have hnear := Decimal.toMagnitude?_nearest h (dyadic (2 ^ (50 : Nat)) (by decide))
  rw [toRat_dyadic] at hnear
  norm_num at hnear
  by_contra hge
  rw [abs_of_nonpos (a := 1 - _) (by linarith)] at hnear
  have := (abs_le.1 hnear).1
  linarith

theorem abs_toMagnitude?_sub_le_of_lt_one {d : Decimal} {r : Magnitude}
    (h : d.toMagnitude? = some r) (hd : d.toRat < 1) : |r.toRat - d.toRat| ≤ 1 / 2 ^ 50 := by
  have hnonneg := d.toRat_nonneg
  have hfloor := Nat.floor_le (a := d.toRat * 2 ^ 50) (by positivity)
  have hlt := Nat.lt_floor_add_one (d.toRat * 2 ^ 50)
  generalize ⌊d.toRat * 2 ^ 50⌋₊ = n at *
  have hn : n < 2 ^ (53 : Nat) := by
    have hcast : (n : ℚ) < 2 ^ (53 : Nat) := by linarith
    exact_mod_cast hcast
  have hgrid : |(dyadic n hn).toRat - d.toRat| ≤ 1 / 2 ^ 50 := by
    rw [toRat_dyadic, abs_le]
    constructor <;> linarith
  exact (Decimal.toMagnitude?_nearest h _).trans hgrid

/-- A small result is within its tenth decimal, save for the last bits. -/
theorem abs_toTenDecimals_sub_le_of_small {v : Magnitude}
    (h : v.toTenDecimals.units < smallestPlain.units) :
    |v.toTenDecimals.toRat - v.toRat| ≤ 1 / 10 ^ 10 / 2 + 1 / 2 ^ 50 := by
  rcases v.toTenDecimals_cases with hv | hv
  · rw [hv, sub_self, abs_zero]
    positivity
  have hsmallest : smallestPlain.units < one := by
    have hbound := smallestPlain_units.2
    have hone := one_pos
    generalize smallestPlain.units = units at *
    omega
  have hbelow := toRat_lt_one_of_toMagnitude? hv (h.trans hsmallest)
  have hread := abs_toMagnitude?_sub_le_of_lt_one hv hbelow
  have herror := v.abs_tenDecimals_sub_le
  have htriangle := abs_sub_le v.toTenDecimals.toRat v.tenDecimals.toRat v.toRat
  linarith

theorem exists_literal_toTenDecimals (v : Magnitude) : ∃ (l : Literal) (w : Magnitude),
    l.text = v.toTenDecimals.resultText ∧ l.value = .finite false w ∧
      (v.toTenDecimals.units = 0 → w.toRat = 0) ∧
      ('e' ∉ l.text → |w.toRat - v.toRat| ≤ 1 / 10 ^ 10) ∧
      ('e' ∈ l.text → |w.toRat - v.toRat| ≤ v.toRat / 10 ^ 6 + 1 / 10 ^ 10) := by
  have herror := v.abs_toTenDecimals_sub_le
  have hlarge (h : largestPlain.units < v.toTenDecimals.units) : v.toTenDecimals = v :=
    toTenDecimals_of_large (.inr h.le)
  have hsmall : v.toTenDecimals.units < smallestPlain.units →
      |v.toTenDecimals.toRat - v.toRat| ≤ 1 / 10 ^ 10 / 2 + 1 / 2 ^ 50 :=
    abs_toTenDecimals_sub_le_of_small
  generalize v.toTenDecimals = r at *
  obtain ⟨l, w, htext, hvalue, hcases⟩ := r.exists_literal
  refine ⟨l, w, htext, hvalue, ?_⟩
  rw [htext]
  rcases hcases with ⟨hplain, rfl⟩ | ⟨he, hne, hread, hsize⟩
  · refine ⟨fun h => ?_, fun _ => herror, fun h => absurd h hplain⟩
    rw [toRat, h, Nat.cast_zero, zero_div]
  · refine ⟨fun h => absurd h hne, fun h => absurd he h, fun _ => ?_⟩
    rcases hsize with h | h
    · rw [hlarge h] at hread
      have hpos : (0 : ℚ) ≤ 1 / 10 ^ 10 := by positivity
      linarith
    · have htriangle := abs_sub_le w.toRat r.toRat v.toRat
      have hupper := (abs_le.1 (hsmall h)).2
      have hsmall := hsmall h
      norm_num at hread hupper hsmall htriangle ⊢
      linarith

end Magnitude

theorem Number.resultText_finite (s : Bool) (m : Magnitude) :
    (Number.finite s m).resultText = if s = true ∧ m.toTenDecimals.units ≠ 0 then
      '-' :: m.toTenDecimals.resultText else m.toTenDecimals.resultText := by
  unfold Number.resultText
  dsimp only

theorem Number.abs_toRat (s : Bool) (m : Magnitude) : |(Number.finite s m).toRat| = m.toRat := by
  cases s with
  | false => exact abs_of_nonneg m.toRat_nonneg
  | true => rw [toRat, abs_neg, abs_of_nonneg m.toRat_nonneg]

theorem Number.abs_toRat_sub (s : Bool) (m w : Magnitude) :
    |(Number.finite s w).toRat - (Number.finite s m).toRat| = |w.toRat - m.toRat| := by
  cases s with
  | false => rfl
  | true => rw [toRat, toRat, neg_sub_neg, abs_sub_comm]

theorem evaluate_resultText_finite (s : Bool) (m : Magnitude) : ∃ (t : Bool) (w : Magnitude),
    evaluate (Number.finite s m).resultText = .ok (.finite t w) ∧
      |(Number.finite t w).toRat - (Number.finite s m).toRat| = |w.toRat - m.toRat| ∧
      ('e' ∉ (Number.finite s m).resultText → |w.toRat - m.toRat| ≤ 1 / 10 ^ 10) ∧
      ('e' ∈ (Number.finite s m).resultText →
        |w.toRat - m.toRat| ≤ m.toRat / 10 ^ 6 + 1 / 10 ^ 10) := by
  obtain ⟨l, w, htext, hvalue, hzero, hplain, hscientific⟩ := m.exists_literal_toTenDecimals
  by_cases hneg : s = true ∧ m.toTenDecimals.units ≠ 0
  · have hresult : (Number.finite s m).resultText = '-' :: l.text := by
      rw [Number.resultText_finite, if_pos hneg, htext]
    have hmem : 'e' ∈ '-' :: l.text ↔ 'e' ∈ l.text := by simp
    have hvalue' : l.value.neg = .finite true w := by rw [hvalue]; rfl
    refine ⟨true, w, ?_, ?_, ?_⟩
    · rw [hresult, evaluate_negative l, hvalue']
    · rw [hneg.1, Number.abs_toRat_sub]
    · rw [hresult, hmem]
      exact ⟨hplain, hscientific⟩
  · have hresult : (Number.finite s m).resultText = l.text := by
      rw [Number.resultText_finite, if_neg hneg, htext]
    refine ⟨false, w, ?_, ?_, ?_⟩
    · rw [hresult, evaluate_literal l, hvalue]
    · cases s with
      | false => rfl
      | true =>
        have hw : w.toRat = 0 := hzero (by simpa using hneg)
        rw [Number.toRat, Number.toRat, hw, sub_neg_eq_add, zero_add, zero_sub, abs_neg]
    · rw [hresult]
      exact ⟨hplain, hscientific⟩

/-- The text of a finite result has a value near to it: within 1/10^10 without an
exponent, and within a millionth and 1/10^10 with one. -/
theorem evaluate_resultText {x : Number} (hx : x.isFinite = true) :
    ∃ y, evaluate x.resultText = .ok y ∧ y.isFinite = true ∧
      ('e' ∉ x.resultText → |y.toRat - x.toRat| ≤ 1 / 10 ^ 10) ∧
      ('e' ∈ x.resultText → |y.toRat - x.toRat| ≤ |x.toRat| / 10 ^ 6 + 1 / 10 ^ 10) := by
  cases x with
  | nan => cases hx
  | infinite s => cases hx
  | finite s m =>
    obtain ⟨t, w, hvalue, hdist, hplain, hscientific⟩ := evaluate_resultText_finite s m
    refine ⟨_, hvalue, rfl, ?_⟩
    rw [hdist, Number.abs_toRat]
    exact ⟨hplain, hscientific⟩

theorem evaluate_resultText_small :
    ∃ y, evaluate "-1.230000e-8".toList = .ok y ∧
      |y.toRat - (Decimal.toNumber ⟨123456789, -16⟩).neg.toRat| ≤
        |(Decimal.toNumber ⟨123456789, -16⟩).neg.toRat| / 10 ^ 6 + 1 / 10 ^ 10 := by
  have htext : (Decimal.toNumber ⟨123456789, -16⟩).neg.resultText = "-1.230000e-8".toList := by
    decide +kernel
  have hfinite : (Decimal.toNumber ⟨123456789, -16⟩).neg.isFinite = true := by decide +kernel
  obtain ⟨y, hy, _, _, herror⟩ := evaluate_resultText hfinite
  rw [htext] at hy herror
  exact ⟨y, hy, herror (by decide)⟩

end Calculator
