import Calculator.Proofs.ResultText

set_option autoImplicit false

namespace Calculator

namespace Tie

theorem div_eq_or_succ_eq {num den k : Nat} (hd : 0 < den)
    (hlow : 2 * (k * den) ≤ 2 * num + den) (hhigh : 2 * num ≤ 2 * (k * den) + den) :
    num / den = k ∨ num / den + 1 = k := by
  have hm := Nat.div_add_mod num den
  have hr := Nat.mod_lt num hd
  rw [Nat.mul_comm] at hm
  generalize num / den = q at *
  by_contra hne
  rcases Nat.lt_or_ge k q with hk | hk
  · have hle : (k + 1) * den ≤ q * den := Nat.mul_le_mul_right den hk
    rw [Nat.add_mul, Nat.one_mul] at hle
    omega
  · have hle : (q + 2) * den ≤ k * den := Nat.mul_le_mul_right den (by omega)
    rw [Nat.add_mul] at hle
    omega

/-- A half goes up, so a quotient is rounded to the digits up to which half a step more
reaches. -/
theorem away_divide_eq_iff {num den k : Nat} (hd : 0 < den) :
    Tie.away.divide num den = k ↔ 2 * (k * den) ≤ 2 * num + den ∧ 2 * num < 2 * (k * den) + den := by
  have hm := Nat.div_add_mod num den
  have hr := Nat.mod_lt num hd
  have hdivide : Tie.away.divide num den =
      if 2 * (num % den) < den then num / den else num / den + 1 := by
    simp [divide]
  rw [Nat.mul_comm] at hm
  rw [hdivide]
  constructor
  · generalize num / den = q at *
    split
    · rintro rfl
      omega
    · rintro rfl
      rw [Nat.add_mul, Nat.one_mul]
      omega
  · rintro ⟨hlow, hhigh⟩
    rcases div_eq_or_succ_eq hd hlow hhigh.le with hq | hq
    · rw [hq] at hm ⊢
      rw [if_pos (by omega)]
    · rw [← hq, Nat.add_mul, Nat.one_mul] at hlow
      rw [if_neg (by omega), hq]

theorem toEven_divide_eq {num den k : Nat} (hd : 0 < den) (heven : k % 2 = 0)
    (hlow : 2 * (k * den) ≤ 2 * num + den) (hhigh : 2 * num ≤ 2 * (k * den) + den) :
    Tie.toEven.divide num den = k := by
  have hm := Nat.div_add_mod num den
  rw [Nat.mul_comm] at hm
  unfold divide
  rcases div_eq_or_succ_eq hd hlow hhigh with hq | hq
  · rw [hq] at hm ⊢
    split
    · rfl
    · rw [if_neg (by omega), if_pos ⟨rfl, heven⟩]
  · rw [← hq, Nat.add_mul, Nat.one_mul] at hlow
    rw [if_neg (by omega), if_neg (c := _ ∧ _) (by omega), hq, ite_self]

end Tie

namespace Magnitude

theorem not_five_dvd_one : ¬ 5 ∣ one := by
  intro h
  obtain ⟨n, hn⟩ : ∃ n, one = 2 ^ n := ⟨fractionBits, rfl⟩
  have hcoprime : Nat.Coprime 5 (2 ^ n) := .pow_right n (by decide)
  rw [← hn] at hcoprime
  exact absurd (hcoprime.eq_one_of_dvd h) (by decide)

theorem units_tenDecimals (v : Magnitude) :
    v.tenDecimals.units = (v.tenDecimals.coefficient * one, 10 ^ (10 : Nat)) := by
  unfold tenDecimals
  generalize Tie.away.divide _ _ = digits
  exact Decimal.units_neg digits 10

theorem coefficient_tenDecimals_iff (v : Magnitude) (k : Nat) :
    v.tenDecimals.coefficient = k ↔ 2 * (k * one) ≤ 2 * (v.units * 10 ^ (10 : Nat)) + one ∧
      2 * (v.units * 10 ^ (10 : Nat)) < 2 * (k * one) + one := by
  have h := @Tie.away_divide_eq_iff (v.units * 10 ^ (10 : Nat)) one k one_pos
  unfold tenDecimals
  dsimp only
  exact h

/-- A magnitude that is read from a value's ten decimals has those ten decimals. -/
theorem tenDecimals_of_toMagnitude? {v r : Magnitude} (h : v.tenDecimals.toMagnitude? = some r) :
    r.tenDecimals = v.tenDecimals := by
  have hv := (v.coefficient_tenDecimals_iff _).1 rfl
  have hr := Decimal.units_of_toMagnitude? h
  rw [units_tenDecimals] at hr
  dsimp only at hr
  have hnear := rounded_nearest (v.tenDecimals.coefficient * one)
    (by decide : 0 < 10 ^ (10 : Nat)) v
  rw [← hr] at hnear
  suffices hdigits : r.tenDecimals.coefficient = v.tenDecimals.coefficient by
    unfold tenDecimals at hdigits ⊢
    dsimp only at hdigits
    rw [hdigits]
  refine (r.coefficient_tenDecimals_iff _).2 ?_
  -- one step of the tenth decimal is no whole number of units
  have hapart : r.units * 10 ^ (10 : Nat) ≠ v.units * 10 ^ (10 : Nat) + one := by
    intro heq
    have hfive (n : Nat) : 5 ∣ n * 10 ^ (10 : Nat) := Nat.dvd_mul_left_of_dvd (by decide) n
    exact not_five_dvd_one ((Nat.dvd_add_right (hfive v.units)).1 (heq ▸ hfive r.units))
  generalize one = unit at *
  generalize 10 ^ (10 : Nat) = scale at *
  generalize v.tenDecimals.coefficient * unit = middle at *
  generalize r.units * scale = read at *
  generalize v.units * scale = value at *
  rcases abs_cases ((read : Int) - middle) with ⟨hleft, _⟩ | ⟨hleft, _⟩ <;>
    rcases abs_cases ((value : Int) - middle) with ⟨hright, _⟩ | ⟨hright, _⟩ <;> omega

theorem toTenDecimals_toTenDecimals (v : Magnitude) :
    v.toTenDecimals.toTenDecimals = v.toTenDecimals := by
  rcases v.toTenDecimals_cases with h | h
  · rw [h, h]
  · have hdecimals := tenDecimals_of_toMagnitude? h
    generalize v.toTenDecimals = r at *
    rw [toTenDecimals_eq, hdecimals, h, Option.getD_some]

theorem toMagnitude?_tenDecimals {v : Magnitude} (h : v.units ≤ largestPlain.units) :
    v.tenDecimals.toMagnitude? = some v.toTenDecimals := by
  have hupper := (abs_le.1 v.abs_tenDecimals_sub_le).2
  have hplain : v.toRat ≤ 10 ^ 10 := by rwa [← toRat_largestPlain, toRat_le_iff]
  have hrange : v.tenDecimals.toRat ≤ 10 ^ 11 := by
    norm_num at hplain hupper ⊢
    linarith
  have hread := toMagnitude?_eq_getD hrange
  rw [hread, toTenDecimals_eq, hread, Option.getD_some, Option.getD_some]

end Magnitude

end Calculator
