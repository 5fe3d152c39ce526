import Calculator.Proofs.Number.Sum
import Calculator.Proofs.State.Inquiry

set_option autoImplicit false

namespace Calculator

/-- What an operation makes of a deadline. -/
inductive Dated (now delay : Number) (before : Option Number) : Option Number → Prop
  | kept : Dated now delay before before
  | gone : Dated now delay before none
  | set : Dated now delay before (some (now.add delay))

namespace State

structure Dates (now : Number) (s t : State) : Prop where
  error : Dated now errorDelay s.errorUntil t.errorUntil
  copied : Dated now copyDelay s.copiedUntil t.copiedUntil

variable {now : Number} {s t : State}

theorem dated_remaining (now delay : Number) (deadline : Option Number) :
    Dated now delay deadline (remaining now deadline) := by
  unfold remaining
  split
  · exact .gone
  · exact .kept

theorem Effect.dates {a : Action} (h : s.Effect now a t) : Dates now s t := by
  cases h with
  | quiet hresult herror hcopied => exact ⟨herror ▸ .kept, hcopied ▸ .kept⟩
  | refused h => exact ⟨.set, .kept⟩
  | calculated h => exact ⟨.gone, .kept⟩
  | cleared => exact ⟨.gone, .kept⟩
  | copied => exact ⟨.kept, .set⟩
  | ticked =>
    rw [tick_eq]
    exact ⟨dated_remaining now _ _, dated_remaining now _ _⟩

theorem dates_perform (now : Number) (s : State) (a : Action) : Dates now s (a.perform now s) :=
  (effect_perform now s a).dates

structure Awaits (now : Number) (s : State) : Prop where
  error : passed now s.errorUntil = false
  copied : passed now s.copiedUntil = false

theorem Awaits.tick_eq (h : Awaits now s) : s.tick now = s :=
  tick_eq_self_iff.2 ⟨h.error, h.copied⟩

theorem awaits_tick (now : Number) (s : State) : Awaits now (s.tick now) := by
  rw [State.tick_eq]
  exact ⟨passed_remaining now _, passed_remaining now _⟩

/-- Both deadlines lie ahead when they are set at this time. -/
structure DeadlinesAhead (now : Number) : Prop where
  error : (now.add errorDelay).atMost now = false
  copied : (now.add copyDelay).atMost now = false

theorem passed_of_dated {delay : Number} {before after : Option Number}
    (h : Dated now delay before after) (hahead : (now.add delay).atMost now = false)
    (hbefore : passed now before = false) : passed now after = false := by
  cases h with
  | kept => exact hbefore
  | gone => rfl
  | set => exact hahead

theorem Awaits.of_dates (h : Awaits now s) (hahead : DeadlinesAhead now) (hdates : Dates now s t) :
    Awaits now t :=
  ⟨passed_of_dated hdates.error hahead.error h.error,
    passed_of_dated hdates.copied hahead.copied h.copied⟩

theorem Awaits.perform (h : Awaits now s) (hahead : DeadlinesAhead now) (a : Action) :
    Awaits now (a.perform now s) :=
  h.of_dates hahead (dates_perform now s a)

theorem Awaits.foldl (h : Awaits now s) (hahead : DeadlinesAhead now) (ops : List Operation) :
    Awaits now (ops.foldl (Operation.perform now) s) :=
  List.foldlRecOn ops _ h fun _ ht op _ => ht.perform hahead (.operation op)

end State

namespace Magnitude

theorem abs_rounded_sub_le {n : Nat} (h : n < 2 ^ (53 : Nat) * one) :
    2 * n ≤ 2 * rounded n 1 + one ∧ 2 * rounded n 1 ≤ 2 * n + one := by
  have hgap : gap n ≤ one := by
    refine Nat.pow_le_pow_right (by decide) ?_
    by_cases hn : n = 0
    · subst hn
      decide
    · rw [one, ← Nat.pow_add] at h
      have hlog : Nat.log2 n < 53 + fractionBits := (Nat.log2_lt hn).2 h
      omega
  have herror := Tie.toEven.divide_error n (gap_pos n)
  rw [rounded, Nat.div_one, Nat.one_mul]
  omega

end Magnitude

namespace Number

theorem exists_rank?_ofQuotient {sum : Int} (h : sum.natAbs < 2 ^ (53 : Nat) * Magnitude.one) :
    ∃ r : Int, (ofQuotient (decide (sum < 0)) sum.natAbs 1).rank? = some r ∧
      2 * sum ≤ 2 * r + Magnitude.one ∧ 2 * r ≤ 2 * sum + Magnitude.one := by
  obtain ⟨hlow, hhigh⟩ := Magnitude.abs_rounded_sub_le h
  have hbound : Magnitude.rounded sum.natAbs 1 < Magnitude.bound := by
    have hwide : 2 ^ (54 : Nat) * Magnitude.one < Magnitude.bound := by
      rw [Magnitude.one, ← Nat.pow_add]
      exact (Nat.pow_lt_pow_iff_right (by decide)).2 (by decide)
    omega
  rw [ofQuotient, Magnitude.nearest?, dif_pos hbound, Option.elim_some]
  by_cases hneg : sum < 0
  · rw [decide_eq_true hneg]
    refine ⟨-(Magnitude.rounded sum.natAbs 1 : Int), rfl, ?_, ?_⟩ <;> omega
  · rw [decide_eq_false hneg]
    refine ⟨Magnitude.rounded sum.natAbs 1, rfl, ?_, ?_⟩ <;> omega

/-- A delay of one or two is not lost in rounding below 2^52. -/
theorem add_ofNat_atMost_eq_false {negative : Bool} {a : Magnitude} {n : Nat}
    (ha : a.units < 2 ^ (52 : Nat) * Magnitude.one) (hlow : 1 ≤ n) (hhigh : n ≤ 2) :
    ((finite negative a).add (ofNat n)).atMost (finite negative a) = false := by
  have hrank := rank?_finite negative a
  have hsigned : (signed negative a).natAbs = a.units := by
    cases negative with
    | false => rfl
    | true => exact Int.natAbs_neg _
  have hpos := Magnitude.one_pos
  have hone : Magnitude.one ≤ n * Magnitude.one := Nat.le_mul_of_pos_left _ hlow
  have htwo : n * Magnitude.one ≤ 2 * Magnitude.one := Nat.mul_le_mul_right _ hhigh
  obtain ⟨d, hd, hunits⟩ := exists_ofNat_eq (n := n) (by omega)
  have hdelay : signed false d = d.units := rfl
  rw [hd, add]
  split
  · rename_i hzero
    have hresult : (finite (negative && false) .zero).rank? = some 0 := by cases negative <;> rfl
    rw [hdelay] at hzero
    simp only [atMost, hresult, hrank]
    exact decide_eq_false (by omega)
  · obtain ⟨r, hr, hclose, -⟩ := @exists_rank?_ofQuotient
      (signed negative a + signed false d) (by omega)
    simp only [atMost, hr, hrank]
    exact decide_eq_false (by omega)

end Number

namespace State

/-- This covers any time of a clock that counts seconds. -/
theorem deadlinesAhead_of_lt {now : Number} (hfinite : now.isFinite = true)
    (hnow : |now.toRat| < 2 ^ (52 : Nat)) : DeadlinesAhead now := by
  cases now with
  | nan => cases hfinite
  | infinite negative => cases hfinite
  | finite negative a =>
    have hone : (0 : ℚ) < Magnitude.one := by exact_mod_cast Magnitude.one_pos
    have htoRat : |(Number.finite negative a).toRat| = a.toRat := by
      cases negative with
      | false => exact abs_of_nonneg a.toRat_nonneg
      | true => exact (abs_neg _).trans (abs_of_nonneg a.toRat_nonneg)
    have ha : a.units < 2 ^ (52 : Nat) * Magnitude.one := by
      rw [htoRat, Magnitude.toRat, div_lt_iff₀ hone] at hnow
      have hcast : (a.units : ℚ) < ((2 ^ (52 : Nat) * Magnitude.one : Nat) : ℚ) := by
        rw [Nat.cast_mul, Nat.cast_pow, Nat.cast_ofNat]
        exact hnow
      exact Nat.cast_lt.1 hcast
    constructor
    · rw [errorDelay]
      exact Number.add_ofNat_atMost_eq_false ha (by decide) (by decide)
    · rw [copyDelay]
      exact Number.add_ofNat_atMost_eq_false ha (by decide) (by decide)

end State

end Calculator
