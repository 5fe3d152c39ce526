import Calculator.Number.Basic

set_option autoImplicit false

namespace Calculator

namespace Number

variable {x y z : Number}

theorem atMost_iff :
    x.atMost y = true ↔ ∃ i j, x.rank? = some i ∧ y.rank? = some j ∧ i ≤ j := by
  unfold atMost
  cases x.rank? <;> cases y.rank? <;> simp

theorem atMost_trans (h : x.atMost y = true) (k : y.atMost z = true) : x.atMost z = true := by
  obtain ⟨i, j, hi, hj, hij⟩ := atMost_iff.1 h
  obtain ⟨j', k, hj', hk, hjk⟩ := atMost_iff.1 k
  obtain rfl : j = j' := Option.some.inj (hj.symm.trans hj')
  exact atMost_iff.2 ⟨i, k, hi, hk, Int.le_trans hij hjk⟩

theorem exists_rank? (hx : x ≠ .nan) : ∃ i, x.rank? = some i := by
  cases x with
  | nan => exact absurd rfl hx
  | infinite s => cases s <;> exact ⟨_, rfl⟩
  | finite s m => cases s <;> exact ⟨_, rfl⟩

theorem less_eq_not_atMost (hx : x ≠ .nan) (hy : y ≠ .nan) : y.less x = !x.atMost y := by
  obtain ⟨i, hi⟩ := exists_rank? hx
  obtain ⟨j, hj⟩ := exists_rank? hy
  simp only [less, atMost, hi, hj, ← decide_not, Int.not_le]

theorem min_eq (hx : x ≠ .nan) (hy : y ≠ .nan) : x.min y = if y.less x then y else x := by
  cases x with
  | nan => exact absurd rfl hx
  | _ =>
    cases y with
    | nan => exact absurd rfl hy
    | _ => rfl

theorem min_eq_or (x y : Number) : x.min y = x ∨ x.min y = y := by
  unfold min
  split
  · exact .inr rfl
  · exact .inl rfl
  · split
    · exact .inr rfl
    · exact .inl rfl

theorem min_ne_nan (hx : x ≠ .nan) (hy : y ≠ .nan) : x.min y ≠ .nan := by
  rcases min_eq_or x y with h | h
  · rwa [h]
  · rwa [h]

theorem min_atMost (hx : x ≠ .nan) (hy : y ≠ .nan) (z : Number) :
    (x.min y).atMost z = (x.atMost z || y.atMost z) := by
  rw [min_eq hx hy, less_eq_not_atMost hx hy, Bool.eq_iff_iff, Bool.or_eq_true]
  cases hxy : x.atMost y with
  | true => exact ⟨.inl, fun h => h.elim id (atMost_trans hxy)⟩
  | false =>
    have hyx : y.atMost x = true := by
      obtain ⟨i, hi⟩ := exists_rank? hx
      obtain ⟨j, hj⟩ := exists_rank? hy
      simp only [atMost, hi, hj, decide_eq_false_iff_not] at hxy
      exact atMost_iff.2 ⟨j, i, hj, hi, by omega⟩
    exact ⟨.inr, fun h => h.elim (atMost_trans hyx) id⟩

end Number

end Calculator
