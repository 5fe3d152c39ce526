import Mathlib.Algebra.Order.Floor.Semifield
import Mathlib.Data.Rat.Floor
import Calculator.Proofs.Number.Scientific
import Calculator.Proofs.Number.Spacing

set_option autoImplicit false

namespace Calculator

namespace Magnitude

/-- Whether a neighbour of the value on this grid reads back. -/
def Hits (v : Magnitude) (grid : Int) : Prop :=
  ∃ d ∈ v.neighbours grid, v.readsBack d = true

theorem readsBack_iff {v : Magnitude} {d : Decimal} :
    v.readsBack d = true ↔ d.toMagnitude? = some v := by
  rw [readsBack, beq_iff_eq]

theorem mem_neighbours_iff {v : Magnitude} {grid : Int} {d : Decimal} :
    d ∈ v.neighbours grid ↔ d.exponent = grid ∧
      (d.coefficient = (v.onGrid grid).1 / (v.onGrid grid).2 ∨
        d.coefficient = (v.onGrid grid).1 / (v.onGrid grid).2 + 1) := by
  obtain ⟨c, e⟩ := d
  have hlow := Tie.away.le_divide (v.onGrid grid).1 (v.onGrid grid).2
  have hhigh := Tie.away.divide_le (v.onGrid grid).1 (v.onGrid grid).2
  simp only [neighbours, List.mem_cons, List.not_mem_nil, or_false, Decimal.mk.injEq]
  constructor
  · rintro (⟨rfl, rfl⟩ | ⟨rfl, rfl⟩ | ⟨rfl, rfl⟩)
    · exact ⟨rfl, by omega⟩
    · exact ⟨rfl, .inl rfl⟩
    · exact ⟨rfl, .inr rfl⟩
  · rintro ⟨rfl, hc | hc⟩
    · exact .inr (.inl ⟨hc, rfl⟩)
    · exact .inr (.inr ⟨hc, rfl⟩)

theorem onGrid_succ (v : Magnitude) (grid : Int) :
    (v.onGrid (grid + 1)).1 / (v.onGrid (grid + 1)).2 =
      (v.onGrid grid).1 / (v.onGrid grid).2 / 10 := by
  have hstep : v.toRat / 10 ^ (grid + 1) = v.toRat / 10 ^ grid / (10 : Nat) := by
    rw [zpow_add_one₀ (by norm_num), div_div]
    rfl
  rw [← Nat.floor_div_eq_div (K := ℚ), onGrid_eq, hstep, Nat.floor_div_natCast, ← onGrid_eq,
    Nat.floor_div_eq_div]

/-- A decimal on the coarsest grid, from the grid `top` on, on which a neighbour of the
value reads back. -/
structure Coarsest (v : Magnitude) (top : Int) (d : Decimal) : Prop where
  mem : d ∈ v.neighbours d.exponent
  readsBack : v.readsBack d = true
  le : d.exponent ≤ top
  not_hits : ∀ grid, d.exponent < grid → grid ≤ top → ¬ v.Hits grid

theorem coarsest_shortestFrom {v : Magnitude} {grids : Nat} {grid : Int}
    (h : ∃ j : Nat, j < grids ∧ v.Hits (grid - j)) :
    v.Coarsest grid (v.shortestFrom grids grid) := by
  induction grids generalizing grid with
  | zero =>
    obtain ⟨j, hj, -⟩ := h
    omega
  | succ grids ih =>
    unfold shortestFrom
    cases hfind : (v.neighbours grid).find? v.readsBack with
    | some d =>
      dsimp only
      have hmem := List.mem_of_find?_eq_some hfind
      have hexp : d.exponent = grid := (mem_neighbours_iff.1 hmem).1
      exact ⟨by rwa [hexp], List.find?_some hfind, by omega, fun g hlow hhigh => by omega⟩
    | none =>
      dsimp only
      have hnot : ¬ v.Hits grid := by
        rintro ⟨d, hd, hback⟩
        exact List.find?_eq_none.1 hfind d hd hback
      obtain ⟨j, hj, hhits⟩ := h
      have hne : j ≠ 0 := by
        rintro rfl
        exact hnot (by simpa using hhits)
      have hstep : grid - 1 - ((j - 1 : Nat) : Int) = grid - j := by omega
      have hrest : v.Coarsest (grid - 1) (v.shortestFrom grids (grid - 1)) :=
        ih ⟨j - 1, by omega, by rwa [hstep]⟩
      refine ⟨hrest.mem, hrest.readsBack, hrest.le.trans (by omega), fun g hlow hhigh => ?_⟩
      rcases Int.lt_or_eq_of_le hhigh with hlt | rfl
      · exact hrest.not_hits g hlow (by omega)
      · exact hnot

theorem Coarsest.le_exponent {v : Magnitude} {top grid : Int} {d : Decimal}
    (h : v.Coarsest top d) (hgrid : grid ≤ top) (hhits : v.Hits grid) : grid ≤ d.exponent := by
  by_contra hlt
  exact h.not_hits grid (Int.not_le.1 hlt) hgrid hhits

/-- A zero at the end would be left out on the next coarser grid. -/
theorem hits_succ {v : Magnitude} {d : Decimal} (hmem : d ∈ v.neighbours d.exponent)
    (hback : v.readsBack d = true) (hzero : d.coefficient % 10 = 0) :
    v.Hits (d.exponent + 1) := by
  obtain ⟨-, hcoefficient⟩ := mem_neighbours_iff.1 hmem
  have hcut := v.onGrid_succ d.exponent
  refine ⟨⟨d.coefficient / 10, d.exponent + 1⟩, mem_neighbours_iff.2 ⟨rfl, by dsimp only; omega⟩, ?_⟩
  have hvalue : (⟨d.coefficient / 10, d.exponent + 1⟩ : Decimal).toRat = d.toRat := by
    have hten : d.coefficient = d.coefficient / 10 * 10 := by omega
    simp only [Decimal.toRat]
    generalize d.coefficient / 10 = c at *
    rw [hten, zpow_add_one₀ (by norm_num)]
    push_cast
    ring
  rw [readsBack_iff, Decimal.toMagnitude?_congr hvalue, ← readsBack_iff]
  exact hback

theorem toRat_eq_zero_of_readsBack {v : Magnitude} {d : Decimal} (h : v.readsBack d = true)
    (hd : d.toRat = 0) : v.toRat = 0 := by
  have hnear := Decimal.toMagnitude?_nearest (readsBack_iff.1 h) zero
  have hzero : zero.toRat = 0 := toRat_eq_zero_iff.2 rfl
  rw [hd, hzero, sub_zero, sub_zero, abs_zero] at hnear
  exact abs_eq_zero.1 (le_antisymm hnear (abs_nonneg _))

theorem Coarsest.coefficient_mod_ten {v : Magnitude} {d : Decimal} (hv : v.units ≠ 0)
    (h : v.Coarsest (v.order + 1) d) : d.coefficient % 10 ≠ 0 := by
  intro hzero
  rcases Int.lt_or_eq_of_le h.le with hlt | heq
  · exact h.not_hits _ (Int.lt_succ _) hlt (hits_succ h.mem h.readsBack hzero)
  · -- above the leading digit nothing is left of the value, and zero is not read as it
    obtain ⟨-, hcoefficient⟩ := mem_neighbours_iff.1 h.mem
    have hcut : (v.onGrid d.exponent).1 / (v.onGrid d.exponent).2 = 0 := by
      rw [← Nat.floor_div_eq_div (K := ℚ), onGrid_eq, heq, Nat.floor_eq_zero,
        div_lt_one (by positivity)]
      exact (ten_zpow_order hv).2
    rw [hcut] at hcoefficient
    have hvalue : d.toRat = 0 := by
      rw [Decimal.toRat, show d.coefficient = 0 by omega, Nat.cast_zero, zero_mul]
    exact hv (toRat_eq_zero_iff.1 (toRat_eq_zero_of_readsBack h.readsBack hvalue))

def roundedTo (v : Magnitude) (grid : Int) : Decimal :=
  ⟨Tie.away.divide (v.onGrid grid).1 (v.onGrid grid).2, grid⟩

theorem roundedTo_mem_neighbours (v : Magnitude) (grid : Int) :
    v.roundedTo grid ∈ v.neighbours grid := List.mem_cons_self

theorem abs_roundedTo_sub_le (v : Magnitude) (grid : Int) :
    |(v.roundedTo grid).toRat - v.toRat| ≤ 10 ^ grid / 2 := by
  have hstep : (0 : ℚ) < 10 ^ grid := by positivity
  have h := Tie.away.abs_divide_sub_le (v.onGrid grid).1 (v.onGrid_pos grid)
  rw [onGrid_eq] at h
  rw [roundedTo, Decimal.toRat]
  generalize (Tie.away.divide _ _ : ℚ) = digits at *
  generalize (10 : ℚ) ^ grid = step at *
  have heq : digits * step - v.toRat = (digits - v.toRat / step) * step := by field_simp
  rw [heq, abs_mul, abs_of_pos hstep]
  linarith [mul_le_mul_of_nonneg_right h hstep.le]

theorem hits_seventeen {v : Magnitude} (hv : v.units ≠ 0) (horder : v.order < 308) :
    v.Hits (v.order - 16) := by
  obtain ⟨hlow, hhigh⟩ := ten_zpow_order hv
  have herror := v.abs_roundedTo_sub_le (v.order - 16)
  have hstep : (10 : ℚ) ^ (v.order - 16) = 10 ^ v.order / 10 ^ 16 := by
    rw [zpow_sub₀ (by norm_num)]
    norm_num
  have hpos : 0 < v.toRat := lt_of_lt_of_le (by positivity) hlow
  have htop : (10 : ℚ) ^ (v.order + 1) ≤ 10 ^ (6 : Int) * 10 ^ (302 : Int) := by
    rw [← zpow_add₀ (by norm_num)]
    exact zpow_le_zpow_right₀ (by norm_num) (by omega)
  obtain ⟨w, hw⟩ : ∃ w, (v.roundedTo (v.order - 16)).toMagnitude? = some w := by
    refine Decimal.exists_toMagnitude? (le_trans ?_ le_toRat_largest)
    have hupper := (abs_le.1 herror).2
    generalize (10 : ℚ) ^ (v.order + 1) = above at *
    generalize (10 : ℚ) ^ (302 : Int) = unit at *
    norm_num at htop hstep hupper ⊢
    linarith
  have hnear : |(v.roundedTo (v.order - 16)).toRat - v.toRat| < v.toRat / 2 ^ 54 := by
    norm_num at hstep herror ⊢
    linarith
  refine ⟨_, v.roundedTo_mem_neighbours _, readsBack_iff.2 ?_⟩
  rw [hw, Decimal.eq_of_toMagnitude?_of_near hw hnear]

/-- The shortest decimal is on the coarsest grid that has one. -/
theorem coarsest_shortest {v : Magnitude} (hv : v.units ≠ 0) (horder : v.order < 308) :
    v.Coarsest (v.order + 1) v.shortest := by
  have hlast : v.order + 1 - ((17 : Nat) : Int) = v.order - 16 := by omega
  rw [shortest, if_neg hv]
  refine coarsest_shortestFrom ⟨17, by decide, ?_⟩
  rw [hlast]
  exact hits_seventeen hv horder

end Magnitude

end Calculator
