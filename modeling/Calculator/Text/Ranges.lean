set_option autoImplicit false

namespace Calculator

/-- Whether `n` lies in one of the ranges, which rise and do not overlap. -/
def inRanges (n : Nat) : List (Nat × Nat) → Bool
  | [] => false
  | (lo, hi) :: rest => if n < lo then false else n ≤ hi || inRanges n rest

theorem inRanges_of_lt {n lo hi : Nat} (rest : List (Nat × Nat)) (h : n < lo) :
    inRanges n ((lo, hi) :: rest) = false := by
  simp [inRanges, h]

theorem exists_of_inRanges {n : Nat} {ranges : List (Nat × Nat)} (h : inRanges n ranges = true) :
    ∃ r ∈ ranges, r.1 ≤ n ∧ n ≤ r.2 := by
  induction ranges with
  | nil => cases h
  | cons r ranges ih =>
    rw [inRanges] at h
    split at h
    · cases h
    · rcases Bool.or_eq_true_iff.1 h with hle | hrest
      · exact ⟨r, by simp, by omega, of_decide_eq_true hle⟩
      · obtain ⟨r', hmem, hr'⟩ := ih hrest
        exact ⟨r', by simp [hmem], hr'⟩

end Calculator
