import Calculator.ReversePolish

set_option autoImplicit false

namespace Calculator

namespace ReversePolish

/-- An incoming operator takes others off the stack, from above a parenthesis only. -/
theorem exists_release (b : Binding) (stack : List Symbol) :
    ∃ popped, .opening ∉ popped ∧ stack = popped ++ (release b stack).2 ∧
      (release b stack).1 = popped.map .symbol := by
  induction stack with
  | nil => exact ⟨[], by simp [release]⟩
  | cons s stack ih =>
    simp only [release]
    split
    · exact ⟨[], by simp⟩
    · rename_i waiting hs
      split
      · obtain ⟨popped, hopening, hstack, hout⟩ := ih
        have hne : Symbol.opening ≠ s := by
          rintro rfl
          cases hs
        exact ⟨s :: popped, by simp [hne, hopening], by simp [← hstack], by simp [hout]⟩
      · exact ⟨[], by simp⟩

theorem releaseToOpening_cons_of_ne {s : Symbol} (hs : s ≠ .opening) (stack : List Symbol) :
    releaseToOpening (s :: stack) =
      (releaseToOpening stack).map fun (out, left) => (.symbol s :: out, left) := by
  cases s <;> first | rfl | exact absurd rfl hs

theorem releaseAll_cons_of_ne {s : Symbol} (hs : s ≠ .opening) (stack : List Symbol) :
    releaseAll (s :: stack) = releaseAll stack >>= fun out => pure (.symbol s :: out) := by
  cases s <;> first | rfl | exact absurd rfl hs

theorem releaseToOpening_append {popped : List Symbol} (h : .opening ∉ popped)
    (left : List Symbol) :
    releaseToOpening (popped ++ .opening :: left) = some (popped.map .symbol, left) := by
  induction popped with
  | nil => rfl
  | cons s popped ih =>
    obtain ⟨hs, hpopped⟩ := List.ne_and_not_mem_of_not_mem_cons h
    rw [List.cons_append, releaseToOpening_cons_of_ne hs.symm, ih hpopped]
    rfl

theorem releaseToOpening_of_not_mem {stack : List Symbol} (h : .opening ∉ stack) :
    releaseToOpening stack = none := by
  induction stack with
  | nil => rfl
  | cons s stack ih =>
    obtain ⟨hs, hstack⟩ := List.ne_and_not_mem_of_not_mem_cons h
    rw [releaseToOpening_cons_of_ne hs.symm, ih hstack]
    rfl

theorem releaseAll_eq_ok_iff {stack : List Symbol} {out : List Token} :
    releaseAll stack = .ok out ↔ .opening ∉ stack ∧ out = stack.map .symbol := by
  induction stack generalizing out with
  | nil => simp [releaseAll, eq_comm]
  | cons s stack ih =>
    by_cases hs : s = .opening
    · simp [hs, releaseAll]
    · rw [releaseAll_cons_of_ne hs, Fault.bind_eq_ok]
      constructor
      · rintro ⟨rest, hrest, hout⟩
        cases hout
        obtain ⟨hopening, rfl⟩ := ih.1 hrest
        exact ⟨List.not_mem_cons_of_ne_of_not_mem (Ne.symm hs) hopening, rfl⟩
      · rintro ⟨hopening, rfl⟩
        exact ⟨_, ih.2 ⟨(List.ne_and_not_mem_of_not_mem_cons hopening).2, rfl⟩, rfl⟩

end ReversePolish

end Calculator
