import Mathlib.Order.Bounds.Basic
import Calculator.Proofs.Cursor.Calls
import Calculator.Proofs.Expression.Boundary

/-! Where an open parenthesis is closed. The count of open ones finds the place, and the
numbers of both parentheses from the one to the other fix it without a count. Main statement:
it is the first place up to which as many are closed as opened, what lies between the two
matches, and just that is the argument of a call that opens there. -/

set_option autoImplicit false

namespace Calculator

namespace Cursor

/-- From position `i` up to the position `j` behind it, that one included, as many parentheses
are closed as opened. -/
def Evens (cs : List Char) (i j : Nat) : Prop :=
  i < j ∧ j < cs.length ∧ (cs.extract i (j + 1)).count ')' = (cs.extract i (j + 1)).count '('

section

variable {cs rest : List Char} {i : Nat}

theorem evens_iff (h : cs.drop i = '(' :: rest) (j : Nat) :
    Evens cs i j ↔ ∃ n, j = i + 1 + n ∧ n < rest.length ∧
      (rest.take (n + 1)).count ')' = (rest.take (n + 1)).count '(' + 1 := by
  have hlength := congrArg List.length h
  rw [List.length_drop, List.length_cons] at hlength
  have hcounts : ∀ n, (cs.extract i (i + 1 + n + 1)).count ')' = (rest.take (n + 1)).count ')' ∧
      (cs.extract i (i + 1 + n + 1)).count '(' = (rest.take (n + 1)).count '(' + 1 := by
    intro n
    have hlast : i + 1 + n + 1 - i = n + 1 + 1 := by omega
    rw [List.extract, h, hlast, List.take_succ_cons]
    exact ⟨List.count_cons_of_ne (by decide), List.count_cons_self⟩
  constructor
  · rintro ⟨hlt, hlast, heven⟩
    obtain ⟨n, rfl⟩ : ∃ n, j = i + 1 + n := ⟨j - (i + 1), by omega⟩
    rw [(hcounts n).1, (hcounts n).2] at heven
    exact ⟨n, rfl, by omega, heven⟩
  · rintro ⟨n, rfl, hlast, heven⟩
    refine ⟨by omega, by omega, ?_⟩
    rw [(hcounts n).1, (hcounts n).2, heven]

theorem isLeast_evens (h : cs.drop i = '(' :: rest) {inside behind : List Char}
    (hclosing : Calls.closing? 0 rest = some (inside, behind)) :
    IsLeast {j | Evens cs i j} (i + 1 + inside.length) := by
  have hmatched : Matched inside := matched_iff.2 (Calls.leaves_of_closing? hclosing)
  obtain rfl := Calls.closing?_eq hclosing
  constructor
  · refine (evens_iff h _).2 ⟨inside.length, rfl, by simp, ?_⟩
    rw [List.take_length_add_append]
    simp [hmatched.2]
  · intro j hj
    obtain ⟨n, rfl, _, heven⟩ := (evens_iff h j).1 hj
    -- Before that place every front is a front of what lies between the parentheses.
    by_contra hlt
    have hfront : (inside ++ ')' :: behind).take (n + 1) <+: inside := by
      rw [List.take_append_of_le_length (by omega)]
      exact List.take_prefix _ _
    have hle := hmatched.1 _ hfront
    omega

theorem not_evens (h : cs.drop i = '(' :: rest) (hclosing : Calls.closing? 0 rest = none)
    (j : Nat) : ¬Evens cs i j := by
  intro hj
  obtain ⟨n, rfl, _, heven⟩ := (evens_iff h j).1 hj
  have hle := Calls.count_le_of_closing?_eq_none hclosing (List.take_prefix (n + 1) rest)
  omega

theorem closingFrom_eq_some_iff (h : cs.drop i = '(' :: rest) (j : Nat) :
    closingFrom cs 0 i = .ok (some j) ↔ IsLeast {j | Evens cs i j} j := by
  rw [closingFrom_opening h]
  cases hclosing : Calls.closing? 0 rest with
  | none =>
    refine iff_of_false (fun heq => nomatch heq) fun hleast => ?_
    exact not_evens h hclosing j hleast.1
  | some parts =>
    have hleast := isLeast_evens h hclosing
    constructor
    · intro heq
      cases heq
      exact hleast
    · intro hj
      rw [hj.unique hleast]
      rfl

theorem closingFrom_eq_none_iff (h : cs.drop i = '(' :: rest) :
    closingFrom cs 0 i = .ok none ↔ ∀ j, ¬Evens cs i j := by
  rw [closingFrom_opening h]
  cases hclosing : Calls.closing? 0 rest with
  | none => exact iff_of_true rfl (not_evens h hclosing)
  | some parts =>
    refine iff_of_false (fun heq => nomatch heq) fun hnone => ?_
    exact hnone _ (isLeast_evens h hclosing).1

theorem drop_of_closingFrom (h : cs.drop i = '(' :: rest) {j : Nat}
    (hj : closingFrom cs 0 i = .ok (some j)) :
    Matched (cs.extract (i + 1) j) ∧
      cs.drop (i + 1) = cs.extract (i + 1) j ++ ')' :: cs.drop (j + 1) ∧ cs[j]? = some ')' := by
  rw [closingFrom_opening h] at hj
  obtain ⟨⟨inside, behind⟩, hclosing, heq⟩ := Option.map_eq_some_iff.1 (Except.ok.inj hj)
  subst heq
  have hdrop : cs.drop (i + 1) = inside ++ ')' :: behind := by
    rw [drop_succ_of_drop h, Calls.closing?_eq hclosing]
  have hinside : cs.extract (i + 1) (i + 1 + inside.length) = inside := by
    rw [List.extract, hdrop, Nat.add_sub_cancel_left, List.take_left]
  have hclosed := drop_of_drop_append hdrop
  dsimp only
  rw [hinside, drop_succ_of_drop hclosed]
  exact ⟨matched_iff.2 (Calls.leaves_of_closing? hclosing), hdrop, getElem?_of_drop hclosed⟩

end

/-- The count from an opening parenthesis on, which cuts the text behind it, finds the first
place up to which as many are closed as opened, and nothing if there is none. A closing
parenthesis stands there, what lies between the two matches, and it is the argument of a call
whose name stands before the first, whatever is before the name and behind the second. -/
theorem closingFrom_isLeast {cs : List Char} {i : Nat} (h : cs[i]? = some '(') :
    closingFrom cs 0 i =
        .ok ((Calls.closing? 0 (cs.drop (i + 1))).map (i + 1 + ·.1.length)) ∧
      (∀ j, closingFrom cs 0 i = .ok (some j) ↔ IsLeast {j | Evens cs i j} j) ∧
      (closingFrom cs 0 i = .ok none ↔ ∀ j, ¬Evens cs i j) ∧
      ∀ j, closingFrom cs 0 i = .ok (some j) →
        cs[j]? = some ')' ∧ Matched (cs.extract (i + 1) j) ∧
        ∀ (A : Arithmetic) (depth start : Nat) (previous : Option Char) (heading : Heading),
          depth < Fault.maxCallDepth → cs.drop start = heading.text ++ cs.drop (i + 1) →
          Calls.expandAfter A depth previous (cs.drop start) =
            Calls.callValue A (depth + 1) heading.function (cs.extract (i + 1) j) >>= fun value =>
              (Calls.expandAfter A depth (some ')') (cs.drop (j + 1))).map
                ('(' :: value.text ++ ')' :: ·) := by
  obtain ⟨hi, hopening⟩ := List.getElem?_eq_some_iff.1 h
  have hdrop : cs.drop i = '(' :: cs.drop (i + 1) := by rw [drop_of_lt hi, hopening]
  refine ⟨closingFrom_opening hdrop, closingFrom_eq_some_iff hdrop,
    closingFrom_eq_none_iff hdrop, fun j hj => ?_⟩
  obtain ⟨hmatched, hbehind, hclosed⟩ := drop_of_closingFrom hdrop hj
  refine ⟨hclosed, hmatched, fun A depth start previous heading hdepth hstart => ?_⟩
  rw [hstart, hbehind, Calls.expandAfter_heading A hdepth previous heading hmatched,
    Calls.expandAfter_parenthesis]

/-- A root with parentheses in its argument, around the call and behind it. -/
def rootInside : List Char := "(1+sqrt(2×(3-1)))÷(4)".toList

theorem closingFrom_isLeast_rootInside :
    rootInside[7]? = some '(' ∧ IsLeast {j | Evens rootInside 7 j} 15 ∧
      Calls.expandAfter .double 0 (some '+') (rootInside.drop 3) =
        Calls.callValue .double 1 .sqrt "2×(3-1)".toList >>= fun value =>
          (Calls.expandAfter .double 0 (some ')') ")÷(4)".toList).map
            ('(' :: value.text ++ ')' :: ·) := by
  have hopening : rootInside[7]? = some '(' := rfl
  have hdrop : rootInside.drop 7 = '(' :: "2×(3-1)))÷(4)".toList := rfl
  have hfound : closingFrom rootInside 0 7 = .ok (some 15) := closingFrom_opening hdrop
  obtain ⟨_, hsome, _, hbetween⟩ := closingFrom_isLeast hopening
  obtain ⟨_, _, hargument⟩ := hbetween 15 hfound
  refine ⟨hopening, (hsome 15).1 hfound, ?_⟩
  exact hargument .double 0 3 (some '+') Elementary.sqrt.heading (by decide) rfl

end Cursor

end Calculator
