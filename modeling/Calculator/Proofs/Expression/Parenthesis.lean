import Mathlib.Data.List.Infix
import Calculator.Proofs.Expression.Calls
import Calculator.Proofs.Expression.Constants

set_option autoImplicit false

namespace Calculator

/-- No part from the start on closes more parentheses than it opens, and the whole text
closes as many. -/
def Matched (cs : List Char) : Prop :=
  (∀ front, front <+: cs → front.count ')' ≤ front.count '(') ∧ cs.count ')' = cs.count '('

instance (cs : List Char) : Decidable (Matched cs) :=
  decidable_of_iff ((∀ front ∈ cs.inits, front.count ')' ≤ front.count '(') ∧
    cs.count ')' = cs.count '(') (by simp [Matched])

/-- Behind `opened` open parentheses a text closes none that is not open, and leaves
`left` of them open. -/
def Leaves (opened left : Nat) (cs : List Char) : Prop :=
  (∀ front, front <+: cs → front.count ')' ≤ opened + front.count '(') ∧
    left + cs.count ')' = opened + cs.count '('

theorem matched_iff {cs : List Char} : Matched cs ↔ Leaves 0 0 cs := by
  simp [Matched, Leaves]

namespace Leaves

variable {m n k : Nat} {cs ds : List Char}

theorem nil_iff : Leaves m n [] ↔ m = n := by
  simp [Leaves, eq_comm]

theorem cons_iff {c : Char} : Leaves m n (c :: cs) ↔
    ∃ k, k + [c].count ')' = m + [c].count '(' ∧ Leaves k n cs := by
  have hcount : ∀ (d : Char) (xs : List Char), (c :: xs).count d = [c].count d + xs.count d := by
    intro d xs
    rw [← List.singleton_append, List.count_append]
  constructor
  · rintro ⟨hfront, htotal⟩
    have hfirst := hfront [c] ⟨cs, rfl⟩
    rw [hcount '(' cs, hcount ')' cs] at htotal
    refine ⟨m + [c].count '(' - [c].count ')', by omega, fun front h => ?_, by omega⟩
    have := hfront (c :: front) (List.cons_prefix_cons.2 ⟨rfl, h⟩)
    rw [hcount '(' front, hcount ')' front] at this
    omega
  · rintro ⟨k, hk, hfront, htotal⟩
    refine ⟨fun front h => ?_, by rw [hcount '(' cs, hcount ')' cs]; omega⟩
    rcases List.prefix_cons_iff.1 h with rfl | ⟨tail, rfl, htail⟩
    · simp
    · have := hfront tail htail
      rw [hcount '(' tail, hcount ')' tail]
      omega

theorem opening_iff : Leaves m n ('(' :: cs) ↔ Leaves (m + 1) n cs := by
  simp [cons_iff]

theorem closing_iff : Leaves m n (')' :: cs) ↔ ∃ k, k + 1 = m ∧ Leaves k n cs := by
  simp [cons_iff]

theorem cons_iff_of_ne {c : Char} (ho : c ≠ '(') (hc : c ≠ ')') :
    Leaves m n (c :: cs) ↔ Leaves m n cs := by
  simp [cons_iff, ho, hc]

theorem append (hc : Leaves m k cs) (hd : Leaves k n ds) : Leaves m n (cs ++ ds) := by
  induction cs generalizing m with
  | nil => rwa [nil_iff.1 hc]
  | cons c cs ih =>
    obtain ⟨j, hj, hrest⟩ := cons_iff.1 hc
    exact cons_iff.2 ⟨j, hj, ih hrest⟩

theorem of_append (hc : Leaves m k cs) (h : Leaves m n (cs ++ ds)) : Leaves k n ds := by
  induction cs generalizing m with
  | nil => rwa [← nil_iff.1 hc]
  | cons c cs ih =>
    obtain ⟨j, hj, hrest⟩ := cons_iff.1 hc
    obtain ⟨j', hj', htail⟩ := cons_iff.1 h
    obtain rfl : j' = j := by omega
    exact ih hrest htail

theorem of_forall_ne (h : ∀ c ∈ cs, c ≠ '(' ∧ c ≠ ')') : Leaves n n cs := by
  induction cs with
  | nil => exact nil_iff.2 rfl
  | cons c cs ih =>
    obtain ⟨ho, hc⟩ := h c (by simp)
    exact (cons_iff_of_ne ho hc).2 (ih fun d hd => h d (by simp [hd]))

theorem group (h : Leaves (n + 1) (n + 1) cs) : Leaves n n ('(' :: cs ++ [')']) :=
  opening_iff.2 (h.append (closing_iff.2 ⟨n, rfl, nil_iff.2 rfl⟩))

end Leaves

theorem Matched.leaves {cs : List Char} (h : Matched cs) (n : Nat) : Leaves n n cs := by
  obtain ⟨hfront, htotal⟩ := h
  refine ⟨fun front hprefix => ?_, by omega⟩
  have := hfront front hprefix
  omega

namespace Calls

/-- The parenthesis that closes is looked for behind a text with the parentheses that it
leaves open. -/
theorem closing?_append {m n : Nat} {cs : List Char} (h : Leaves m n cs) (depth : Nat)
    (rest : List Char) : closing? (depth + m) (cs ++ rest) =
      (closing? (depth + n) rest).map fun (inside, after) => (cs ++ inside, after) := by
  induction cs generalizing m with
  | nil => simp [Leaves.nil_iff.1 h]
  | cons c cs ih =>
    by_cases ho : c = '('
    · subst ho
      rw [List.cons_append, closing?_opening, Nat.add_assoc, ih (Leaves.opening_iff.1 h),
        Option.map_map]
      rfl
    · by_cases hc : c = ')'
      · subst hc
        obtain ⟨k, rfl, hk⟩ := Leaves.closing_iff.1 h
        rw [List.cons_append, ← Nat.add_assoc, closing?_closing, ih hk, Option.map_map]
        rfl
      · rw [List.cons_append, closing?_of_ne ho hc, ih ((Leaves.cons_iff_of_ne ho hc).1 h),
          Option.map_map]
        rfl

theorem balanced_of_matched {cs : List Char} (h : Matched cs) : Balanced cs :=
  closing?_append (matched_iff.1 h)

theorem closing?_matched {cs : List Char} (h : Matched cs) (rest : List Char) :
    closing? 0 (cs ++ ')' :: rest) = some (cs, rest) := by
  rw [balanced_of_matched h 0, closing?.eq_def]
  simp

theorem leaves_of_closing? {depth : Nat} {cs inside after : List Char}
    (h : closing? depth cs = some (inside, after)) : Leaves depth 0 inside := by
  induction cs generalizing depth inside with
  | nil => cases h
  | cons c cs ih =>
    by_cases ho : c = '('
    · subst ho
      rw [closing?_opening] at h
      obtain ⟨⟨inside, _⟩, hparts, heq⟩ := Option.map_eq_some_iff.1 h
      cases heq
      exact Leaves.opening_iff.2 (ih hparts)
    · by_cases hc : c = ')'
      · subst hc
        cases depth with
        | zero =>
          rw [closing?.eq_def] at h
          cases h
          exact Leaves.nil_iff.2 rfl
        | succ depth =>
          rw [closing?_closing] at h
          obtain ⟨⟨inside, _⟩, hparts, heq⟩ := Option.map_eq_some_iff.1 h
          cases heq
          exact Leaves.closing_iff.2 ⟨depth, rfl, ih hparts⟩
      · rw [closing?_of_ne ho hc] at h
        obtain ⟨⟨inside, _⟩, hparts, heq⟩ := Option.map_eq_some_iff.1 h
        cases heq
        exact (Leaves.cons_iff_of_ne ho hc).2 (ih hparts)

theorem matched_of_balanced {cs : List Char} (h : Balanced cs) : Matched cs := by
  have hclosing : closing? 0 (cs ++ [')']) = some (cs ++ [], []) := by
    rw [h 0, closing?.eq_def]
    rfl
  rw [List.append_nil] at hclosing
  exact matched_iff.2 (leaves_of_closing? hclosing)

/-- A text inside `n` calls of one function. -/
def nested (f : Elementary) (cs : List Char) : Nat → List Char
  | 0 => cs
  | n + 1 => f.name ++ '(' :: nested f cs n ++ [')']

theorem matched_nested (f : Elementary) {cs : List Char} (h : Matched cs) (n : Nat) :
    Matched (nested f cs n) := by
  induction n with
  | zero => exact h
  | succ n ih =>
    have hcall := matched_of_balanced ((balanced_name f).append (balanced_of_matched ih).group)
    rwa [← List.append_assoc] at hcall

/-- A text in which nothing closes the innermost of `depth + 1` open parentheses and all of
them closes no more than it opens and the other `depth`, up to any place. -/
theorem count_le_of_closing?_eq_none {depth : Nat} {cs : List Char} (h : closing? depth cs = none)
    {front : List Char} (hfront : front <+: cs) :
    front.count ')' ≤ depth + front.count '(' := by
  induction cs generalizing depth front with
  | nil => simp [List.prefix_nil.1 hfront]
  | cons c cs ih =>
    rcases List.prefix_cons_iff.1 hfront with rfl | ⟨tail, rfl, htail⟩
    · simp
    by_cases ho : c = '('
    · subst ho
      rw [closing?_opening, Option.map_eq_none_iff] at h
      have hle := ih h htail
      rw [List.count_cons_of_ne (by decide), List.count_cons_self]
      omega
    · by_cases hc : c = ')'
      · subst hc
        cases depth with
        | zero =>
          rw [closing?.eq_def] at h
          cases h
        | succ depth =>
          rw [closing?_closing, Option.map_eq_none_iff] at h
          have hle := ih h htail
          rw [List.count_cons_self, List.count_cons_of_ne ho]
          omega
      · rw [closing?_of_ne ho hc, Option.map_eq_none_iff] at h
        rw [List.count_cons_of_ne hc, List.count_cons_of_ne ho]
        exact ih h htail

theorem exists_closing? {depth n : Nat} {cs : List Char} (h : Leaves (depth + 1 + n) 0 cs) :
    ∃ inside after, closing? depth cs = some (inside, after) := by
  cases hclosing : closing? depth cs with
  | none =>
    have hle := count_le_of_closing?_eq_none hclosing (List.prefix_refl cs)
    have htotal := h.2
    omega
  | some parts => exact ⟨parts.1, parts.2, rfl⟩

end Calls

namespace Constants

theorem leaves_pi (n : Nat) : Leaves n n pi := by
  have hdigits : Leaves (n + 1) (n + 1) "3.141592653589793".toList := .of_forall_ne (by simp)
  exact hdigits.group

theorem leaves_euler (n : Nat) : Leaves n n euler := by
  have hdigits : Leaves (n + 1) (n + 1) "2.718281828459045".toList := .of_forall_ne (by simp)
  exact hdigits.group

theorem leaves_expandAfter {m n : Nat} {cs : List Char} (h : Leaves m n cs)
    (previous : Option Char) : Leaves m n (expandAfter previous cs) := by
  induction cs generalizing m previous with
  | nil => exact h
  | cons c cs ih =>
    obtain ⟨k, hk, hrest⟩ := Leaves.cons_iff.1 h
    refine .append ?_ (ih hrest (some c))
    split
    · subst c
      obtain rfl : k = m := by simpa using hk
      exact leaves_pi k
    · split
      · rename_i hconstant
        obtain rfl : k = m := by simpa [hconstant.1] using hk
        exact leaves_euler k
      · exact Leaves.cons_iff.2 ⟨k, hk, Leaves.nil_iff.2 rfl⟩

theorem matched_expand {cs : List Char} (h : Matched cs) : Matched (expand cs) :=
  matched_iff.2 (leaves_expandAfter (matched_iff.1 h) none)

end Constants
end Calculator
