import Calculator.Evaluate
import Calculator.Proofs.Expression.Boundary

/-! The argument of a call. It is cut out of the text and worked out one call deeper, and
its value is written and read again. Main statement: the value of a call is the function
at the value that its argument has alone, with the fault of the argument if there is
one, as long as the calls in it leave room for one more. -/

set_option autoImplicit false

namespace Calculator

/-- Whether a text has `n` calls inside one another. A name starts behind a character
that is no letter. -/
inductive Nests : Nat → List Char → Prop
  | zero (cs : List Char) : Nests 0 cs
  | call {n : Nat} {before inside behind : List Char} (h : Heading)
    (hbefore : before.getLast?.any Char.isAlpha = false) (hmatched : Matched inside)
    (hinside : Nests n inside) : Nests (n + 1) (before ++ (h.text ++ (inside ++ ')' :: behind)))

theorem Nests.le_count {n : Nat} {cs : List Char} (h : Nests n cs) : n ≤ cs.count '(' := by
  induction h with
  | zero cs => exact Nat.zero_le _
  | call h hbefore hmatched hinside ih =>
    simp only [Heading.text, List.count_append, List.count_cons_self, List.count_nil]
    omega

namespace Calls

/-- A text whose calls leave room for one more is the same one call deeper. The calls
still to come are those of the text behind `before`. -/
theorem expandAfter_succ {A : Arithmetic} {depth : Nat} {previous : Option Char}
    {cs before : List Char} {n m : Nat} (hleaves : Leaves m 0 cs)
    (hname : before.getLast?.any Char.isAlpha = false ∨ cs.head?.any Char.isAlpha = false)
    (hnests : ¬Nests (n + 1) (before ++ cs)) (hdepth : depth + 1 + n ≤ Fault.maxCallDepth) :
    expandAfter A (depth + 1) previous cs = expandAfter A depth previous cs := by
  induction depth, previous, cs using text_induction generalizing n m before with
  | done depth previous => rw [expandAfter, expandAfter]
  | copy depth previous c after hc ih =>
    obtain ⟨k, _, hafter⟩ := Leaves.cons_iff.1 hleaves
    have hname' : (before ++ [c]).getLast?.any Char.isAlpha = false ∨
        after.head?.any Char.isAlpha = false := by
      rcases hc with hc | hmark
      · simp [hc]
      · refine .inr ?_
        simp only [marksExponent, Bool.and_eq_true] at hmark
        cases after with
        | nil => rfl
        | cons d after => exact not_isAlpha_of_startsExponent hmark.2
    have hnests' : ¬Nests (n + 1) (before ++ [c] ++ after) := by
      rwa [List.append_assoc, List.singleton_append]
    rw [expandAfter_copy hc, expandAfter_copy hc, ih hafter hname' hnests' hdepth]
  | call depth previous c after halpha hmark ih =>
    have hbefore : before.getLast?.any Char.isAlpha = false := by
      rcases hname with hname | hname
      · exact hname
      · have hc : c.isAlpha = false := hname
        rw [hc] at halpha
        cases halpha
    -- Every call is closed in the text, so only its name can be at fault.
    rcases callee_error_or hleaves with ⟨f, hcallee⟩ | ⟨h, inside, behind, hinside, htext⟩
    · rw [expandAfter_splitCall halpha hmark, expandAfter_splitCall halpha hmark, splitCall,
        splitCall, hcallee]
      rfl
    · rw [htext] at hnests ih hleaves ⊢
      cases n with
      | zero => exact absurd (.call h hbefore hinside (.zero inside)) hnests
      | succ n =>
        -- The argument nests one call less and lies one deeper: the sum stays.
        have hsplit : splitCall depth _ = _ := splitCall_text h (by omega) hinside behind
        obtain ⟨hargument, hrest⟩ := ih _ _ _ hsplit
        have hbehind := leaves_splitCall hsplit hleaves
        have hinside' : ¬Nests (n + 1) ([] ++ inside) := fun hn =>
          hnests (.call h hbefore hinside hn)
        have hbehind' : ¬Nests (n + 1 + 1) (before ++ h.text ++ inside ++ [')'] ++ behind) := by
          simpa using hnests
        have hsame := hrest hbehind (.inl (by simp)) hbehind' hdepth
        rw [expandAfter_parenthesis, expandAfter_parenthesis] at hsame
        rw [expandAfter_heading A (by omega) previous h hinside,
          expandAfter_heading A (by omega) previous h hinside, callValue, callValue,
          hargument (hinside.leaves 0) (.inl rfl) hinside' (by omega), hsame]

end Calls

theorem infixValue_parenthesized {A : Arithmetic} (hA : A.negate = Number.neg) {x : Number}
    (hx : x.isFinite = true) : infixValue A ('(' :: x.text ++ [')']) = .ok x := by
  let p : Phrase Literal Empty .expression := .ofAtom (.group x.phrase)
  have hspell : p.spell .plain = '(' :: x.text ++ [')'] := by
    rw [← Number.spell_phrase hx]
    rfl
  rw [← hspell, infixValue_spell]
  exact Number.value_phrase hA hx

theorem readBack_callValue {A : Arithmetic} (hA : A.negate = Number.neg) (depth : Nat)
    (f : Elementary) (argument : List Char) :
    (Calls.callValue A depth f argument >>= fun value =>
      infixValue A ('(' :: value.text ++ [')']) >>= finite) =
      Calls.callValue A depth f argument := by
  cases hvalue : Calls.callValue A depth f argument with
  | error g => rfl
  | ok value =>
    have hfinite := Calls.isFinite_of_callValue hvalue
    rw [Fault.ok_bind, infixValue_parenthesized hA hfinite]
    exact finite_eq_ok_iff.2 ⟨rfl, hfinite⟩

theorem applyNamed_name (A : Arithmetic) (f : Elementary) (x : Number) :
    applyNamed A f.name x = f.apply A x := by
  have hf : Function.ofName? f.name = some (.elementary f) := Function.ofName?_name (.elementary f)
  rw [applyNamed, hf]
  rfl

/-- The value of a call is the function at the value of its argument, and a fault of the
argument is the fault of the call. The calls are those of the argument with its constants
written out, for the parenthesis of a constant may open one, as in `sinπ`. -/
theorem evaluateWith_call (combine : Operator → Number → Number → Number)
    (elementary : Elementary → Number → Number) (f : Elementary) {argument : List Char}
    (hargument : Matched argument) (hnests : ¬Nests 64 (Constants.expand argument)) :
    let A : Arithmetic := ⟨Number.neg, combine, elementary⟩
    evaluateWith A (f.name ++ '(' :: argument ++ [')']) = (do
      let expanded ← Calls.expand A (Constants.expand argument)
      let x ← infixValue A expanded
      applyNamed A f.name x) := by
  intro A
  have hmatched := Constants.matched_expand hargument
  have hwhole : ¬Nests 64 ([] ++ Constants.expand argument) := hnests
  have hdepth : Calls.expandAfter A 1 none (Constants.expand argument) =
      Calls.expandAfter A 0 none (Constants.expand argument) :=
    Calls.expandAfter_succ (matched_iff.1 hmatched) (.inl rfl) hwhole le_rfl
  have hconstants : Constants.expand (f.name ++ '(' :: argument ++ [')']) =
      f.heading.text ++ (Constants.expand argument ++ ')' :: []) := by
    rw [f.call_eq, Constants.expand, Constants.expandAfter_call]
    rfl
  have hempty : Calls.expandAfter A 0 none [] = .ok [] := by rw [Calls.expandAfter]
  calc evaluateWith A (f.name ++ '(' :: argument ++ [')'])
    _ = Calls.callValue A 1 f (Constants.expand argument) >>= fun value =>
        infixValue A ('(' :: value.text ++ [')']) >>= finite := by
      rw [evaluateWith, hconstants, Calls.expand,
        Calls.expandAfter_heading A (by decide) none f.heading hmatched, hempty, bind_assoc]
      rfl
    _ = Calls.callValue A 1 f (Constants.expand argument) := readBack_callValue rfl 1 f _
    _ = _ := by
      simp only [Calls.callValue, hdepth, Calls.expand, applyNamed_name]

theorem evaluateWith_call_unexpected :
    evaluateWith ⟨Number.neg, fun _ x _ => x, fun _ x => x⟩ "ln(sqrt(2)$π)".toList =
      .error (.unexpectedCharacter '$') := by
  have hargument : Matched "sqrt(2)$π".toList := by decide
  have hnests : ¬Nests 64 (Constants.expand "sqrt(2)$π".toList) := fun h =>
    absurd h.le_count (by decide +kernel)
  have h := evaluateWith_call (fun _ x _ => x) (fun _ x => x) .ln hargument hnests
  have hexpanded : Calls.expand ⟨Number.neg, fun _ x _ => x, fun _ x => x⟩
      (Constants.expand "sqrt(2)$π".toList) = .ok "(2)$(3.141592653589793)".toList :=
    eq_ok_of_toOption (by decide +kernel)
  have hvalue : infixValue ⟨Number.neg, fun _ x _ => x, fun _ x => x⟩
      "(2)$(3.141592653589793)".toList = .error (.unexpectedCharacter '$') := by
    decide +kernel
  refine h.trans ?_
  rw [hexpanded, Fault.ok_bind, hvalue, Fault.error_bind]

/-- Roots around one that gets its parenthesis from a constant. -/
def rootsOver (n : Nat) : List Char := Calls.nested .sqrt "0×sqrtπ".toList n

/-- Sixty-three calls leave no room for one more around them, if a constant among them makes
another: the value that the argument has alone is not that of the call. -/
theorem evaluate_call_rootsOver :
    Matched (rootsOver 63) ∧ ¬Nests 64 (rootsOver 63) ∧
      evaluate (Elementary.sqrt.name ++ '(' :: rootsOver 63 ++ [')']) = .error .callsTooDeep ∧
      (do
        let expanded ← Calls.expand .double (Constants.expand (rootsOver 63))
        let x ← infixValue .double expanded
        applyNamed .double Elementary.sqrt.name x) = .ok .zero := by
  have hcount : (rootsOver 63).count '(' = 63 := by decide +kernel
  have hnests : ¬Nests 64 (rootsOver 63) := fun h => by
    have hle := h.le_count
    omega
  refine ⟨Calls.matched_nested .sqrt (by decide) 63, hnests, ?_, ?_⟩
  · decide +kernel
  · exact eq_ok_of_toOption (by decide +kernel)

end Calculator
