import Calculator.Proofs.Window.Delegation

/-! A refused calculation loses nothing. The result key, a function of the total and two of
the memory keys ask for a value, and the value may be refused at any stage. Main statement:
a refusal shows the error for two seconds and leaves everything else, a value is written to
the fields of its operation only, nothing else sets the deadline of an error, and a button
or a key that asks in a frame of the window does the same. -/

set_option autoImplicit false

namespace Calculator

namespace State

variable {now : Number} {s : State} {a : Action}

theorem perform_of_refused {f : Fault} (h : a.inquiry? s = some (.error f)) (now : Number) :
    a.perform now s =
      { s with result := "Error".toList, errorUntil := some (now.add (.ofNat 2)) } :=
  perform_of_inquiry h now

theorem perform_of_answered {x : Number} (h : a.inquiry? s = some (.ok x)) (now : Number) :
    a.perform now s = a.answered x s :=
  perform_of_inquiry h now

theorem Effect.errorUntil_of_not_refused {t : State} (h : s.Effect now a t)
    (hasked : ∀ f, a.inquiry? s ≠ some (.error f)) :
    t.errorUntil = s.errorUntil ∨ t.errorUntil = none := by
  cases h with
  | quiet hresult herror hcopied => exact .inl herror
  | refused h => exact absurd h (hasked _)
  | calculated h => exact .inr rfl
  | cleared => exact .inr rfl
  | copied => exact .inl rfl
  | ticked =>
    rw [tick_eq]
    exact (ite_eq_or_eq _ _ _).symm

theorem update_eq_perform {e : Event} {op : Operation} (h : e.operations s = [op])
    (now : Number) : s.update now (some e) = op.perform now (s.tick now) := by
  rw [update_eq_foldl, Frame.operations, Option.elim_some, h]
  rfl

theorem update_of_refused {e : Event} {op : Operation} {f : Fault}
    (hevent : e.operations s = [op])
    (h : Action.inquiry? (s.tick now) (.operation op) = some (.error f)) :
    s.update now (some e) =
      { s with
        result := "Error".toList
        errorUntil := some (now.add (.ofNat 2))
        copiedUntil := remaining now s.copiedUntil } := by
  have hrefused : op.perform now (s.tick now) = (s.tick now).showError now :=
    perform_of_refused h now
  rw [update_eq_perform hevent, hrefused, tick_eq]
  rfl

/-- An action that is refused a value shows an error for two seconds and changes nothing
else, and one that gets its value writes its own fields. No other action sets the deadline
of an error. In the window a button or a key acts in the same way, when the deadlines that
have passed are gone. -/
theorem refused_keeps (now : Number) (s : State) (a : Action) :
    (∀ f, a.inquiry? s = some (.error f) →
      a.perform now s =
        { s with result := "Error".toList, errorUntil := some (now.add (.ofNat 2)) }) ∧
      (∀ x, a.inquiry? s = some (.ok x) → a.perform now s = a.answered x s) ∧
      ((∀ f, a.inquiry? s ≠ some (.error f)) →
        (a.perform now s).errorUntil = s.errorUntil ∨ (a.perform now s).errorUntil = none) ∧
      ∀ (e : Event) (op : Operation), e.operations s = [op] →
        (∀ f, Action.inquiry? (s.tick now) (.operation op) = some (.error f) →
          s.update now (some e) =
            { s with
              result := "Error".toList
              errorUntil := some (now.add (.ofNat 2))
              copiedUntil := remaining now s.copiedUntil }) ∧
          ∀ x, Action.inquiry? (s.tick now) (.operation op) = some (.ok x) →
            s.update now (some e) = Action.answered x (s.tick now) (.operation op) := by
  refine ⟨fun f h => perform_of_refused h now, fun x h => perform_of_answered h now,
    (effect_perform now s a).errorUntil_of_not_refused, fun e op hevent => ⟨?_, ?_⟩⟩
  · exact fun f h => update_of_refused hevent h
  · intro x h
    have hanswered : op.perform now (s.tick now) = _ := perform_of_answered h now
    rw [update_eq_perform hevent, hanswered]

def busy (expression : List Char) : State where
  expression := expression
  result := "Error".toList
  lastValue := .ofNat 14
  errorUntil := some (.ofNat 4)
  memory := .ofNat 7
  history := [⟨"2×7".toList, "14".toList⟩]
  preferences := ⟨.light, .scientific, false⟩
  historyOpen := true
  clearArmed := true
  copiedUntil := some (.ofNat 4)

/-- At three seconds the result key is refused the quotient, by the key `Enter` too, and the
factorial its argument, which the memory takes. -/
theorem refused_keeps_busy :
    let errorAt (s : State) : State :=
      { s with result := "Error".toList, errorUntil := some ((Number.ofNat 3).add (.ofNat 2)) }
    let quotient := busy "1÷0".toList
    let negative := busy "1-3".toList
    Action.perform (.ofNat 3) quotient (.operation (.press .equals)) = errorAt quotient ∧
      quotient.update (.ofNat 3) (some (.key (some .equals))) = errorAt quotient ∧
      Action.perform (.ofNat 3) negative (.operation (.press (.function .factorial))) =
        errorAt negative ∧
      Action.perform (.ofNat 3) negative (.operation (.memory .add)) =
        { negative with memory := negative.memory.add (Number.ofNat 2).neg } := by
  intro errorAt quotient negative
  obtain ⟨hquotient, -, -, hframe⟩ :=
    refused_keeps (.ofNat 3) quotient (.operation (.press .equals))
  obtain ⟨hfactorial, -⟩ :=
    refused_keeps (.ofNat 3) negative (.operation (.press (.function .factorial)))
  obtain ⟨-, hadd, -⟩ := refused_keeps (.ofNat 3) negative (.operation (.memory .add))
  have hcopied : remaining (.ofNat 3) quotient.copiedUntil = quotient.copiedUntil :=
    remaining_of_not_passed (by decide +kernel)
  refine ⟨hquotient .divisionByZero (by decide +kernel), ?_,
    hfactorial .factorialDomain (by decide +kernel),
    hadd (Number.ofNat 2).neg (by decide +kernel)⟩
  rw [(hframe (.key (some .equals)) (.press .equals) rfl).1 .divisionByZero (by decide +kernel),
    hcopied]

end State

end Calculator
