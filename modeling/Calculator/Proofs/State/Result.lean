import Calculator.Proofs.ResultText
import Calculator.Proofs.State.Inquiry
import Calculator.Saved.Text

/-! The displayed result over a run. An action leaves it alone, shows an error with a
deadline, shows a finite value, or puts the initial result back. Main statement: after
every run the error is displayed just while it has a deadline, and anything else that
is displayed can be evaluated. -/

set_option autoImplicit false

namespace Calculator

namespace State

/-- What an action can do to the displayed result and the deadline of an error. -/
inductive Shows (s t : State) : Prop
  | same (hresult : t.result = s.result) (huntil : t.errorUntil = s.errorUntil)
  | error (hresult : t.result = errorResult) (huntil : t.errorUntil.isSome = true)
  | value (x : Number) (hx : x.isFinite = true) (hresult : t.result = x.resultText)
      (huntil : t.errorUntil = none)
  | initial (hresult : t.result = initialResult) (huntil : t.errorUntil = none)

theorem shows_tick (now : Number) (s : State) : s.Shows (s.tick now) := by
  rw [tick_eq]
  cases hpassed : passed now s.errorUntil with
  | true => exact .initial rfl (if_pos hpassed)
  | false => exact .same rfl (remaining_of_not_passed hpassed)

theorem Effect.shows {now : Number} {s t : State} {a : Action} (h : s.Effect now a t) :
    s.Shows t := by
  cases h with
  | quiet hresult herror hcopied => exact .same hresult herror
  | refused h => exact .error rfl rfl
  | calculated h => exact .value _ (isFinite_of_evaluateWith (of_resultInquiry? h).2) rfl rfl
  | cleared => exact .initial rfl rfl
  | copied => exact .same rfl rfl
  | ticked => exact shows_tick now s

theorem shows_perform (now : Number) (s : State) (a : Action) : s.Shows (a.perform now s) :=
  (effect_perform now s a).shows

/-- The error is displayed while it has a deadline, and otherwise a text with a value. -/
structure Displays (s : State) : Prop where
  error_iff : s.result = errorResult ↔ s.errorUntil.isSome = true
  readable : s.errorUntil = none → ∃ x, evaluate s.result = .ok x

/-- The error is displayed as a name that no function has. -/
theorem evaluate_errorResult : ∃ f, evaluate errorResult = .error f := by
  cases h : evaluate errorResult with
  | error f => exact ⟨f, rfl⟩
  | ok x =>
    have hvalue : (evaluate errorResult).toOption = none := by decide +kernel
    rw [h] at hvalue
    cases hvalue

theorem evaluate_initialResult : evaluate initialResult = .ok .zero :=
  eq_ok_of_toOption (by decide +kernel)

theorem displays_of_evaluate {s : State} {x : Number} (h : evaluate s.result = .ok x)
    (huntil : s.errorUntil = none) : s.Displays where
  error_iff := by
    rw [huntil]
    constructor
    · intro hresult
      obtain ⟨f, hf⟩ := evaluate_errorResult
      rw [hresult, hf] at h
      cases h
    · intro hsome
      cases hsome
  readable _ := ⟨x, h⟩

theorem displays_load (stored : Option (List Char)) : (load stored).Displays := by
  unfold load
  split <;> exact displays_of_evaluate evaluate_initialResult rfl

theorem displays_perform (now : Number) (s : State) (a : Action) (h : s.Displays) :
    (a.perform now s).Displays := by
  cases shows_perform now s a with
  | same hresult huntil =>
    constructor
    · rw [hresult, huntil]
      exact h.error_iff
    · rw [hresult, huntil]
      exact h.readable
  | error hresult huntil =>
    refine ⟨⟨fun _ => huntil, fun _ => hresult⟩, fun hnone => ?_⟩
    rw [hnone] at huntil
    cases huntil
  | value x hx hresult huntil =>
    cases x with
    | finite sign magnitude =>
      obtain ⟨t, w, heval, -⟩ := evaluate_resultText_finite sign magnitude
      exact displays_of_evaluate (hresult ▸ heval) huntil
    | _ => cases hx
  | initial hresult huntil =>
    exact displays_of_evaluate (hresult ▸ evaluate_initialResult) huntil

theorem displays_run (stored : Option (List Char)) (actions : List (Number × Action)) :
    ((load stored).run actions).Displays :=
  run_invariant displays_perform (displays_load stored) actions

theorem Displays.result_eq_or {s : State} (h : s.Displays) :
    s.result = errorResult ∨ s.errorUntil = none ∧ ∃ x, evaluate s.result = .ok x := by
  cases huntil : s.errorUntil with
  | none => exact .inr ⟨rfl, h.readable huntil⟩
  | some t => exact .inl (h.error_iff.2 (by rw [huntil]; rfl))

theorem Displays.result_tick {s : State} (h : s.Displays) (hresult : s.result ≠ errorResult)
    (now : Number) : (s.tick now).result = s.result := by
  obtain herror | ⟨huntil, -⟩ := h.result_eq_or
  · exact absurd herror hresult
  · rw [tick_eq, huntil]
    rfl

theorem Displays.memoryOperand_eq_ok {s : State} (h : s.Displays)
    (hresult : s.result ≠ errorResult) (hempty : s.expression = []) :
    ∃ x, s.memoryOperand = .ok x := by
  obtain herror | ⟨-, hvalue⟩ := h.result_eq_or
  · exact absurd herror hresult
  · rw [memoryOperand, if_pos hempty]
    exact hvalue

/-- After every run, on any stored text, the error is displayed just while it has a
deadline, and any other displayed text has a value. So the passing of time never takes
such a text away, and adding it to the memory or subtracting it succeeds. -/
theorem run_displays (stored : Option (List Char)) (actions : List (Number × Action)) :
    let s := (load stored).run actions
    (s.result = errorResult ↔ s.errorUntil.isSome = true) ∧
      (s.errorUntil = none → ∃ x, evaluate s.result = .ok x) ∧
      (s.result ≠ errorResult → ∀ now, (s.tick now).result = s.result) ∧
      (s.result ≠ errorResult → s.expression = [] → ∃ x, s.memoryOperand = .ok x ∧
        ∀ now, s.useMemory .add now = { s with memory := s.memory.add x } ∧
          s.useMemory .subtract now = { s with memory := s.memory.sub x }) := by
  intro s
  have h : s.Displays := displays_run stored actions
  refine ⟨h.error_iff, h.readable, h.result_tick, fun hresult hempty => ?_⟩
  obtain ⟨x, hx⟩ := h.memoryOperand_eq_ok hresult hempty
  refine ⟨x, hx, fun now => ⟨?_, ?_⟩⟩
  · simp only [useMemory, hx]
  · simp only [useMemory, hx]

def seven : State :=
  (load none).run
    [(.zero, .enter "1÷0".toList), (.zero, .operation (.press .equals)),
      (errorDelay, .operation .tick), (errorDelay, .operation (.press .clear)),
      (errorDelay, .enter "7".toList), (errorDelay, .operation (.press .equals))]

theorem run_displays_seven :
    seven.result = "7".toList ∧ seven.errorUntil = none ∧
      (∀ now, (seven.tick now).result = "7".toList) ∧ ∃ x, seven.memoryOperand = .ok x := by
  have hresult : seven.result = "7".toList := by decide +kernel
  have hempty : seven.expression = [] := by decide +kernel
  have huntil : seven.errorUntil = none := by decide +kernel
  have hne : seven.result ≠ errorResult := by
    rw [hresult]
    decide
  obtain ⟨-, -, htick, hmemory⟩ := run_displays none _
  obtain ⟨x, hx, -⟩ := hmemory hne hempty
  exact ⟨hresult, huntil, fun now => (htick hne now).trans hresult, x, hx⟩

end State

end Calculator
