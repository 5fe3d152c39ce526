import Calculator.Proofs.State.Deadline

set_option autoImplicit false

namespace Calculator

/-- Another error, a result, or the emptied display takes the place of an error. -/
def Step.replacesError (x : Step Action) : Bool :=
  match x.event.inquiry? x.before with
  | some (.error _) => true
  | some (.ok _) => x.event = .operation (.press .equals)
  | none => x.event = .operation (.press .clear)

namespace State

variable {now d : Number} {s t : State} {a : Action}

theorem Effect.same_or_tick (h : s.Effect now a t)
    (hquiet : (⟨s, now, a⟩ : Step Action).replacesError = false) :
    (t.result = s.result ∧ t.errorUntil = s.errorUntil) ∨ t = s.tick now := by
  cases h with
  | quiet hresult herror hcopied => exact .inl ⟨hresult, herror⟩
  | refused h =>
    simp only [Step.replacesError, h, Bool.true_eq_false] at hquiet
  | calculated h =>
    simp only [Step.replacesError, Action.inquiry?, h, decide_true, Bool.true_eq_false] at hquiet
  | cleared => cases hquiet
  | copied => exact .inl ⟨rfl, rfl⟩
  | ticked => exact .inr rfl

structure ErrorStands (d : Number) (s : State) : Prop where
  result : s.result = errorResult
  errorUntil : s.errorUntil = some d

structure ErrorOver (s : State) : Prop where
  result : s.result = initialResult
  errorUntil : s.errorUntil = none

theorem ErrorStands.tick (h : ErrorStands d s) (now : Number) :
    ErrorStands d (s.tick now) ∨ ErrorOver (s.tick now) ∧ d.atMost now = true := by
  have hpassed : passed now s.errorUntil = d.atMost now := by
    rw [h.errorUntil]
    rfl
  rw [tick_eq, remaining, hpassed]
  cases d.atMost now with
  | false => exact .inl ⟨h.result, h.errorUntil⟩
  | true => exact .inr ⟨⟨rfl, rfl⟩, rfl⟩

theorem ErrorOver.tick (h : ErrorOver s) (now : Number) : ErrorOver (s.tick now) := by
  rw [tick_eq, h.errorUntil]
  exact ⟨h.result, rfl⟩

/-- An error that nothing replaces stands, or its deadline has been reached. -/
theorem errorStands_or_errorOver_run {actions : List (Number × Action)} (h : ErrorStands d s)
    (hquiet : ∀ x ∈ steps Action.perform s actions, x.replacesError = false) :
    ErrorStands d (s.run actions) ∨
      ErrorOver (s.run actions) ∧ ∃ x ∈ actions, d.atMost x.1 = true := by
  rw [run_eq_after]
  refine after_invariant_of_steps Action.perform
    (P := fun s => ErrorStands d s ∨ ErrorOver s ∧ ∃ x ∈ actions, d.atMost x.1 = true)
    (fun x hx hbefore => ?_) (.inl h)
  rcases (effect_perform x.now x.before x.event).same_or_tick (hquiet x hx) with
    ⟨hresult, herror⟩ | htick
  · rcases hbefore with hstands | ⟨hover, hreached⟩
    · exact .inl ⟨hresult.trans hstands.result, herror.trans hstands.errorUntil⟩
    · exact .inr ⟨⟨hresult.trans hover.result, herror.trans hover.errorUntil⟩, hreached⟩
  · rw [htick]
    rcases hbefore with hstands | ⟨hover, hreached⟩
    · rcases hstands.tick x.now with hstands | ⟨hover, hreached⟩
      · exact .inl hstands
      · exact .inr ⟨hover, _, mem_of_mem_steps Action.perform hx, hreached⟩
    · exact .inr ⟨hover.tick x.now, hreached⟩

/-- In some actions an error was raised at a time, and nothing has replaced it since. -/
def RaisedAt (t : Number) (s : State) (actions : List (Number × Action)) : Prop :=
  ∃ (early : List (Number × Action)) (a : Action) (late : List (Number × Action)) (f : Fault),
    actions = early ++ (t, a) :: late ∧ a.inquiry? (s.run early) = some (.error f) ∧
      ∀ x ∈ steps Action.perform (a.perform t (s.run early)) late, x.replacesError = false

theorem RaisedAt.errorStands_or_errorOver {t : Number} {actions : List (Number × Action)}
    (h : RaisedAt t s actions) :
    ErrorStands (t.add errorDelay) (s.run actions) ∨
      ErrorOver (s.run actions) ∧ ∃ x ∈ actions, (t.add errorDelay).atMost x.1 = true := by
  obtain ⟨early, a, late, f, rfl, hrefused, hquiet⟩ := h
  have hraised : a.perform t (s.run early) = (s.run early).showError t :=
    perform_of_inquiry hrefused t
  have hstands : ErrorStands (t.add errorDelay) (a.perform t (s.run early)) := by
    rw [hraised]
    exact ⟨rfl, rfl⟩
  have hrun : s.run (early ++ (t, a) :: late) = (a.perform t (s.run early)).run late :=
    run_append s early _
  rw [hrun]
  rcases errorStands_or_errorOver_run hstands hquiet with hstands | ⟨hover, x, hx, hreached⟩
  · exact .inl hstands
  · exact .inr ⟨hover, x, List.mem_append_right _ (List.mem_cons_of_mem _ hx), hreached⟩

theorem RaisedAt.mem {t : Number} {actions : List (Number × Action)} (h : RaisedAt t s actions) :
    ∃ a, (t, a) ∈ actions := by
  obtain ⟨early, a, late, f, rfl, -⟩ := h
  exact ⟨a, List.mem_append_right _ List.mem_cons_self⟩

end State

end Calculator
