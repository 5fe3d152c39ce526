import Calculator.Proofs.State.Kept

set_option autoImplicit false

namespace Calculator

namespace State

def resultInquiry? (s : State) : Option (Except Fault Number) :=
  if s.expression = [] then none else some (evaluate s.expression)

def totalInquiry? (s : State) : Function → Option (Except Fault Number)
  | .elementary _ => none
  | f =>
    if s.expression = [] then none
    else some (evaluate s.expression >>= fun total => f.apply .double total)

end State

namespace Action

/-- What an action asks the evaluation for, if it does. -/
def inquiry? (s : State) : Action → Option (Except Fault Number)
  | .operation (.press .equals) => s.resultInquiry?
  | .operation (.press (.function f)) => s.totalInquiry? f
  | .operation (.memory .add) => some s.memoryOperand
  | .operation (.memory .subtract) => some s.memoryOperand
  | .enterNamed name => (Function.ofName? name).bind s.totalInquiry?
  | _ => none

/-- What an action makes of a state with the value that it asked for. -/
def answered (x : Number) (s : State) : Action → State
  | .operation (.press .equals) =>
    { s with
      expression := []
      result := x.resultText
      lastValue := x
      errorUntil := none
      history := (⟨s.expression, x.resultText⟩ :: s.history).take State.historyLimit }
  | .operation (.press (.function _)) => { s with expression := x.resultText }
  | .operation (.memory .add) => { s with memory := s.memory.add x }
  | .operation (.memory .subtract) => { s with memory := s.memory.sub x }
  | .enterNamed _ => { s with expression := x.resultText }
  | _ => s

end Action

namespace State

def resume (now : Number) (s : State) (write : Number → State) : Except Fault Number → State
  | .ok x => write x
  | .error _ => s.showError now

variable {s : State} {r : Except Fault Number}

theorem of_resultInquiry? (h : s.resultInquiry? = some r) :
    s.expression ≠ [] ∧ evaluate s.expression = r := by
  unfold resultInquiry? at h
  split at h
  next => cases h
  next hne => exact ⟨hne, Option.some.inj h⟩

theorem calculate_of_inquiry (h : s.resultInquiry? = some r) (now : Number) :
    s.calculate now =
      s.resume now (Action.answered · s (.operation (.press .equals))) r := by
  obtain ⟨hne, rfl⟩ := of_resultInquiry? h
  rw [calculate, if_neg hne]
  cases evaluate s.expression <;> rfl

theorem calculate_of_not_asked (h : s.resultInquiry? = none) (now : Number) :
    s.calculate now = s := by
  unfold resultInquiry? at h
  split at h
  next hempty => rw [calculate, if_pos hempty]
  next => cases h

theorem totalText_eq (f : Function) (s : State) :
    s.totalText f =
      (evaluate s.expression >>= fun total => f.apply .double total).map Number.resultText := by
  unfold totalText
  cases evaluate s.expression with
  | error e => rfl
  | ok total =>
    rw [Fault.ok_bind, Fault.ok_bind]
    cases f.apply .double total <;> rfl

theorem enterFunction_of_inquiry {f : Function} (h : s.totalInquiry? f = some r) (now : Number) :
    s.enterFunction f now = s.resume now (fun x => { s with expression := x.resultText }) r := by
  have hasked : s.expression ≠ [] ∧ s.totalText f = r.map Number.resultText ∧
      s.enterFunction f now = s.applyToTotal f now := by
    rw [totalText_eq]
    cases f with
    | elementary f => cases h
    | _ =>
      unfold totalInquiry? at h
      dsimp only at h
      split at h
      next => cases h
      next hne =>
        cases h
        exact ⟨hne, rfl, rfl⟩
  obtain ⟨hne, htext, henter⟩ := hasked
  rw [henter, applyToTotal, if_neg hne, htext]
  cases r <;> rfl

theorem enters_enterFunction {f : Function} (h : s.totalInquiry? f = none) (now : Number) :
    s.Enters (s.enterFunction f now) := by
  have hnone (hempty : s.expression = []) : s.Enters (s.applyToTotal f now) := by
    rw [applyToTotal, if_pos hempty]
    exact .refl s
  cases f with
  | elementary f => exact enters_enter _ s
  | _ =>
    unfold totalInquiry? at h
    dsimp only at h
    split at h
    next hempty => exact hnone hempty
    next => cases h

theorem enterNamed_of_ofName? {name : List Char} {f : Function}
    (h : Function.ofName? name = some f) (now : Number) :
    s.enterNamed name now = s.enterFunction f now := by
  have hpower : name ≠ "x^y".toList := by
    rintro rfl
    cases h
  rw [enterNamed, if_neg hpower, h]

theorem perform_of_inquiry {a : Action} (h : a.inquiry? s = some r) (now : Number) :
    a.perform now s = s.resume now (a.answered · s) r := by
  unfold Action.inquiry? at h
  split at h
  next => exact calculate_of_inquiry h now
  next => exact enterFunction_of_inquiry h now
  next =>
    cases h
    rw [Action.perform, Operation.perform, useMemory]
    cases s.memoryOperand <;> rfl
  next =>
    cases h
    rw [Action.perform, Operation.perform, useMemory]
    cases s.memoryOperand <;> rfl
  next name =>
    obtain ⟨f, hf, h⟩ := Option.bind_eq_some_iff.1 h
    rw [Action.perform, enterNamed_of_ofName? hf]
    exact enterFunction_of_inquiry h now
  next => cases h

/-- What an action does to the displayed result and to the two deadlines. -/
inductive Effect (now : Number) (s : State) : Action → State → Prop
  | quiet {a : Action} {t : State} (hresult : t.result = s.result)
      (herror : t.errorUntil = s.errorUntil) (hcopied : t.copiedUntil = s.copiedUntil) :
      s.Effect now a t
  | refused {a : Action} {f : Fault} (h : a.inquiry? s = some (.error f)) :
      s.Effect now a (s.showError now)
  | calculated {x : Number} (h : s.resultInquiry? = some (.ok x)) :
      s.Effect now (.operation (.press .equals))
        (Action.answered x s (.operation (.press .equals)))
  | cleared : s.Effect now (.operation (.press .clear)) s.clear
  | copied : s.Effect now (.operation .copy) (s.copy now)
  | ticked : s.Effect now (.operation .tick) (s.tick now)

theorem Enters.effect {t : State} (h : s.Enters t) {now : Number} {a : Action} :
    s.Effect now a t := by
  cases h
  exact .quiet rfl rfl rfl

theorem effect_of_inquiry {a : Action} (h : a.inquiry? s = some r) (now : Number) :
    s.Effect now a (a.perform now s) := by
  rw [perform_of_inquiry h]
  cases r with
  | error f => exact .refused h
  | ok x =>
    show s.Effect now a (a.answered x s)
    unfold Action.answered
    split
    next => exact .calculated h
    all_goals exact .quiet rfl rfl rfl

theorem effect_reuse {now : Number} {a : Action} (index : Nat) (s : State) :
    s.Effect now a (s.reuse index) := by
  unfold reuse
  split <;> exact .quiet rfl rfl rfl

theorem effect_requestClear {now : Number} {a : Action} (s : State) :
    s.Effect now a s.requestClear := by
  unfold requestClear
  split
  · exact .quiet rfl rfl rfl
  · split <;> exact .quiet rfl rfl rfl

theorem effect_press_of_not_asked {key : Key}
    (h : Action.inquiry? s (.operation (.press key)) = none) (now : Number) :
    s.Effect now (.operation (.press key)) (key.press now s) := by
  cases key with
  | digit d => exact (enters_enter _ s).effect
  | point => exact (enters_enter _ s).effect
  | operator op => exact (enters_enterOperator _ s).effect
  | opening => exact (enters_enterOperator _ s).effect
  | closing => exact (enters_enterOperator _ s).effect
  | pi => exact (enters_enterConstant _ s).effect
  | euler => exact (enters_enterConstant _ s).effect
  | power => exact (enters_enter _ s).effect
  | function f => exact (enters_enterFunction h now).effect
  | equals =>
    have hsame : Key.equals.press now s = s := calculate_of_not_asked h now
    rw [hsame]
    exact .quiet rfl rfl rfl
  | clear => exact .cleared
  | delete => exact (enters_delete s).effect

theorem enters_enterNamed {name : List Char}
    (h : (Function.ofName? name).bind s.totalInquiry? = none) (now : Number) :
    s.Enters (s.enterNamed name now) := by
  unfold enterNamed
  split
  · exact enters_enter ['^'] s
  · split
    next f hf =>
      rw [hf] at h
      exact enters_enterFunction h now
    next => exact .refl s

theorem effect_perform (now : Number) (s : State) (a : Action) :
    s.Effect now a (a.perform now s) := by
  cases h : a.inquiry? s with
  | some r => exact effect_of_inquiry h now
  | none =>
    cases a with
    | operation op =>
      cases op with
      | press key => exact effect_press_of_not_asked h now
      | type c => exact (enters_typeCharacter c s).effect
      | memory key =>
        cases key with
        | clear => exact .quiet rfl rfl rfl
        | fetch => exact .quiet rfl rfl rfl
        | add => cases h
        | subtract => cases h
      | reuse index => exact effect_reuse index s
      | requestClear => exact effect_requestClear s
      | copy => exact .copied
      | tick => exact .ticked
      | _ => exact .quiet rfl rfl rfl
    | enter text => exact (enters_enter text s).effect
    | enterOperator c => exact (enters_enterOperator c s).effect
    | enterConstant text => exact (enters_enterConstant text s).effect
    | enterNamed name => exact (enters_enterNamed h now).effect

end State

end Calculator
