import Calculator.Proofs.State.History

set_option autoImplicit false

namespace Calculator

/-- An operation that writes a number in the place of the expression: the memory key that
fetches, and the functions that no call can be opened for. -/
def Operation.writesNumber : Operation → Bool
  | .memory .fetch => true
  | .press (.function (.elementary _)) => false
  | .press (.function _) => true
  | _ => false

/-- The texts that are added at the end of an expression. -/
inductive Added (cs : List Char) : List Char → Prop
  | literal (c : Char) (hc : isLiteralCharacter c = true) : Added cs [c]
  | sign (c : Char) (hc : c = '(' ∨ c = ')' ∨ c = '-') : Added cs [c]
  | operator (op : Operator) (h : cs ≠ []) : Added cs [op.char]
  | constant (text : List Char) (htext : text = "π".toList ∨ text = "e".toList)
      (h : cs.getLast?.any isLiteralCharacter = false) : Added cs text
  | product (text : List Char) (htext : text = "π".toList ∨ text = "e".toList)
      (h : cs.getLast?.any isLiteralCharacter = true) : Added cs ('×' :: text)
  | call (f : Elementary) : Added cs (f.name ++ ['('])

namespace State

/-- What an operation makes of the expression of a state. -/
inductive Revises (s : State) : Operation → List Char → Prop
  | added {op : Operation} {text : List Char} (h : Added s.expression text) :
      s.Revises op (s.expression ++ text)
  | power : s.Revises (.press .power) (s.expression ++ ['^'])
  | same {op : Operation} {text : List Char} (h : text = s.expression) : s.Revises op text
  | emptied {op : Operation} : s.Revises op []
  | deleted : s.Revises (.press .delete) s.delete.expression
  | reused {index : Nat} {e : Entry} (h : s.history[index]? = some e) :
      s.Revises (.reuse index) e.expression
  | total {f : Function} {x : Number} (h : (Operation.press (.function f)).writesNumber = true)
      (hx : x.isFinite = true) : s.Revises (.press (.function f)) x.resultText
  | fetched : s.Revises (.memory .fetch) s.memory.resultText

theorem expression_delete_isPrefix (s : State) : s.delete.expression <+: s.expression := by
  unfold delete
  split
  next rest hrest =>
    obtain ⟨f, -, hf⟩ := List.exists_of_findSome?_eq_some hrest
    unfold stripSuffix? at hf
    split at hf
    · cases hf
      exact List.take_prefix _ _
    · cases hf
  next => exact List.dropLast_prefix _

theorem exists_of_totalText {s : State} {f : Function} {text : List Char}
    (h : s.totalText f = .ok text) : ∃ x : Number, x.isFinite = true ∧ text = x.resultText := by
  obtain ⟨total, -, htotal⟩ := Fault.bind_eq_ok.1 h
  obtain ⟨x, happly, hx⟩ := Fault.bind_eq_ok.1 htotal
  cases hx
  exact ⟨x, Function.isFinite_of_apply happly, rfl⟩

variable {op : Operation} (now : Number) (s : State)

theorem revises_enterOperator {c : Char} (hc : c = '(' ∨ c = ')' ∨ ∃ o : Operator, c = o.char) :
    s.Revises op (s.enterOperator c).expression := by
  unfold enterOperator
  split
  next h =>
    refine .added ?_
    rcases h with h | h | h | h
    · exact .sign c (.inl h)
    · exact .sign c (.inr (.inl h))
    · exact .sign c (.inr (.inr h))
    · rcases hc with hc | hc | ⟨o, rfl⟩
      · exact .sign c (.inl hc)
      · exact .sign c (.inr (.inl hc))
      · exact .operator o h
  next => exact .same rfl

theorem revises_enterConstant {text : List Char} (htext : text = "π".toList ∨ text = "e".toList) :
    s.Revises op (s.enterConstant text).expression := by
  unfold enterConstant
  split
  next h => exact .added (.product text htext h)
  next h => exact .added (.constant text htext (Bool.eq_false_iff.2 h))

theorem revises_applyToTotal {f : Function}
    (h : (Operation.press (.function f)).writesNumber = true) :
    s.Revises (.press (.function f)) (s.applyToTotal f now).expression := by
  unfold applyToTotal
  split
  · exact .same rfl
  · split
    next text htext =>
      obtain ⟨x, hx, rfl⟩ := exists_of_totalText htext
      exact .total h hx
    next => exact .same rfl

theorem revises_enterFunction (f : Function) :
    s.Revises (.press (.function f)) (s.enterFunction f now).expression := by
  cases f with
  | elementary f => exact .added (.call f)
  | _ => exact revises_applyToTotal now s rfl

theorem revises_calculate : s.Revises op (s.calculate now).expression := by
  unfold calculate
  split
  · exact .same rfl
  · split
    · exact .emptied
    · exact .same rfl

theorem revises_typeCharacter (c : Char) : s.Revises op (s.typeCharacter c).expression := by
  unfold typeCharacter
  split
  next hc => exact .added (.literal c hc)
  next =>
    split
    · exact revises_enterOperator s (.inr (.inr ⟨.times, rfl⟩))
    · split
      · exact revises_enterOperator s (.inr (.inr ⟨.divide, rfl⟩))
      · split
        next h =>
          rcases h with h | h | h | h | h
          · exact revises_enterOperator s (.inr (.inr ⟨.plus, h⟩))
          · exact revises_enterOperator s (.inr (.inr ⟨.minus, h⟩))
          · exact revises_enterOperator s (.inl h)
          · exact revises_enterOperator s (.inr (.inl h))
          · exact revises_enterOperator s (.inr (.inr ⟨.power, h⟩))
        next => exact .same rfl

theorem revises_press (key : Key) : s.Revises (.press key) (key.press now s).expression := by
  cases key with
  | digit d =>
    refine .added (.literal _ ?_)
    revert d
    decide
  | point => exact .added (.literal '.' rfl)
  | operator o => exact revises_enterOperator s (.inr (.inr ⟨o, rfl⟩))
  | opening => exact revises_enterOperator s (.inl rfl)
  | closing => exact revises_enterOperator s (.inr (.inl rfl))
  | pi => exact revises_enterConstant s (.inl rfl)
  | euler => exact revises_enterConstant s (.inr rfl)
  | power => exact .power
  | function f => exact revises_enterFunction now s f
  | equals => exact revises_calculate now s
  | clear => exact .emptied
  | delete => exact .deleted

theorem revises_useMemory (key : MemoryKey) :
    s.Revises (.memory key) (s.useMemory key now).expression := by
  cases key with
  | clear => exact .same rfl
  | fetch => exact .fetched
  | add =>
    unfold useMemory
    cases s.memoryOperand <;> exact .same rfl
  | subtract =>
    unfold useMemory
    cases s.memoryOperand <;> exact .same rfl

theorem revises_reuse (index : Nat) : s.Revises (.reuse index) (s.reuse index).expression := by
  unfold reuse
  split
  next e he => exact .reused he
  next => exact .same rfl

theorem expression_requestClear : s.requestClear.expression = s.expression := by
  unfold requestClear
  split
  · rfl
  · split <;> rfl

theorem expression_tick : (s.tick now).expression = s.expression := by
  rw [tick_eq]

theorem revises_perform (op : Operation) : s.Revises op (op.perform now s).expression := by
  cases op with
  | press key => exact revises_press now s key
  | type c => exact revises_typeCharacter s c
  | memory key => exact revises_useMemory now s key
  | reuse index => exact revises_reuse s index
  | requestClear => exact .same (expression_requestClear s)
  | toggleHistory => exact .same rfl
  | toggleTheme => exact .same rfl
  | toggleMode => exact .same rfl
  | toggleSound => exact .same rfl
  | copy => exact .same rfl
  | tick => exact .same (expression_tick now s)

theorem mem_history_perform {now : Number} {s : State} {op : Operation} {e : Entry}
    (h : e ∈ (op.perform now s).history) :
    e ∈ s.history ∨ e.expression = s.expression ∧ ∃ x, evaluate s.expression = .ok x := by
  have haction : (op.perform now s).history =
      ((Action.operation op).perform now s).history := rfl
  cases hclears : Step.clearsHistory ⟨s, now, .operation op⟩ with
  | true =>
    rw [haction, history_perform_of_clears hclears] at h
    cases h
  | false =>
    cases hentry : Step.entry? ⟨s, now, .operation op⟩ with
    | none =>
      rw [haction, history_perform_of_neither hclears hentry] at h
      exact .inl h
    | some entry =>
      rw [haction, history_perform_of_entry hentry] at h
      rcases List.mem_cons.1 (List.mem_of_mem_take h) with rfl | h
      · refine .inr ?_
        unfold Step.entry? at hentry
        split at hentry
        · obtain ⟨-, x, hx, -⟩ := isCalculation_of_entry? hentry
          have hexpression := expression_of_entry? hentry
          exact ⟨hexpression, x, hexpression ▸ hx⟩
        · cases hentry
      · exact .inl h

end State

end Calculator
