import Calculator.Proofs.State.Expiry
import Calculator.Proofs.State.Run

set_option autoImplicit false

namespace Calculator

/-- An action that is none of: the result, the memory keys, and the three operations on
the history. -/
def Action.isQuiet : Action → Bool
  | .operation (.press .equals) => false
  | .operation (.memory _) => false
  | .operation (.reuse _) => false
  | .operation .requestClear => false
  | .operation .toggleHistory => false
  | _ => true

namespace State

/-- At most the expression is another one. -/
inductive Enters (s : State) : State → Prop
  | intro (text : List Char) : s.Enters { s with expression := text }

theorem Enters.refl (s : State) : s.Enters s := .intro s.expression

theorem enters_enter (text : List Char) (s : State) : s.Enters (s.enter text) := .intro _

theorem enters_enterOperator (c : Char) (s : State) : s.Enters (s.enterOperator c) := by
  unfold enterOperator
  split
  · exact enters_enter [c] s
  · exact .refl s

theorem enters_enterConstant (text : List Char) (s : State) : s.Enters (s.enterConstant text) := by
  unfold enterConstant
  split
  · exact enters_enter ('×' :: text) s
  · exact enters_enter text s

theorem enters_delete (s : State) : s.Enters s.delete := by
  unfold delete
  split <;> exact .intro _

theorem enters_typeCharacter (c : Char) (s : State) : s.Enters (s.typeCharacter c) := by
  unfold typeCharacter
  split
  · exact enters_enter [c] s
  · split
    · exact enters_enterOperator '×' s
    · split
      · exact enters_enterOperator '÷' s
      · split
        · exact enters_enterOperator c s
        · exact .refl s

structure Keeps (s t : State) : Prop where
  memory : t.memory = s.memory
  history : t.history = s.history
  historyOpen : t.historyOpen = s.historyOpen
  clearArmed : t.clearArmed = s.clearArmed

theorem Keeps.refl (s : State) : s.Keeps s := ⟨rfl, rfl, rfl, rfl⟩

theorem Enters.keeps {s t : State} (h : s.Enters t) : s.Keeps t := by
  cases h
  exact ⟨rfl, rfl, rfl, rfl⟩

theorem keeps_showError (now : Number) (s : State) : s.Keeps (s.showError now) :=
  ⟨rfl, rfl, rfl, rfl⟩

theorem keeps_applyToTotal (f : Function) (now : Number) (s : State) :
    s.Keeps (s.applyToTotal f now) := by
  unfold applyToTotal
  split
  · exact .refl s
  · split
    · exact ⟨rfl, rfl, rfl, rfl⟩
    · exact keeps_showError now s

theorem keeps_enterFunction (f : Function) (now : Number) (s : State) :
    s.Keeps (s.enterFunction f now) := by
  unfold enterFunction
  split
  · exact (enters_enter _ s).keeps
  · exact keeps_applyToTotal _ now s

theorem keeps_enterNamed (name : List Char) (now : Number) (s : State) :
    s.Keeps (s.enterNamed name now) := by
  unfold enterNamed
  split
  · exact (enters_enter ['^'] s).keeps
  · split
    · exact keeps_enterFunction _ now s
    · exact .refl s

theorem keeps_tick (now : Number) (s : State) : s.Keeps (s.tick now) := by
  rw [tick_eq]
  exact ⟨rfl, rfl, rfl, rfl⟩

theorem keeps_press {key : Key} (hkey : key ≠ .equals) (now : Number) (s : State) :
    s.Keeps (key.press now s) := by
  cases key with
  | digit d => exact (enters_enter _ s).keeps
  | point => exact (enters_enter _ s).keeps
  | operator op => exact (enters_enterOperator _ s).keeps
  | opening => exact (enters_enterOperator _ s).keeps
  | closing => exact (enters_enterOperator _ s).keeps
  | pi => exact (enters_enterConstant _ s).keeps
  | euler => exact (enters_enterConstant _ s).keeps
  | power => exact (enters_enter _ s).keeps
  | function f => exact keeps_enterFunction f now s
  | equals => exact absurd rfl hkey
  | clear => exact ⟨rfl, rfl, rfl, rfl⟩
  | delete => exact (enters_delete s).keeps

theorem keeps_perform {a : Action} (ha : a.isQuiet = true) (now : Number) (s : State) :
    s.Keeps (a.perform now s) := by
  cases a with
  | operation op =>
    cases op with
    | press key =>
      refine keeps_press (fun hkey => ?_) now s
      rw [hkey] at ha
      cases ha
    | type c => exact (enters_typeCharacter c s).keeps
    | toggleTheme => exact ⟨rfl, rfl, rfl, rfl⟩
    | toggleMode => exact ⟨rfl, rfl, rfl, rfl⟩
    | toggleSound => exact ⟨rfl, rfl, rfl, rfl⟩
    | copy => exact ⟨rfl, rfl, rfl, rfl⟩
    | tick => exact keeps_tick now s
    | memory key => cases ha
    | reuse index => cases ha
    | requestClear => cases ha
    | toggleHistory => cases ha
  | enter text => exact (enters_enter text s).keeps
  | enterOperator c => exact (enters_enterOperator c s).keeps
  | enterConstant text => exact (enters_enterConstant text s).keeps
  | enterNamed name => exact keeps_enterNamed name now s

theorem keeps_calculate_with_history (now : Number) (s : State) :
    { s with history := (s.calculate now).history }.Keeps (s.calculate now) := by
  unfold calculate
  split
  · exact ⟨rfl, rfl, rfl, rfl⟩
  · split <;> exact ⟨rfl, rfl, rfl, rfl⟩

theorem keeps_useMemory_with_memory (key : MemoryKey) (now : Number) (s : State) :
    { s with memory := (s.useMemory key now).memory }.Keeps (s.useMemory key now) := by
  cases key with
  | clear => exact ⟨rfl, rfl, rfl, rfl⟩
  | fetch => exact ⟨rfl, rfl, rfl, rfl⟩
  | add =>
    unfold useMemory
    cases s.memoryOperand <;> exact ⟨rfl, rfl, rfl, rfl⟩
  | subtract =>
    unfold useMemory
    cases s.memoryOperand <;> exact ⟨rfl, rfl, rfl, rfl⟩

theorem keeps_calculate_of_error {s : State} {f : Fault} (h : evaluate s.expression = .error f)
    (now : Number) : s.Keeps (s.calculate now) := by
  unfold calculate
  split
  · exact .refl s
  · rw [h]
    exact keeps_showError now s

theorem memory_reuse (index : Nat) (s : State) : (s.reuse index).memory = s.memory := by
  unfold reuse
  split <;> rfl

theorem memory_requestClear (s : State) : s.requestClear.memory = s.memory := by
  unfold requestClear
  split
  · rfl
  · split <;> rfl

end State

end Calculator
