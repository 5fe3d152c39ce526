import Calculator.State.History

set_option autoImplicit false

namespace Calculator

structure Saved where
  history : List Entry
  preferences : Preferences
  deriving DecidableEq, Repr

namespace State

def toSaved (s : State) : Saved := ⟨s.history, s.preferences⟩

/-- A fresh state with the saved history, cut to its limit, and preferences. -/
def ofSaved (saved : Saved) : State :=
  { initial with
    history := saved.history.take historyLimit
    preferences := saved.preferences }

end State

end Calculator
