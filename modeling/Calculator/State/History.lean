import Calculator.State.Basic

set_option autoImplicit false

namespace Calculator

namespace State

def historyLimit : Nat := 50

def remember (entry : Entry) (s : State) : State :=
  { s with history := (entry :: s.history).take historyLimit }

/-- Takes the expression of an entry back and closes the panel. -/
def reuse (index : Nat) (s : State) : State :=
  match s.history[index]? with
  | some entry => { s with expression := entry.expression, historyOpen := false }
  | none => s

/-- The first request arms, the second one clears; there is nothing to clear in an
empty history. -/
def requestClear (s : State) : State :=
  if s.history.isEmpty then { s with clearArmed := false }
  else if s.clearArmed then { s with history := [], clearArmed := false }
  else { s with clearArmed := true }

def toggleHistory (s : State) : State :=
  { s with historyOpen := !s.historyOpen, clearArmed := false }

end State

end Calculator
