import Calculator.Number.Arithmetic
import Calculator.State.Basic

set_option autoImplicit false

namespace Calculator

namespace State

def errorDelay : Number := .ofNat 2

def copyDelay : Number := .ofNat 1

def inError (s : State) : Bool := s.errorUntil.isSome

def showError (now : Number) (s : State) : State :=
  { s with result := errorResult, errorUntil := some (now.add errorDelay) }

def showResult (text : List Char) (s : State) : State :=
  { s with result := text, errorUntil := none }

def passed (now : Number) (deadline : Option Number) : Bool := deadline.any (·.atMost now)

def expireError (now : Number) (s : State) : State :=
  if passed now s.errorUntil then { s with result := initialResult, errorUntil := none } else s

def expireCopy (now : Number) (s : State) : State :=
  if passed now s.copiedUntil then { s with copiedUntil := none } else s

def tick (now : Number) (s : State) : State := (s.expireError now).expireCopy now

/-- The next time at which the display changes by itself. -/
def nextDeadline (s : State) : Option Number :=
  match s.errorUntil, s.copiedUntil with
  | some a, some b => some (a.min b)
  | some a, none => some a
  | none, b => b

def clear (s : State) : State := { s with expression := [] }.showResult initialResult

def copy (now : Number) (s : State) : State :=
  { s with copiedUntil := some (now.add copyDelay) }

end State

end Calculator
