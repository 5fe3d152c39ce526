import Calculator.Number.Basic

set_option autoImplicit false

namespace Calculator

inductive Theme
  | dark
  | light
  deriving DecidableEq, Repr

inductive Mode
  | basic
  | scientific
  deriving DecidableEq, Repr

structure Preferences where
  theme : Theme
  mode : Mode
  sound : Bool
  deriving DecidableEq, Repr

def Preferences.initial : Preferences := ⟨.dark, .basic, true⟩

structure Entry where
  expression : List Char
  result : List Char
  deriving DecidableEq, Repr

/-- A deadline is the time, in seconds, from which a display no longer stands. -/
structure State where
  expression : List Char
  result : List Char
  lastValue : Number
  errorUntil : Option Number
  memory : Number
  history : List Entry
  preferences : Preferences
  historyOpen : Bool
  clearArmed : Bool
  copiedUntil : Option Number
  deriving DecidableEq

namespace State

def initialResult : List Char := "0".toList

def errorResult : List Char := "Error".toList

def initial : State where
  expression := []
  result := initialResult
  lastValue := .zero
  errorUntil := none
  memory := .zero
  history := []
  preferences := .initial
  historyOpen := false
  clearArmed := false
  copiedUntil := none

def toggleTheme (s : State) : State :=
  let theme := match s.preferences.theme with
    | .dark => Theme.light
    | .light => Theme.dark
  { s with preferences := { s.preferences with theme } }

def toggleMode (s : State) : State :=
  let mode := match s.preferences.mode with
    | .basic => Mode.scientific
    | .scientific => Mode.basic
  { s with preferences := { s.preferences with mode } }

def toggleSound (s : State) : State :=
  { s with preferences := { s.preferences with sound := !s.preferences.sound } }

end State

end Calculator
