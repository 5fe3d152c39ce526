import Calculator.Window.Button

set_option autoImplicit false

namespace Calculator

structure Screen where
  labels : List (List Char)
  disabled : List (List Char)
  texts : List (List Char)
  rows : Nat
  errorColour : Bool
  dark : Bool
  deriving DecidableEq, Repr

namespace Screen

def emptyHistory : List Char := "Aucun calcul pour l’instant".toList

def panelTexts (s : State) : List (List Char) :=
  "Historique".toList ::
    if s.history.isEmpty then [emptyHistory]
    else s.history.flatMap fun e => [e.expression, e.result]

/-- The scientific pad ends with an empty cell. -/
def shownTexts (s : State) : List (List Char) :=
  (if s.historyOpen then panelTexts s else []) ++ [s.expression, s.result] ++
    if s.preferences.mode = .scientific then [[]] else []

def shownRows (s : State) : Nat := if s.historyOpen then s.history.length else 0

def ofState (s : State) : Screen where
  labels := (Button.shown s).map (·.label s)
  disabled := ((Button.shown s).filter (!·.enabled s)).map (·.label s)
  texts := shownTexts s
  rows := shownRows s
  errorColour := s.inError
  dark := s.preferences.theme = .dark

end Screen

end Calculator
