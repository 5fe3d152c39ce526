import Calculator.State.Operation

set_option autoImplicit false

namespace Calculator

inductive Button
  | clearHistory
  | theme
  | mode
  | sound
  | history
  | copy
  | memory (key : MemoryKey)
  | key (k : Key)
  deriving DecidableEq, Repr

namespace Key

def label : Key → List Char
  | .digit d => [digitCharacter d]
  | .point => ".".toList
  | .operator op => [op.char]
  | .opening => "(".toList
  | .closing => ")".toList
  | .pi => "π".toList
  | .euler => "e".toList
  | .power => "x^y".toList
  | .function (.elementary .sqrt) => "√".toList
  | .function f => f.name
  | .equals => "=".toList
  | .clear => "C".toList
  | .delete => "DEL".toList

end Key

def MemoryKey.label : MemoryKey → List Char
  | .clear => "MC".toList
  | .fetch => "MR".toList
  | .add => "M+".toList
  | .subtract => "M-".toList

namespace Button

/-- Some labels say what a press would do next. -/
def label (s : State) : Button → List Char
  | .clearHistory =>
    if s.clearArmed then "Confirmer le vidage ?".toList else "Vider l’historique".toList
  | .theme =>
    match s.preferences.theme with
    | .dark => "Thème clair".toList
    | .light => "Thème sombre".toList
  | .mode => "Scientifique".toList
  | .sound => "Son".toList
  | .history => "Historique".toList
  | .copy => if s.copiedUntil.isSome then "Copié".toList else "Copier".toList
  | .memory k => k.label
  | .key k => k.label

/-- Only an empty history takes a button out of use. -/
def enabled (s : State) : Button → Bool
  | .clearHistory => !s.history.isEmpty
  | _ => true

theorem enabled_clearHistory_iff {s : State} :
    clearHistory.enabled s = true ↔ s.history ≠ [] := by
  rw [enabled, Bool.not_eq_true', ← Bool.not_eq_true, List.isEmpty_iff]

theorem enabled_of_ne {b : Button} (h : b ≠ .clearHistory) (s : State) : b.enabled s = true := by
  cases b with
  | clearHistory => exact absurd rfl h
  | _ => rfl

def operation : Button → Operation
  | .clearHistory => .requestClear
  | .theme => .toggleTheme
  | .mode => .toggleMode
  | .sound => .toggleSound
  | .history => .toggleHistory
  | .copy => .copy
  | .memory k => .memory k
  | .key k => .press k

def topBar : List Button := [.theme, .mode, .sound, .history]

def memoryRow : List Button := [.memory .clear, .memory .fetch, .memory .add, .memory .subtract]

def scientificPad : List Button :=
  [.key (.function (.elementary .sin)), .key (.function (.elementary .cos)),
    .key (.function (.elementary .tan)), .key (.function (.elementary .log)),
    .key (.function (.elementary .ln)),
    .key (.function (.elementary .sqrt)), .key (.function .square), .key (.function .cube),
    .key .power, .key (.function .factorial),
    .key .pi, .key .euler, .key (.function .percent), .key (.function .opposite)]

def mainPad : List Button :=
  [.key .clear, .key .delete, .key .opening, .key .closing,
    .key (.digit 7), .key (.digit 8), .key (.digit 9), .key (.operator .divide),
    .key (.digit 4), .key (.digit 5), .key (.digit 6), .key (.operator .times),
    .key (.digit 1), .key (.digit 2), .key (.digit 3), .key (.operator .minus),
    .key (.digit 0), .key .point, .key .equals, .key (.operator .plus)]

def shown (s : State) : List Button :=
  (if s.historyOpen then [clearHistory] else []) ++ topBar ++ [copy] ++ memoryRow ++
    (if s.preferences.mode = .scientific then scientificPad else []) ++ mainPad

end Button

end Calculator
