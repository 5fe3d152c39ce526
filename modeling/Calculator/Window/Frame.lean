import Calculator.Window.Screen

/-! One frame of the window: deadlines pass, the keyboard is read, and the widgets
are drawn in order, each as the state stands at that moment; a widget that is
clicked acts at once. A frame may come with any number of events. After it the
window rests until the next deadline, if there is one. -/

set_option autoImplicit false

namespace Calculator

/-- What can happen in a frame. A click is aimed at a widget of the screen before. -/
inductive Event
  | click (b : Button)
  | row (index : Nat)
  | typed (text : List Char)
  | key (operation : Option Key)
  deriving DecidableEq, Repr

/-- The state while a frame is drawn, and the texts copied so far. -/
structure Frame where
  state : State
  copied : List (List Char)
  deriving DecidableEq

namespace Frame

/-- The button clicked on a screen: the first one with this label. -/
def buttonAt? (s : State) (label : List Char) : Option Button :=
  (Button.shown s).find? (·.label s == label)

/-- Keys of the keyboard by name; the others do nothing. -/
def keyNamed? (name : List Char) : Option Key :=
  if name = "Enter".toList then some .equals
  else if name = "Escape".toList then some .clear
  else if name = "Backspace".toList then some .delete
  else none

def type (now : Number) (s : State) : Event → State
  | .typed text => text.foldl (fun s c => s.typeCharacter c) s
  | .key (some k) => k.press now s
  | _ => s

def readKeyboard (now : Number) (events : List Event) (s : State) : State :=
  events.foldl (type now) s

def draw (now : Number) (events : List Event) (f : Frame) (b : Button) : Frame :=
  if .click b ∈ events ∧ b.enabled f.state = true then
    { state := b.operation.perform now f.state
      copied := if b = .copy then f.copied ++ [f.state.result] else f.copied }
  else f

def drawAll (now : Number) (events : List Event) (f : Frame) (bs : List Button) : Frame :=
  bs.foldl (draw now events) f

/-- The row of the history that was clicked, the last one if there are several. -/
def clickedRow? (events : List Event) (s : State) : Option Nat :=
  ((List.range s.history.length).filter fun index => .row index ∈ events).getLast?

def drawRows (events : List Event) (f : Frame) : Frame :=
  match clickedRow? events f.state with
  | some index => { f with state := f.state.reuse index }
  | none => f

def drawPanel (now : Number) (events : List Event) (f : Frame) : Frame :=
  if f.state.historyOpen then drawRows events (draw now events f .clearHistory) else f

def drawScientificPad (now : Number) (events : List Event) (f : Frame) : Frame :=
  if f.state.preferences.mode = .scientific then drawAll now events f Button.scientificPad else f

def drawWindow (now : Number) (events : List Event) (f : Frame) : Frame :=
  let f := drawPanel now events f
  let f := drawAll now events f Button.topBar
  let f := draw now events f .copy
  let f := drawAll now events f Button.memoryRow
  let f := drawScientificPad now events f
  drawAll now events f Button.mainPad

def entered (now : Number) (events : List Event) (s : State) : State :=
  readKeyboard now events (s.tick now)

def ofEvents (now : Number) (events : List Event) (s : State) : Frame :=
  drawWindow now events ⟨entered now events s, []⟩

def run (now : Number) (event : Option Event) (s : State) : Frame :=
  ofEvents now event.toList s

end Frame

namespace State

def refresh (now : Number) (s : State) (events : List Event) : State :=
  (Frame.ofEvents now events s).state

def update (now : Number) (event : Option Event) (s : State) : State :=
  (Frame.run now event s).state

def rest? (now : Number) (s : State) : Option Number :=
  s.nextDeadline.map fun d => (d.sub now).max .zero

end State

/-- Some seconds in whole nanoseconds, a tie to the even number. There is no such time for
less than nothing, and none from 2^64 seconds on. -/
def Number.nanoseconds? : Number → Option Nat
  | .finite negative m =>
    if (negative = true ∧ m.units ≠ 0) ∨ 2 ^ (64 : Nat) * Magnitude.one ≤ m.units then none
    else some (Tie.toEven.divide (m.units * 10 ^ (9 : Nat)) Magnitude.one)
  | _ => none

end Calculator
