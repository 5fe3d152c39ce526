import Calculator.Evaluate
import Calculator.ResultText
import Calculator.State.Display
import Calculator.State.History

set_option autoImplicit false

namespace Calculator

namespace State

def enter (text : List Char) (s : State) : State :=
  { s with expression := s.expression ++ text }

/-- An operator needs something before it, save a minus; a parenthesis does not. -/
def enterOperator (c : Char) (s : State) : State :=
  if c = '(' ∨ c = ')' ∨ c = '-' ∨ s.expression ≠ [] then s.enter [c] else s

/-- A constant right after a digit or a point is multiplied with it. -/
def enterConstant (text : List Char) (s : State) : State :=
  if s.expression.getLast?.any isLiteralCharacter then s.enter ('×' :: text) else s.enter text

def totalText (f : Function) (s : State) : Except Fault (List Char) := do
  let total ← evaluate s.expression
  let x ← f.apply .double total
  pure x.resultText

def applyToTotal (f : Function) (now : Number) (s : State) : State :=
  if s.expression = [] then s
  else
    match s.totalText f with
    | .ok text => { s with expression := text }
    | .error _ => s.showError now

/-- A function that can be called opens its call, any other acts on the total. -/
def enterFunction (f : Function) (now : Number) (s : State) : State :=
  match f with
  | .elementary f => s.enter (f.name ++ ['('])
  | f => s.applyToTotal f now

def enterNamed (name : List Char) (now : Number) (s : State) : State :=
  if name = "x^y".toList then s.enter ['^']
  else
    match Function.ofName? name with
    | some f => s.enterFunction f now
    | none => s

def calculate (now : Number) (s : State) : State :=
  if s.expression = [] then s
  else
    match evaluate s.expression with
    | .ok x =>
      { s with lastValue := x, expression := [] }.showResult x.resultText
        |>.remember ⟨s.expression, x.resultText⟩
    | .error _ => s.showError now

def stripSuffix? (suffix text : List Char) : Option (List Char) :=
  if suffix.isSuffixOf text then some (text.take (text.length - suffix.length)) else none

/-- Removes the last character, or a whole function name with its parenthesis. -/
def delete (s : State) : State :=
  match Elementary.all.findSome? fun f => stripSuffix? (f.name ++ ['(']) s.expression with
  | some rest => { s with expression := rest }
  | none => { s with expression := s.expression.dropLast }

end State

inductive MemoryKey
  | clear
  | fetch
  | add
  | subtract
  deriving DecidableEq, Repr

namespace State

/-- The value that a memory key takes: of the expression, or of the displayed
result while there is none. -/
def memoryOperand (s : State) : Except Fault Number :=
  evaluate (if s.expression = [] then s.result else s.expression)

def useMemory (key : MemoryKey) (now : Number) (s : State) : State :=
  match key with
  | .clear => { s with memory := .zero }
  | .fetch => { s with expression := s.memory.resultText }
  | .add =>
    match s.memoryOperand with
    | .ok x => { s with memory := s.memory.add x }
    | .error _ => s.showError now
  | .subtract =>
    match s.memoryOperand with
    | .ok x => { s with memory := s.memory.sub x }
    | .error _ => s.showError now

/-- A typed character: digits, the point, parentheses and operators; a star and a
slash stand for their signs, and any other character does nothing. -/
def typeCharacter (c : Char) (s : State) : State :=
  if isLiteralCharacter c then s.enter [c]
  else if c = '*' then s.enterOperator '×'
  else if c = '/' then s.enterOperator '÷'
  else if c = '+' ∨ c = '-' ∨ c = '(' ∨ c = ')' ∨ c = '^' then s.enterOperator c
  else s

end State

end Calculator
