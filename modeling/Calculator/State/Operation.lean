import Calculator.State.Keypad

/-! Everything that a user can do to the state, as a type: the keys of the pads,
typing, the memory keys, the history, the switches, and the passing of time. -/

set_option autoImplicit false

namespace Calculator

inductive Key
  | digit (d : Fin 10)
  | point
  | operator (op : Operator)
  | opening
  | closing
  | pi
  | euler
  | power
  | function (f : Function)
  | equals
  | clear
  | delete
  deriving DecidableEq, Repr

namespace Key

def digitCharacter (d : Fin 10) : Char := Nat.digitChar d.val

def press (now : Number) (s : State) : Key → State
  | .digit d => s.enter [digitCharacter d]
  | .point => s.enter ['.']
  | .operator op => s.enterOperator op.char
  | .opening => s.enterOperator '('
  | .closing => s.enterOperator ')'
  | .pi => s.enterConstant "π".toList
  | .euler => s.enterConstant "e".toList
  | .power => s.enter ['^']
  | .function f => s.enterFunction f now
  | .equals => s.calculate now
  | .clear => s.clear
  | .delete => s.delete

end Key

inductive Operation
  | press (key : Key)
  | type (c : Char)
  | memory (key : MemoryKey)
  | reuse (index : Nat)
  | requestClear
  | toggleHistory
  | toggleTheme
  | toggleMode
  | toggleSound
  | copy
  | tick
  deriving DecidableEq, Repr

namespace Operation

def perform (now : Number) (s : State) : Operation → State
  | .press key => key.press now s
  | .type c => s.typeCharacter c
  | .memory key => s.useMemory key now
  | .reuse index => s.reuse index
  | .requestClear => s.requestClear
  | .toggleHistory => s.toggleHistory
  | .toggleTheme => s.toggleTheme
  | .toggleMode => s.toggleMode
  | .toggleSound => s.toggleSound
  | .copy => s.copy now
  | .tick => s.tick now

end Operation

end Calculator
