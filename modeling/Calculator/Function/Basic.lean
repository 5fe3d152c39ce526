set_option autoImplicit false

namespace Calculator

/-- Functions that an expression can call by name. -/
inductive Elementary
  | sqrt
  | sin
  | cos
  | tan
  | log
  | ln
  deriving DecidableEq, Repr

namespace Elementary

def name : Elementary → List Char
  | .sqrt => "sqrt".toList
  | .sin => "sin".toList
  | .cos => "cos".toList
  | .tan => "tan".toList
  | .log => "log".toList
  | .ln => "ln".toList

def all : List Elementary := [.sqrt, .sin, .cos, .tan, .log, .ln]

def ofName? (cs : List Char) : Option Elementary := all.find? (·.name == cs)

theorem mem_all (f : Elementary) : f ∈ all := by
  cases f <;> decide

theorem ofName?_name (f : Elementary) : ofName? f.name = some f := by
  cases f <;> decide

theorem eq_name_of_ofName? {cs : List Char} {f : Elementary} (h : ofName? cs = some f) :
    cs = f.name := by
  have := List.find?_some h
  simpa using (beq_iff_eq.1 this).symm

end Elementary

inductive Function
  | elementary (f : Elementary)
  | square
  | cube
  | factorial
  | opposite
  | percent
  deriving DecidableEq, Repr

namespace Function

def name : Function → List Char
  | .elementary f => f.name
  | .square => "x²".toList
  | .cube => "x³".toList
  | .factorial => "!".toList
  | .opposite => "+/-".toList
  | .percent => "%".toList

def all : List Function :=
  Elementary.all.map .elementary ++ [.square, .cube, .factorial, .opposite, .percent]

def ofName? (cs : List Char) : Option Function := all.find? (·.name == cs)

theorem ofName?_name (f : Function) : ofName? f.name = some f := by
  cases f with
  | elementary f => cases f <;> decide
  | _ => decide

end Function

end Calculator
