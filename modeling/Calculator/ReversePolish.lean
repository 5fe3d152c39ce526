import Calculator.Token

/-! Reverse Polish notation: the conversion of tokens by a stack of operators that
still wait for their right operand, and the evaluation of the result on a stack
of values. -/

set_option autoImplicit false

namespace Calculator

namespace ReversePolish

/-- Whether an operator on the stack has its right operand complete when another
one comes. -/
def yields (waiting incoming : Binding) : Bool :=
  match incoming.associativity with
  | .left => incoming.precedence ≤ waiting.precedence
  | .right => incoming.precedence < waiting.precedence

/-- The operators that leave the stack before an incoming one, and the stack left. -/
def release (incoming : Binding) : List Symbol → List Token × List Symbol
  | [] => ([], [])
  | s :: stack =>
    match s.binding? with
    | none => ([], s :: stack)
    | some waiting =>
      if yields waiting incoming then
        let (out, left) := release incoming stack
        (.symbol s :: out, left)
      else ([], s :: stack)

def releaseToOpening : List Symbol → Option (List Token × List Symbol)
  | [] => none
  | .opening :: stack => some ([], stack)
  | s :: stack => (releaseToOpening stack).map fun (out, left) => (.symbol s :: out, left)

def releaseAll : List Symbol → Except Fault (List Token)
  | [] => .ok []
  | .opening :: _ => .error .unclosedParenthesis
  | s :: stack => do
    let out ← releaseAll stack
    pure (.symbol s :: out)

/-- Reads the remaining tokens; a minus where a value is expected is a prefix. -/
def convert (expectsValue : Bool) (stack : List Symbol) :
    List Token → Except Fault (List Token)
  | [] => releaseAll stack
  | .number x :: tokens => do
    let out ← convert false stack tokens
    pure (.number x :: out)
  | .symbol .opening :: tokens => convert true (.opening :: stack) tokens
  | .symbol .closing :: tokens =>
    match releaseToOpening stack with
    | none => .error .closingWithoutOpening
    | some (out, left) => do
      let rest ← convert false left tokens
      pure (out ++ rest)
  | .symbol .negate :: tokens => convert expectsValue (.negate :: stack) tokens
  | .symbol (.binary op) :: tokens =>
    if op = .minus ∧ expectsValue = true then convert true (.negate :: stack) tokens
    else do
      let (out, left) := release op.binding stack
      let rest ← convert true (.binary op :: left) tokens
      pure (out ++ rest)

def ofTokens (tokens : List Token) : Except Fault (List Token) := convert true [] tokens

def step (A : Arithmetic) (stack : List Number) : Token → Except Fault (List Number)
  | .number x => .ok (x :: stack)
  | .symbol .negate =>
    match stack with
    | a :: left => .ok (A.negate a :: left)
    | [] => .error .missingOperand
  | .symbol s =>
    match stack with
    | b :: a :: left =>
      match s with
      | .binary op =>
        if op = .divide ∧ b.isZero = true then .error .divisionByZero
        else .ok (A.combine op a b :: left)
      | _ => .error .strayParenthesis
    | _ => .error .missingOperand

def run (A : Arithmetic) : List Number → List Token → Except Fault (List Number)
  | stack, [] => .ok stack
  | stack, t :: tokens => do
    let next ← step A stack t
    run A next tokens

def value (A : Arithmetic) (tokens : List Token) : Except Fault Number := do
  match ← run A [] tokens with
  | [x] => .ok x
  | [] => .error .emptyExpression
  | _ => .error .leftoverValues

theorem run_append (A : Arithmetic) (stack : List Number) (xs ys : List Token) :
    run A stack (xs ++ ys) = run A stack xs >>= fun s => run A s ys := by
  induction xs generalizing stack with
  | nil => rfl
  | cons t xs ih =>
    simp only [List.cons_append, run]
    cases step A stack t with
    | error e => rfl
    | ok next => exact ih next

end ReversePolish

end Calculator
