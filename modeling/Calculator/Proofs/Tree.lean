import Calculator.ReversePolish

set_option autoImplicit false

namespace Calculator

inductive Tree (α ν : Type)
  | leaf (a : α)
  | negate (t : Tree α ν)
  | combine (op : Operator) (s t : Tree α ν)
  | call (f : ν) (t : Tree α ν)
  deriving DecidableEq, Repr

theorem eq_ok_of_toOption {ε α : Type} {r : Except ε α} {x : α} (h : r.toOption = some x) :
    r = .ok x := by
  cases r with
  | error e => cases h
  | ok y => exact congrArg Except.ok (Option.some.inj h)

/-- What the leaves and the names in a tree stand for. -/
structure Reading (α ν : Type) where
  leaf : α → Number
  call : ν → Number → Except Fault Number

/-- An operator on finished operands; a zero divisor is a fault. -/
def Operator.apply (A : Arithmetic) (op : Operator) (x y : Number) : Except Fault Number :=
  if op = .divide ∧ y.isZero = true then .error .divisionByZero else .ok (A.combine op x y)

namespace Tree

def value {α ν : Type} (A : Arithmetic) (R : Reading α ν) : Tree α ν → Except Fault Number
  | leaf a => .ok (R.leaf a)
  | negate t => do
    let x ← t.value A R
    pure (A.negate x)
  | combine op s t => do
    let x ← s.value A R
    let y ← t.value A R
    op.apply A x y
  | call f t => do
    let x ← t.value A R
    R.call f x

def callDepth {α ν : Type} : Tree α ν → Nat
  | leaf _ => 0
  | negate t => t.callDepth
  | combine _ s t => max s.callDepth t.callDepth
  | call _ t => t.callDepth + 1

def reversed : Tree Number Empty → List Token
  | leaf x => [.number x]
  | negate t => t.reversed ++ [.symbol .negate]
  | combine op s t => s.reversed ++ t.reversed ++ [.symbol (.binary op)]
  | call f _ => nomatch f

end Tree

def Reading.number : Reading Number Empty := ⟨id, fun f _ => nomatch f⟩

namespace ReversePolish

theorem step_binary (A : Arithmetic) (op : Operator) (x y : Number) (stack : List Number) :
    step A (y :: x :: stack) (.symbol (.binary op)) =
      op.apply A x y >>= fun z => pure (z :: stack) := by
  simp only [step, Operator.apply]
  split <;> rfl

/-- All that a token can do to a stack of values. -/
inductive Steps (A : Arithmetic) : List Number → Token → List Number → Prop
  | number (x : Number) (stack : List Number) : Steps A stack (.number x) (x :: stack)
  | negate (a : Number) (stack : List Number) :
    Steps A (a :: stack) (.symbol .negate) (A.negate a :: stack)
  | binary (op : Operator) {x y z : Number} (stack : List Number) (h : op.apply A x y = .ok z) :
    Steps A (y :: x :: stack) (.symbol (.binary op)) (z :: stack)

theorem steps_of_step {A : Arithmetic} {stack next : List Number} {t : Token}
    (h : step A stack t = .ok next) : Steps A stack t next := by
  cases t with
  | number x =>
    cases h
    exact .number x stack
  | symbol s =>
    rcases stack with _ | ⟨y, _ | ⟨x, stack⟩⟩
    · cases s <;> cases h
    · cases s <;> cases h
      exact .negate y []
    · cases s with
      | binary op =>
        rw [step_binary] at h
        obtain ⟨z, happly, hnext⟩ := Fault.bind_eq_ok.1 h
        cases hnext
        exact .binary op stack happly
      | negate =>
        cases h
        exact .negate y (x :: stack)
      | opening => cases h
      | closing => cases h

theorem run_reversed (A : Arithmetic) (t : Tree Number Empty) (stack : List Number) :
    run A stack t.reversed = t.value A .number >>= fun x => pure (x :: stack) := by
  induction t generalizing stack with
  | leaf x => rfl
  | negate t ih =>
    rw [Tree.reversed, run_append, ih]
    simp only [Tree.value]
    cases t.value A .number <;> rfl
  | combine op s t hs ht =>
    rw [Tree.reversed, run_append, run_append, hs]
    simp only [Tree.value]
    cases s.value A .number with
    | error e => rfl
    | ok x =>
      show (run A (x :: stack) t.reversed >>= _) = _
      rw [ht]
      cases t.value A .number with
      | error e => rfl
      | ok y =>
        show (step A (y :: x :: stack) _ >>= _) = _
        rw [step_binary]
        show _ = op.apply A x y >>= _
        cases op.apply A x y <;> rfl
  | call f t => exact f.elim

theorem run_of_value_eq_ok {A : Arithmetic} {tokens : List Token} {x : Number}
    (h : value A tokens = .ok x) : run A [] tokens = .ok [x] := by
  obtain ⟨left, hrun, hleft⟩ := Fault.bind_eq_ok.1 h
  rcases left with _ | ⟨y, _ | ⟨z, left⟩⟩
  · cases hleft
  · cases hleft
    exact hrun
  · cases hleft

theorem value_reversed (A : Arithmetic) (t : Tree Number Empty) :
    value A t.reversed = t.value A .number := by
  rw [value, run_reversed]
  cases t.value A .number <;> rfl

end ReversePolish

end Calculator
