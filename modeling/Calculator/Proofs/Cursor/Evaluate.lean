import Calculator.Evaluate
import Calculator.Proofs.Cursor.Calls

/-! The value of an expression, read by position. Main statements: no text makes an
access leave its range, a count go below zero or more than 65 texts be open at once;
the value or fault is that of the text. -/

set_option autoImplicit false

namespace Calculator

namespace Cursor

def readBefore (cs : List Char) (i : Nat) : Except Stop (Option Char) :=
  if i = 0 then .ok none
  else do
    let k ← decrement i
    .ok cs[k]?

theorem readBefore_eq (cs : List Char) (i : Nat) : readBefore cs i = .ok (before cs i) := by
  cases i <;> rfl

def isEuler (cs : List Char) (i : Nat) : Except Stop Bool := do
  let previous ← readBefore cs i
  if previous.any Constants.isNameLetter || cs[i + 1]?.any Constants.isNameLetter then .ok false
  else do
    let mark ← isMark cs i
    .ok !mark

theorem isEuler_eq {cs after : List Char} {i : Nat} (h : cs.drop i = 'e' :: after) :
    isEuler cs i = .ok (Constants.isEuler (before cs i) after) := by
  have hnext : cs[i + 1]? = after.head? := by
    rw [← List.head?_drop, drop_succ_of_drop h]
  rw [isEuler, readBefore_eq, Stop.ok_bind, isMark_eq, hnext, Constants.isEuler, ← h]
  cases (before cs i).any Constants.isNameLetter with
  | true => rfl
  | false => cases after.head?.any Constants.isNameLetter <;> rfl

def writtenAt (cs : List Char) (i : Nat) : Except Stop (List Char) := do
  let c ← read cs i
  if c = 'π' then .ok Constants.pi
  else if c = 'e' then do
    let euler ← isEuler cs i
    .ok (if euler then Constants.euler else [c])
  else .ok [c]

/-- The text from a position on with its constants written out, behind the text `out`. -/
def constantsFrom (cs : List Char) (i : Nat) (out : List Char) : Except Stop (List Char) :=
  if _ : i < cs.length then do
    let written ← writtenAt cs i
    constantsFrom cs (i + 1) (out ++ written)
  else .ok out
termination_by cs.length - i

theorem expandAfter_drop {cs : List Char} {i : Nat} (h : i < cs.length) :
    ∃ written, writtenAt cs i = .ok written ∧
      Constants.expandAfter (before cs i) (cs.drop i) =
        written ++ Constants.expandAfter (before cs (i + 1)) (cs.drop (i + 1)) := by
  rw [writtenAt, read_of_lt h, Stop.ok_bind, before_succ, List.getElem?_eq_getElem h]
  have hdrop := drop_of_lt h
  rw [hdrop]
  refine ⟨_, ?_, rfl⟩
  split
  · rfl
  · split
    · rename_i he
      rw [isEuler_eq (by rw [hdrop, he])]
      simp [he]
    · rename_i he
      simp [he]

theorem constantsFrom_eq (cs : List Char) (i : Nat) (out : List Char) :
    constantsFrom cs i out = .ok (out ++ Constants.expandAfter (before cs i) (cs.drop i)) := by
  fun_induction constantsFrom cs i out with
  | case1 i out h ih =>
    obtain ⟨written, hwritten, hexpand⟩ := expandAfter_drop h
    rw [hwritten, Stop.ok_bind, ih, hexpand, List.append_assoc]
  | case2 i out h =>
    rw [List.drop_eq_nil_of_le (by omega)]
    exact congrArg Except.ok (List.append_nil out).symm

def evaluate (A : Arithmetic) (frames : Nat) (cs : List Char) : Except Stop Number := do
  let written ← constantsFrom cs 0 []
  let expanded ← expand A frames 0 written
  let x ← plainValue A expanded
  ofResult (finite x)

theorem evaluate_eq (A : Arithmetic) (cs : List Char) :
    evaluate A 65 cs = ofResult (evaluateWith A cs) := by
  have hcalls : expand A 65 0 (Constants.expand cs) = _ :=
    expand_eq A (Nat.zero_le _) (by decide) _
  rw [evaluate, constantsFrom_eq, Stop.ok_bind, evaluateWith, Calls.expand]
  show expand A 65 0 (Constants.expand cs) >>= _ = _
  rw [hcalls, ofResult_bind]
  congr 1
  funext expanded
  rw [plainValue_eq, ofResult_bind]

/-- Whatever the text and the operations, no access leaves its range, no count goes
below zero and 65 open texts are enough; what comes out is the value or the fault of
the text. -/
theorem evaluate_ne_panic (A : Arithmetic) (cs : List Char) :
    (∀ p, evaluate A 65 cs ≠ .error (.panic p)) ∧
      evaluate A 65 cs = ofResult (evaluateWith A cs) := by
  have heq := evaluate_eq A cs
  refine ⟨fun p hp => ?_, heq⟩
  rw [heq] at hp
  exact ofResult_ne_panic _ p hp

end Cursor

end Calculator
