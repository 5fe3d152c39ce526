import Calculator.Fault

set_option autoImplicit false

namespace Calculator

namespace Cursor

/-- The accesses without an answer. -/
inductive Panic
  | position
  | slice
  | counter
  | frames
  deriving DecidableEq, Repr

inductive Stop
  | fault (f : Fault)
  | panic (p : Panic)
  deriving DecidableEq

namespace Stop

variable {α β : Type}

@[simp]
theorem ok_bind (a : α) (f : α → Except Stop β) : (.ok a >>= f) = f a := rfl

@[simp]
theorem error_bind (s : Stop) (f : α → Except Stop β) : (.error s >>= f) = .error s := rfl

end Stop

section

variable {α β : Type}

/-- A result that no access can spoil. -/
def ofResult (r : Except Fault α) : Except Stop α := r.mapError .fault

@[simp]
theorem ofResult_ok (a : α) : ofResult (.ok a) = .ok a := rfl

@[simp]
theorem ofResult_error (f : Fault) : ofResult (.error f : Except Fault α) = .error (.fault f) := rfl

theorem ofResult_bind (r : Except Fault α) (f : α → Except Fault β) :
    ofResult (r >>= f) = ofResult r >>= fun a => ofResult (f a) := by
  cases r <;> rfl

theorem ofResult_ne_panic (r : Except Fault α) (p : Panic) : ofResult r ≠ .error (.panic p) := by
  cases r <;> simp

end

def read (cs : List Char) (i : Nat) : Except Stop Char :=
  match cs[i]? with
  | some c => .ok c
  | none => .error (.panic .position)

def slice (cs : List Char) (start stop : Nat) : Except Stop (List Char) :=
  if start ≤ stop ∧ stop ≤ cs.length then .ok ((cs.drop start).take (stop - start))
  else .error (.panic .slice)

def decrement : Nat → Except Stop Nat
  | 0 => .error (.panic .counter)
  | n + 1 => .ok n

/-- The first position from `i` on whose character does not satisfy `p`. -/
def skipWhile (p : Char → Bool) (cs : List Char) (i : Nat) : Except Stop Nat :=
  if _ : i < cs.length then do
    let c ← read cs i
    if p c then skipWhile p cs (i + 1) else pure i
  else pure i
termination_by cs.length - i

def before (cs : List Char) (i : Nat) : Option Char := if i = 0 then none else cs[i - 1]?

@[simp]
theorem before_zero (cs : List Char) : before cs 0 = none := rfl

@[simp]
theorem before_succ (cs : List Char) (i : Nat) : before cs (i + 1) = cs[i]? := rfl

section

variable {cs : List Char} {i : Nat}

theorem read_eq_ok_iff {c : Char} : read cs i = .ok c ↔ cs[i]? = some c := by
  unfold read
  split <;> simp_all

theorem read_of_lt (h : i < cs.length) : read cs i = .ok cs[i] :=
  read_eq_ok_iff.2 (List.getElem?_eq_getElem h)

theorem drop_of_lt (h : i < cs.length) : cs.drop i = cs[i] :: cs.drop (i + 1) :=
  List.drop_eq_getElem_cons h

theorem skipWhile_eq (p : Char → Bool) (cs : List Char) (i : Nat) :
    skipWhile p cs i = .ok (i + ((cs.drop i).takeWhile p).length) := by
  fun_induction skipWhile p cs i with
  | case1 i h ih =>
    rw [read_of_lt h, drop_of_lt h, List.takeWhile_cons]
    show (if p cs[i] = true then _ else _) = _
    split
    · rw [ih, List.length_cons]
      congr 1
      omega
    · rfl
  | case2 i h =>
    rw [List.drop_eq_nil_of_le (by omega)]
    rfl

theorem getElem?_of_drop {c : Char} {rest : List Char} (h : cs.drop i = c :: rest) :
    cs[i]? = some c := by
  rw [← List.head?_drop, h]
  rfl

theorem drop_succ_of_drop {c : Char} {rest : List Char} (h : cs.drop i = c :: rest) :
    cs.drop (i + 1) = rest := by
  rw [← List.tail_drop, h]
  rfl

theorem drop_of_drop_append {xs ys : List Char} (h : cs.drop i = xs ++ ys) :
    cs.drop (i + xs.length) = ys := by
  rw [← List.drop_drop, h, List.drop_left]

theorem slice_of_drop_append {xs ys : List Char} (hi : i ≤ cs.length)
    (h : cs.drop i = xs ++ ys) : slice cs i (i + xs.length) = .ok xs := by
  have hlength := congrArg List.length h
  rw [List.length_drop, List.length_append] at hlength
  rw [slice, if_pos ⟨by omega, by omega⟩, h, Nat.add_sub_cancel_left, List.take_left]

theorem before_of_drop_append {xs ys : List Char} (h : cs.drop i = xs ++ ys) :
    before cs (i + xs.length) = xs.getLast?.or (before cs i) := by
  induction xs generalizing i with
  | nil => rfl
  | cons x xs ih =>
    have hbehind := ih (drop_succ_of_drop h)
    rw [List.length_cons, Nat.add_comm xs.length, ← Nat.add_assoc, hbehind, before_succ,
      getElem?_of_drop h, List.getLast?_cons]
    cases xs.getLast? <;> rfl

theorem drop_takeWhile (p : Char → Bool) (cs : List Char) (i : Nat) :
    cs.drop (i + ((cs.drop i).takeWhile p).length) = (cs.drop i).dropWhile p :=
  drop_of_drop_append List.takeWhile_append_dropWhile.symm

theorem slice_takeWhile (p : Char → Bool) (hi : i ≤ cs.length) :
    slice cs i (i + ((cs.drop i).takeWhile p).length) = .ok ((cs.drop i).takeWhile p) :=
  slice_of_drop_append hi List.takeWhile_append_dropWhile.symm

theorem before_takeWhile {p : Char → Bool} (h : i < cs.length) (hp : p cs[i] = true) :
    ∃ c, p c = true ∧ before cs (i + ((cs.drop i).takeWhile p).length) = some c := by
  have hne : (cs.drop i).takeWhile p ≠ [] := by
    rw [drop_of_lt h, List.takeWhile_cons, if_pos hp]
    exact List.cons_ne_nil _ _
  refine ⟨_, List.all_eq_true.1 List.all_takeWhile _ (List.getLast_mem hne), ?_⟩
  rw [before_of_drop_append List.takeWhile_append_dropWhile.symm,
    List.getLast?_eq_some_getLast hne]
  rfl

end

end Cursor

end Calculator
