import Mathlib.Data.List.Forall2
import Calculator.Proofs.ReversePolish.Evaluation

/-! Which lists of tokens the stack machine comes through. It is run once more on a stack of
trees, where an operator joins its operands instead of working them out; the trees on that
stack are the ones that the tokens spell, and no others are spelled so. Main statement:
tokens have a value just if they are the reverse Polish form of exactly one tree, and the
strict evaluation of that tree comes to the value. -/

set_option autoImplicit false

namespace Calculator

namespace ReversePolish

/-- The reverse Polish forms of the trees on a stack, the topmost last. -/
def forms : List (Tree Number Empty) → List Token
  | [] => []
  | t :: stack => forms stack ++ t.reversed

/-- One token acting on a stack of trees. -/
def grow (stack : List (Tree Number Empty)) : Token → Option (List (Tree Number Empty))
  | .number x => some (.leaf x :: stack)
  | .symbol .negate =>
    match stack with
    | t :: left => some (.negate t :: left)
    | [] => none
  | .symbol (.binary op) =>
    match stack with
    | t :: s :: left => some (.combine op s t :: left)
    | _ => none
  | .symbol _ => none

def build (stack : List (Tree Number Empty)) (tokens : List Token) :
    Option (List (Tree Number Empty)) :=
  tokens.foldlM grow stack

theorem build_cons (stack : List (Tree Number Empty)) (t : Token) (tokens : List Token) :
    build stack (t :: tokens) = (grow stack t).bind fun next => build next tokens := rfl

theorem build_append (stack : List (Tree Number Empty)) (xs ys : List Token) :
    build stack (xs ++ ys) = (build stack xs).bind fun next => build next ys :=
  List.foldlM_append

theorem build_reversed (t : Tree Number Empty) (stack : List (Tree Number Empty))
    (rest : List Token) : build stack (t.reversed ++ rest) = build (t :: stack) rest := by
  induction t generalizing stack rest with
  | leaf x => rfl
  | negate t ih =>
    rw [Tree.reversed, List.append_assoc, ih]
    rfl
  | combine op s t hs ht =>
    rw [Tree.reversed, List.append_assoc, List.append_assoc, hs, ht]
    rfl
  | call f t => exact f.elim

theorem build_forms (stack : List (Tree Number Empty)) : build [] (forms stack) = some stack := by
  induction stack with
  | nil => rfl
  | cons t stack ih =>
    have ht := build_reversed t stack []
    rw [List.append_nil] at ht
    rw [forms, build_append, ih]
    exact ht

theorem forms_of_grow {stack next : List (Tree Number Empty)} {t : Token}
    (h : grow stack t = some next) : forms next = forms stack ++ [t] := by
  cases t with
  | number x =>
    cases h
    rfl
  | symbol s =>
    rcases stack with _ | ⟨u, _ | ⟨v, stack⟩⟩
    · cases s <;> cases h
    · cases s <;> cases h
      simp [forms, Tree.reversed]
    · cases s <;> cases h <;> simp [forms, Tree.reversed]

theorem forms_of_build {stack left : List (Tree Number Empty)} {tokens : List Token}
    (h : build stack tokens = some left) : forms left = forms stack ++ tokens := by
  induction tokens generalizing stack with
  | nil =>
    cases h
    exact (List.append_nil _).symm
  | cons t tokens ih =>
    obtain ⟨next, hnext, hrest⟩ := Option.bind_eq_some_iff.1 h
    rw [ih hrest, forms_of_grow hnext, List.append_assoc, List.singleton_append]

theorem build_eq_some_iff {stack : List (Tree Number Empty)} {tokens : List Token} :
    build [] tokens = some stack ↔ forms stack = tokens := by
  constructor
  · exact forms_of_build
  · rintro rfl
    exact build_forms stack

/-- A reverse Polish form needs no parentheses: two trees never share one. -/
theorem reversed_injective : Function.Injective Tree.reversed := by
  intro s t h
  have hs : build [] t.reversed = some [s] := build_eq_some_iff.2 h
  have ht : build [] t.reversed = some [t] := build_eq_some_iff.2 rfl
  exact (List.cons.inj (Option.some.inj (hs.symm.trans ht))).1

/-- Where values are as many as trees, a token that finds its operands among the values
finds them among the trees. -/
theorem exists_grow_of_step {A : Arithmetic} {values next : List Number} {t : Token}
    (h : step A values t = .ok next) {stack : List (Tree Number Empty)}
    (hlength : stack.length = values.length) :
    ∃ grown, grow stack t = some grown ∧ grown.length = next.length := by
  cases steps_of_step h with
  | number x values => exact ⟨_, rfl, congrArg (· + 1) hlength⟩
  | negate a values =>
    rcases stack with _ | ⟨u, stack⟩
    · cases hlength
    · exact ⟨_, rfl, hlength⟩
  | binary op values _ =>
    rcases stack with _ | ⟨u, _ | ⟨s, stack⟩⟩
    · cases hlength
    · cases hlength
    · exact ⟨_, rfl, Nat.succ.inj hlength⟩

theorem exists_build_of_run {A : Arithmetic} {tokens : List Token} {values left : List Number}
    (h : run A values tokens = .ok left) {stack : List (Tree Number Empty)}
    (hlength : stack.length = values.length) :
    ∃ grown, build stack tokens = some grown ∧ grown.length = left.length := by
  induction tokens generalizing values stack with
  | nil =>
    cases h
    exact ⟨stack, rfl, hlength⟩
  | cons t tokens ih =>
    obtain ⟨next, hnext, hrest⟩ := Fault.bind_eq_ok.1 h
    obtain ⟨grown, hgrown, hlength⟩ := exists_grow_of_step hnext hlength
    obtain ⟨built, hbuilt, hlength⟩ := ih hrest hlength
    exact ⟨built, by rw [build_cons, hgrown]; exact hbuilt, hlength⟩

theorem run_forms_eq_ok_iff {A : Arithmetic} {stack : List (Tree Number Empty)}
    {values : List Number} :
    run A [] (forms stack) = .ok values ↔ List.Forall₂ (Tree.Yields A) stack values := by
  induction stack generalizing values with
  | nil =>
    rw [List.forall₂_nil_left_iff]
    simp [forms, run, eq_comm]
  | cons t stack ih =>
    rw [forms, run_append, Fault.bind_eq_ok]
    constructor
    · rintro ⟨below, hbelow, ht⟩
      rw [run_reversed] at ht
      obtain ⟨x, hx, hvalues⟩ := Fault.bind_eq_ok.1 ht
      cases hvalues
      exact .cons (Tree.value_eq_ok_iff.1 hx) (ih.1 hbelow)
    · intro h
      cases h with
      | cons hx hstack =>
        refine ⟨_, ih.2 hstack, ?_⟩
        rw [run_reversed, hx.value_eq_ok]
        rfl

theorem run_eq_ok_iff {A : Arithmetic} {tokens : List Token} {values : List Number} :
    run A [] tokens = .ok values ↔
      ∃ stack, forms stack = tokens ∧ List.Forall₂ (Tree.Yields A) stack values := by
  constructor
  · intro h
    have hempty : ([] : List (Tree Number Empty)).length = ([] : List Number).length := rfl
    obtain ⟨stack, hbuild, _⟩ := exists_build_of_run h hempty
    obtain rfl := build_eq_some_iff.1 hbuild
    exact ⟨stack, rfl, run_forms_eq_ok_iff.1 h⟩
  · rintro ⟨stack, rfl, h⟩
    exact run_forms_eq_ok_iff.2 h

/-- Tokens have a value just if exactly one tree is spelled by them and its strict
evaluation, which meets no zero divisor, comes to the value. -/
theorem value_iff_exists_tree (A : Arithmetic) (tokens : List Token) (x : Number) :
    value A tokens = .ok x ↔
      ∃ t : Tree Number Empty,
        (∀ u : Tree Number Empty, u.reversed = tokens ↔ u = t) ∧ t.Yields A x := by
  constructor
  · intro h
    obtain ⟨stack, hforms, hvalues⟩ := run_eq_ok_iff.1 (run_of_value_eq_ok h)
    cases hvalues with
    | @cons t _ _ _ hx hbelow =>
      cases hbelow
      obtain rfl : t.reversed = tokens := hforms
      exact ⟨t, fun u => reversed_injective.eq_iff, hx⟩
  · rintro ⟨t, ht, hx⟩
    rw [← (ht t).2 rfl, value_reversed]
    exact hx.value_eq_ok

end ReversePolish

end Calculator
