import Calculator.State.Operation

set_option autoImplicit false

namespace Calculator

inductive Action
  | operation (op : Operation)
  | enter (text : List Char)
  | enterOperator (c : Char)
  | enterConstant (text : List Char)
  | enterNamed (name : List Char)
  deriving DecidableEq, Repr

namespace Action

def perform (now : Number) (s : State) : Action → State
  | .operation op => op.perform now s
  | .enter text => s.enter text
  | .enterOperator c => s.enterOperator c
  | .enterConstant text => s.enterConstant text
  | .enterNamed name => s.enterNamed name now

end Action

/-- What happens at one time of a run, with the state before it. -/
structure Step (α : Type) where
  before : State
  now : Number
  event : α

namespace State

section Steps

variable {α : Type} (perform : Number → State → α → State)

def after (s : State) : List (Number × α) → State
  | [] => s
  | (now, a) :: events => after (perform now s a) events

def steps (s : State) : List (Number × α) → List (Step α)
  | [] => []
  | (now, a) :: events => ⟨s, now, a⟩ :: steps (perform now s a) events

/-- The steps behind the last one that ends an era, the newest first. -/
def since (ends : Step α → Bool) (s : State) (events : List (Number × α)) : List (Step α) :=
  (steps perform s events).reverse.takeWhile fun x => !ends x

theorem after_append (s : State) (events later : List (Number × α)) :
    after perform s (events ++ later) = after perform (after perform s events) later := by
  induction events generalizing s with
  | nil => rfl
  | cons x events ih => exact ih _

theorem after_concat (s : State) (events : List (Number × α)) (now : Number) (a : α) :
    after perform s (events ++ [(now, a)]) = perform now (after perform s events) a :=
  after_append perform s events [(now, a)]

theorem steps_concat (s : State) (events : List (Number × α)) (now : Number) (a : α) :
    steps perform s (events ++ [(now, a)]) =
      steps perform s events ++ [⟨after perform s events, now, a⟩] := by
  induction events generalizing s with
  | nil => rfl
  | cons x events ih =>
    simp only [List.cons_append, steps, after, ih]

theorem since_concat (ends : Step α → Bool) (s : State) (events : List (Number × α))
    (now : Number) (a : α) :
    since perform ends s (events ++ [(now, a)]) =
      if ends ⟨after perform s events, now, a⟩ then []
      else ⟨after perform s events, now, a⟩ :: since perform ends s events := by
  rw [since, steps_concat, List.reverse_concat, List.takeWhile_cons]
  cases ends ⟨after perform s events, now, a⟩ <;> rfl

theorem after_invariant_of_steps {P : State → Prop} {s : State} {events : List (Number × α)}
    (hstep : ∀ x ∈ steps perform s events, P x.before → P (perform x.now x.before x.event))
    (hs : P s) : P (after perform s events) := by
  induction events generalizing s with
  | nil => exact hs
  | cons x events ih =>
    exact ih (fun y hy => hstep y (List.mem_cons_of_mem _ hy)) (hstep _ List.mem_cons_self hs)

theorem mem_of_mem_steps {s : State} {events : List (Number × α)} {x : Step α}
    (h : x ∈ steps perform s events) : (x.now, x.event) ∈ events := by
  induction events generalizing s with
  | nil => cases h
  | cons e events ih =>
    rcases List.mem_cons.1 h with rfl | h
    · exact List.mem_cons_self
    · exact List.mem_cons_of_mem _ (ih h)

theorem after_invariant_of_mem {P : State → Prop} {events : List (Number × α)}
    (hstep : ∀ x ∈ events, ∀ s, P s → P (perform x.1 s x.2)) {s : State} (hs : P s) :
    P (after perform s events) :=
  after_invariant_of_steps perform
    (fun x hx => hstep (x.now, x.event) (mem_of_mem_steps perform hx) x.before) hs

theorem after_invariant {P : State → Prop} (hstep : ∀ now s a, P s → P (perform now s a))
    {s : State} (hs : P s) (events : List (Number × α)) : P (after perform s events) :=
  after_invariant_of_mem perform (fun x _ s => hstep x.1 s x.2) hs

end Steps

/-- The state after some actions, the times of which need not rise. -/
def run (s : State) : List (Number × Action) → State
  | [] => s
  | (now, a) :: actions => (a.perform now s).run actions

theorem run_eq_after (s : State) (actions : List (Number × Action)) :
    s.run actions = after Action.perform s actions := by
  induction actions generalizing s with
  | nil => rfl
  | cons x actions ih => exact ih _

theorem run_append (s : State) (actions later : List (Number × Action)) :
    s.run (actions ++ later) = (s.run actions).run later := by
  simp only [run_eq_after, after_append]

theorem run_invariant {P : State → Prop} (hstep : ∀ now s a, P s → P (Action.perform now s a))
    {s : State} (hs : P s) (actions : List (Number × Action)) : P (s.run actions) := by
  rw [run_eq_after]
  exact after_invariant _ hstep hs actions

end State

end Calculator
