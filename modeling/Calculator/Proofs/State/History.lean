import Mathlib.Data.List.Induction
import Calculator.Proofs.State.Kept
import Calculator.Saved.Text

/-! The history over a run. The log of a run holds an entry for every calculation since
the history was last cleared, the newest first, and has no limit. Main statement: the
history is the front of the log, every entry in it is a calculation that can be made
again, and nothing but a calculation and a confirmed request changes it. -/

set_option autoImplicit false

namespace Calculator

/-- An expression with a value, and the text of the value. -/
def Entry.IsCalculation (e : Entry) : Prop :=
  e.expression ≠ [] ∧ ∃ x, evaluate e.expression = .ok x ∧ e.result = x.resultText

def State.entry? (s : State) : Option Entry :=
  if s.expression = [] then none
  else
    match evaluate s.expression with
    | .ok x => some ⟨s.expression, x.resultText⟩
    | .error _ => none

namespace Step

def entry? (x : Step Action) : Option Entry :=
  if x.event = .operation (.press .equals) then x.before.entry? else none

/-- A request to clear a history that has entries, after one that armed it. -/
def clearsHistory (x : Step Action) : Bool :=
  x.event = .operation .requestClear ∧ x.before.clearArmed = true ∧ x.before.history ≠ []

theorem clearsHistory_iff {x : Step Action} :
    x.clearsHistory = true ↔
      x.event = .operation .requestClear ∧ x.before.clearArmed = true ∧ x.before.history ≠ [] :=
  decide_eq_true_iff

end Step

namespace State

theorem isCalculation_of_entry? {s : State} {e : Entry} (h : s.entry? = some e) :
    e.IsCalculation := by
  unfold entry? at h
  split at h
  · cases h
  · rename_i hne
    split at h
    · rename_i x hx
      injection h with h
      subst h
      exact ⟨hne, x, hx, rfl⟩
    · cases h

theorem expression_of_entry? {s : State} {e : Entry} (h : s.entry? = some e) :
    e.expression = s.expression := by
  unfold entry? at h
  split at h
  · cases h
  · split at h
    · cases h
      rfl
    · cases h

theorem keeps_calculate {s : State} (h : s.entry? = none) (now : Number) :
    s.Keeps (s.calculate now) := by
  unfold entry? at h
  split at h
  · rename_i hempty
    rw [calculate, if_pos hempty]
    exact .refl s
  · split at h
    · cases h
    · rename_i f hf
      exact keeps_calculate_of_error hf now

theorem history_calculate {s : State} {e : Entry} (h : s.entry? = some e) (now : Number) :
    (s.calculate now).history = (e :: s.history).take historyLimit := by
  unfold entry? at h
  split at h
  · cases h
  · rename_i hne
    split at h
    · rename_i x hx
      injection h with h
      rw [calculate, if_neg hne, hx, ← h]
      rfl
    · cases h

theorem history_reuse (index : Nat) (s : State) : (s.reuse index).history = s.history := by
  unfold reuse
  split <;> rfl

theorem history_requestClear_of_armed {s : State} (harmed : s.clearArmed = true) :
    s.requestClear.history = [] := by
  unfold requestClear
  split
  · exact List.isEmpty_iff.1 ‹_›
  · rfl

theorem history_requestClear_of_not_armed {s : State} (harmed : s.clearArmed = false) :
    s.requestClear.history = s.history := by
  unfold requestClear
  split
  · rfl
  · rw [if_neg (by rw [harmed]; decide)]

theorem history_perform_of_clears {now : Number} {s : State} {a : Action}
    (h : Step.clearsHistory ⟨s, now, a⟩ = true) : (a.perform now s).history = [] := by
  obtain ⟨ha, harmed, -⟩ := Step.clearsHistory_iff.1 h
  subst ha
  exact history_requestClear_of_armed harmed

theorem history_perform_of_entry {now : Number} {s : State} {a : Action} {e : Entry}
    (h : Step.entry? ⟨s, now, a⟩ = some e) :
    (a.perform now s).history = (e :: s.history).take historyLimit := by
  unfold Step.entry? at h
  split at h
  · rename_i ha
    dsimp only at ha
    subst ha
    exact history_calculate h now
  · cases h

theorem history_perform_of_neither {now : Number} {s : State} {a : Action}
    (hclears : Step.clearsHistory ⟨s, now, a⟩ = false) (hentry : Step.entry? ⟨s, now, a⟩ = none) :
    (a.perform now s).history = s.history := by
  cases hquiet : a.isQuiet with
  | true => exact (keeps_perform hquiet now s).history
  | false =>
    unfold Action.isQuiet at hquiet
    split at hquiet
    · exact (keeps_calculate hentry now).history
    · exact (keeps_useMemory_with_memory _ now s).history
    · exact history_reuse _ s
    · cases harmed : s.clearArmed with
      | false => exact history_requestClear_of_not_armed harmed
      | true =>
        by_cases hempty : s.history = []
        · rw [hempty]
          exact history_requestClear_of_armed harmed
        · rw [Step.clearsHistory_iff.2 ⟨rfl, harmed, hempty⟩] at hclears
          cases hclears
    · rfl
    · cases hquiet

theorem length_history_perform_le {now : Number} {s : State} (a : Action)
    (h : s.history.length ≤ historyLimit) :
    (a.perform now s).history.length ≤ historyLimit := by
  cases hclears : Step.clearsHistory ⟨s, now, a⟩ with
  | true =>
    rw [history_perform_of_clears hclears]
    exact Nat.zero_le _
  | false =>
    cases hentry : Step.entry? ⟨s, now, a⟩ with
    | none =>
      rw [history_perform_of_neither hclears hentry]
      exact h
    | some e =>
      rw [history_perform_of_entry hentry]
      exact List.length_take_le _ _

theorem length_history_load_le (stored : Option (List Char)) :
    (load stored).history.length ≤ historyLimit := by
  unfold load
  split
  · exact List.length_take_le _ _
  · exact Nat.zero_le _

/-- An entry pushed out by the limit does not come back. -/
theorem take_append_take (added es : List Entry) :
    (added ++ es.take historyLimit).take historyLimit = (added ++ es).take historyLimit := by
  rw [List.take_append, List.take_append, List.take_take,
    Nat.min_eq_left (Nat.sub_le historyLimit added.length)]

end State

end Calculator
