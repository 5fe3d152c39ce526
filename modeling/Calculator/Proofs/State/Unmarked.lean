import Calculator.Proofs.Expression.Unmarked
import Calculator.Proofs.State.Expression

/-! Exponents over a run. A constant is multiplied with a digit or a point before it, so
no key puts an `e` directly behind one, and to cut an expression off or to take it back
from the history makes no new neighbours. Main statement: without an operation that
writes a number, no run makes the mark of an exponent in the expression or in the
history. -/

set_option autoImplicit false

namespace Calculator

theorem Added.unmarked_append {cs text : List Char} (h : Added cs text) (hcs : Unmarked cs) :
    Unmarked (cs ++ text) := by
  cases h with
  | literal c hc =>
    refine hcs.concat (isExponentLetter_of_isPlain ?_)
    rw [isPlain, hc, Bool.true_or]
  | sign c hc => exact hcs.concat (by rcases hc with rfl | rfl | rfl <;> rfl)
  | operator op hop => exact hcs.concat (by cases op <;> rfl)
  | constant text htext hlast =>
    have hsingle : Unmarked text := by rcases htext with rfl | rfl <;> exact .singleton _
    refine hcs.append hsingle fun c hc d _ hliteral => ?_
    rw [Option.mem_def.1 hc, Option.any_some, hliteral] at hlast
    cases hlast
  | product text htext hlast =>
    have hsingle : Unmarked text := by rcases htext with rfl | rfl <;> exact .singleton _
    exact hcs.append (.cons rfl hsingle) fun _ _ d hd _ => by cases hd; rfl
  | call f =>
    have hname : (f.name ++ ['(']).all (!Decimal.isExponentLetter ·) = true := by cases f <;> rfl
    exact hcs.append_of_forall fun c hc => by simpa using List.all_eq_true.1 hname c hc

namespace State

/-- Neither the expression nor one of the history has the mark of an exponent, nor will it
have one when digits are added. -/
structure AllUnmarked (s : State) : Prop where
  expression : Unmarked s.expression
  history : ∀ e ∈ s.history, Unmarked e.expression

theorem Revises.unmarked {s : State} {op : Operation} {text : List Char} (h : s.Revises op text)
    (hop : op.writesNumber = false) (hs : s.AllUnmarked) : Unmarked text := by
  cases h with
  | added h => exact h.unmarked_append hs.expression
  | power => exact hs.expression.concat rfl
  | same h => exact h ▸ hs.expression
  | emptied => exact .nil
  | deleted => exact hs.expression.of_initial s.expression_delete_isPrefix
  | reused h => exact hs.history _ (List.mem_of_getElem? h)
  | total h hx =>
    rw [hop] at h
    cases h
  | fetched => cases hop

theorem allUnmarked_perform {op : Operation} (hop : op.writesNumber = false) (now : Number)
    {s : State} (hs : s.AllUnmarked) : (op.perform now s).AllUnmarked where
  expression := (s.revises_perform now op).unmarked hop hs
  history e he := by
    rcases mem_history_perform he with he | ⟨he, -⟩
    · exact hs.history e he
    · rw [he]
      exact hs.expression

theorem allUnmarked_load_none : (load none).AllUnmarked := ⟨.nil, fun _ he => nomatch he⟩

/-- No run without an operation that writes a number makes the mark of an exponent, in
the expression or in the history. -/
theorem marksExponentAt_after {ops : List (Number × Operation)}
    (h : ∀ x ∈ ops, x.2.writesNumber = false) :
    let s := after Operation.perform (load none) ops
    (∀ i, marksExponentAt s.expression i = false) ∧
      ∀ e ∈ s.history, ∀ i, marksExponentAt e.expression i = false := by
  intro s
  have hs : s.AllUnmarked :=
    after_invariant_of_mem _ (fun x hx s => allUnmarked_perform (h x hx) x.1) allUnmarked_load_none
  exact ⟨hs.expression.marksExponentAt_eq_false,
    fun e he => (hs.history e he).marksExponentAt_eq_false⟩

def twiceEuler : List (Number × Operation) :=
  [.type '2', .press .euler, .press (.operator .minus), .type '1', .press .equals,
    .reuse 0, .press .delete, .press .delete, .type '5'].map fun op => (Number.zero, op)

theorem marksExponentAt_after_twiceEuler :
    let s := after Operation.perform (load none) twiceEuler
    s.expression = "2×e5".toList ∧ s.history.map Entry.expression = ["2×e-1".toList] ∧
      (∀ i, marksExponentAt s.expression i = false) ∧
      ∀ e ∈ s.history, ∀ i, marksExponentAt e.expression i = false := by
  intro s
  have hkeys : ∀ x ∈ twiceEuler, x.2.writesNumber = false := by decide
  exact ⟨by decide +kernel, by decide +kernel, marksExponentAt_after hkeys⟩

end State

end Calculator
