import Calculator.Proofs.Expression.Piece
import Calculator.Proofs.State.Expression

/-! The key that deletes, over a run. An expression of pieces loses its last piece, whether
that is a sign or a whole call. Main statement: as long as no infinity and no `nan` is
fetched from the memory, the expression is one of pieces, in one way only, and the key takes
the last of them away each time. -/

set_option autoImplicit false

namespace Calculator

theorem Added.spelled {cs text : List Char} (h : Added cs text) : Spelled text := by
  cases h with
  | literal c hc =>
    refine .of_text (.sign c ?_)
    rw [isLiteralCharacter, Bool.or_eq_true, beq_iff_eq] at hc
    rcases hc with hc | rfl
    · exact isPieceSign_of_isDigit hc
    · rfl
  | sign c hc => rcases hc with rfl | rfl | rfl <;> exact .of_all rfl
  | operator op hop => cases op <;> exact .of_all rfl
  | constant text htext hlast => rcases htext with rfl | rfl <;> exact .of_all rfl
  | product text htext hlast => rcases htext with rfl | rfl <;> exact .of_all rfl
  | call f => exact .of_text (.call f)

namespace State

theorem stripSuffix?_eq_some_iff {suffix text rest : List Char} :
    stripSuffix? suffix text = some rest ↔ text = rest ++ suffix := by
  unfold stripSuffix?
  constructor
  · intro h
    split at h
    next hsuffix =>
      cases h
      exact (List.suffix_iff_eq_append.1 (List.isSuffixOf_iff_suffix.1 hsuffix)).symm
    next => cases h
  · rintro rfl
    rw [if_pos (List.isSuffixOf_iff_suffix.2 (List.suffix_append rest suffix)), List.length_append,
      Nat.add_sub_cancel, List.take_left]

theorem delete_eq {s : State} {ps : List Piece} (h : Piece.spell ps = s.expression) :
    s.delete = { s with expression := Piece.spell ps.dropLast } := by
  unfold delete
  split
  next rest hrest =>
    obtain ⟨f, -, hf⟩ := List.exists_of_findSome?_eq_some hrest
    rw [stripSuffix?_eq_some_iff, ← h] at hf
    obtain ⟨qs, rfl, rfl⟩ := Piece.exists_of_spell_eq_call hf
    rw [List.dropLast_concat]
  next hnone =>
    obtain rfl | ⟨qs, p, rfl⟩ := List.eq_nil_or_concat' ps
    · rw [← h]
      rfl
    · rw [Piece.spell_concat] at h
      cases p with
      | sign c hc => rw [← h, Piece.text, List.dropLast_concat, List.dropLast_concat]
      | call f =>
        have hsome : stripSuffix? (f.name ++ ['(']) s.expression = some (Piece.spell qs) :=
          stripSuffix?_eq_some_iff.2 h.symm
        rw [List.findSome?_eq_none_iff.1 hnone f f.mem_all] at hsome
        cases hsome

theorem iterate_delete_eq {s : State} {ps : List Piece} (h : Piece.spell ps = s.expression)
    (n : Nat) :
    delete^[n] s = { s with expression := Piece.spell (ps.take (ps.length - n)) } := by
  induction n with
  | zero =>
    rw [Nat.sub_zero, List.take_length, h]
    rfl
  | succ n ih =>
    have hdrop : (ps.take (ps.length - n)).dropLast = ps.take (ps.length - (n + 1)) := by
      rw [List.dropLast_eq_take, List.length_take, List.take_take]
      congr 1
      omega
    rw [Function.iterate_succ_apply', ih, delete_eq rfl, hdrop]

structure AllSpelled (s : State) : Prop where
  expression : Spelled s.expression
  history : ∀ e ∈ s.history, Spelled e.expression

/-- Only a number that is fetched can be other than finite. -/
theorem Revises.spelled {s : State} {op : Operation} {text : List Char} (h : s.Revises op text)
    (hfetch : op = .memory .fetch → s.memory.isFinite = true) (hs : s.AllSpelled) :
    Spelled text := by
  cases h with
  | added h => exact hs.expression.append h.spelled
  | power => exact hs.expression.append (.of_all rfl)
  | same h => exact h ▸ hs.expression
  | emptied => exact .nil
  | deleted =>
    obtain ⟨ps, hps⟩ := hs.expression
    rw [delete_eq hps]
    exact ⟨ps.dropLast, rfl⟩
  | reused h => exact hs.history _ (List.mem_of_getElem? h)
  | total h hx => exact Number.spelled_resultText hx
  | fetched => exact Number.spelled_resultText (hfetch rfl)

theorem allSpelled_perform {op : Operation} {now : Number} {s : State}
    (hfetch : op = .memory .fetch → s.memory.isFinite = true) (hs : s.AllSpelled) :
    (op.perform now s).AllSpelled where
  expression := (s.revises_perform now op).spelled hfetch hs
  history e he := by
    rcases mem_history_perform he with he | ⟨he, -⟩
    · exact hs.history e he
    · rw [he]
      exact hs.expression

theorem allSpelled_load_none : (load none).AllSpelled := ⟨.nil, fun _ he => nomatch he⟩

/-- In a run in which the memory is finite whenever it is fetched, the expression is a list
of pieces, in one way only, and each press of the key that deletes takes the last piece
away and touches nothing else. So the expression is empty just after as many presses as it
has pieces. -/
theorem delete_after {ops : List (Number × Operation)}
    (h : ∀ x ∈ steps Operation.perform (load none) ops,
      x.event = .memory .fetch → x.before.memory.isFinite = true) :
    let s := after Operation.perform (load none) ops
    ∃ ps : List Piece, Piece.spell ps = s.expression ∧
      (∀ qs : List Piece, Piece.spell qs = s.expression → qs = ps) ∧
      (∀ now, Operation.perform now s (.press .delete) =
        { s with expression := Piece.spell ps.dropLast }) ∧
      ∀ n, delete^[n] s = { s with expression := Piece.spell (ps.take (ps.length - n)) } ∧
        ((delete^[n] s).expression = [] ↔ ps.length ≤ n) := by
  intro s
  have hs : s.AllSpelled :=
    after_invariant_of_steps _ (fun x hx => allSpelled_perform (h x hx)) allSpelled_load_none
  obtain ⟨ps, hps⟩ := hs.expression
  refine ⟨ps, hps, fun qs hqs => Piece.spell_injective (hqs.trans hps.symm),
    fun now => delete_eq hps, fun n => ⟨iterate_delete_eq hps n, ?_⟩⟩
  rw [iterate_delete_eq hps n, Piece.spell_eq_nil_iff, List.take_eq_nil_iff]
  constructor
  · rintro (hlength | rfl)
    · exact Nat.sub_eq_zero_iff_le.1 hlength
    · exact Nat.zero_le n
  · exact fun hle => .inl (Nat.sub_eq_zero_of_le hle)

/-- A ten-millionth is added to the memory and fetched, which writes it with an exponent;
then it is multiplied with a root, in which a parenthesis is opened. -/
def fetchedAndMultiplied : List (Number × Operation) :=
  ".0000001".toList.map (fun c => (.zero, .type c)) ++
    [(.zero, .memory .add), (.zero, .memory .fetch), (.zero, .press (.operator .times)),
      (.zero, .press (.function (.elementary .sqrt))), (.zero, .press .opening)]

theorem delete_after_fetchedAndMultiplied :
    let s := after Operation.perform (load none) fetchedAndMultiplied
    s.expression = "1.000000e-7×sqrt((".toList ∧
      (delete^[1] s).expression = "1.000000e-7×sqrt(".toList ∧
      (delete^[2] s).expression = "1.000000e-7×".toList ∧
      ∃ ps : List Piece, Piece.spell ps = s.expression ∧
        ∀ n, (delete^[n] s).expression = [] ↔ ps.length ≤ n := by
  intro s
  have hfinite : ∀ x ∈ steps Operation.perform (load none) fetchedAndMultiplied,
      x.event = .memory .fetch → x.before.memory.isFinite = true := by decide +kernel
  obtain ⟨ps, hps, -, -, hdelete⟩ := delete_after hfinite
  exact ⟨by decide +kernel, by decide +kernel, by decide +kernel, ps, hps, fun n => (hdelete n).2⟩

end State

end Calculator
