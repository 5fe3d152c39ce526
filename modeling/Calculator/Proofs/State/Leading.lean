import Calculator.Proofs.ResultText.Canonical
import Calculator.Proofs.State.Unmarked

/-! The first character of the expression over a run. The operator keys and the keyboard
enter a binary operator only behind something, but the key of a power enters its sign
always. An expression that starts with it holds no exponent, since whatever writes one
takes the place of the expression, so it has no value and stays out of the history. Main
statement: a binary operator is the first character just if the key of a power was
pressed on an empty expression, and it is the sign of a power that has been there since. -/

set_option autoImplicit false

namespace Calculator

theorem not_startsWithOperator_nil : ¬StartsWithOperator [] := by
  rintro ⟨op, -, h⟩
  cases h

theorem startsWithOperator_cons {c : Char} {cs : List Char} :
    StartsWithOperator (c :: cs) ↔ ∃ op : Operator, op ≠ .minus ∧ c = op.char := by
  simp only [StartsWithOperator, List.head?_cons, Option.some.injEq]

theorem startsWithOperator_append {cs : List Char} (h : cs ≠ []) (ds : List Char) :
    StartsWithOperator (cs ++ ds) ↔ StartsWithOperator cs := by
  simp only [StartsWithOperator, List.head?_append_of_ne_nil cs h]

theorem ne_char_of_isLiteralCharacter {c : Char} (h : isLiteralCharacter c = true)
    (op : Operator) : c ≠ op.char := by
  rintro rfl
  rw [isLiteralCharacter_char op] at h
  cases h

theorem Added.startsWithOperator {cs text : List Char} (h : Added cs text)
    (hstart : StartsWithOperator (cs ++ text)) : cs ≠ [] ∧ StartsWithOperator cs := by
  by_cases hcs : cs = []
  · exfalso
    subst hcs
    rw [List.nil_append] at hstart
    cases h with
    | literal c hc =>
      obtain ⟨op, -, hop⟩ := startsWithOperator_cons.1 hstart
      exact ne_char_of_isLiteralCharacter hc op hop
    | sign c hc =>
      obtain ⟨op, hminus, rfl⟩ := startsWithOperator_cons.1 hstart
      cases op <;> revert hc hminus <;> decide
    | operator op hop => exact hop rfl
    | constant text htext hlast =>
      obtain ⟨op, -, hop⟩ := hstart
      rcases htext with rfl | rfl <;> cases op <;> revert hop <;> decide
    | product text htext hlast => cases hlast
    | call f =>
      obtain ⟨op, -, hop⟩ := hstart
      cases f <;> cases op <;> revert hop <;> decide
  · exact ⟨hcs, (startsWithOperator_append hcs text).1 hstart⟩

theorem Number.not_startsWithOperator_resultText (x : Number) :
    ¬StartsWithOperator x.resultText := by
  rintro ⟨op, hop, hhead⟩
  have hplain (m : Magnitude) : m.resultText.head? ≠ some op.char := by
    intro hm
    obtain ⟨l, htext, -⟩ := m.exists_literal_reread
    obtain ⟨c, cs, hcs, hc⟩ := l.exists_text_eq_cons
    rw [← htext, hcs] at hm
    exact ne_char_of_isLiteralCharacter hc op (Option.some.inj hm)
  cases x with
  | nan => cases op <;> revert hhead <;> decide
  | infinite s => cases s <;> cases op <;> revert hhead hop <;> decide
  | finite s m =>
    rw [resultText_finite] at hhead
    split at hhead
    · cases op <;> revert hhead hop <;> simp [Operator.char]
    · exact hplain _ hhead

namespace State

/-- An expression that starts with a binary operator starts with the sign of a power and
has no exponent, and there is none in the history. -/
structure OnlyPowerLeads (s : State) : Prop where
  power : StartsWithOperator s.expression → s.expression.head? = some '^'
  unmarked : StartsWithOperator s.expression → Unmarked s.expression
  history : ∀ e ∈ s.history, ¬StartsWithOperator e.expression

theorem OnlyPowerLeads.of_isPrefix {s : State} (hs : s.OnlyPowerLeads) {text : List Char}
    (htext : text <+: s.expression) (hstart : StartsWithOperator text) :
    StartsWithOperator s.expression ∧ text.head? = some '^' ∧ Unmarked text := by
  have hne : text ≠ [] := by
    rintro rfl
    exact not_startsWithOperator_nil hstart
  obtain ⟨rest, hrest⟩ := htext
  have hbefore : StartsWithOperator s.expression := by
    rwa [← hrest, startsWithOperator_append hne]
  refine ⟨hbefore, ?_, (hs.unmarked hbefore).of_initial ⟨rest, hrest⟩⟩
  rw [← hs.power hbefore, ← hrest, List.head?_append_of_ne_nil _ hne]

theorem Revises.startsWithOperator {s : State} {op : Operation} {text : List Char}
    (h : s.Revises op text) (hs : s.OnlyPowerLeads) (hstart : StartsWithOperator text) :
    (StartsWithOperator s.expression ∨ op = .press .power ∧ s.expression = []) ∧
      text.head? = some '^' ∧ Unmarked text := by
  cases h with
  | added h =>
    obtain ⟨hne, hbefore⟩ := h.startsWithOperator hstart
    refine ⟨.inl hbefore, ?_, h.unmarked_append (hs.unmarked hbefore)⟩
    rw [List.head?_append_of_ne_nil _ hne]
    exact hs.power hbefore
  | power =>
    by_cases hne : s.expression = []
    · rw [hne]
      exact ⟨.inr ⟨rfl, rfl⟩, rfl, .singleton '^'⟩
    · have hbefore := (startsWithOperator_append hne _).1 hstart
      refine ⟨.inl hbefore, ?_, (hs.unmarked hbefore).concat rfl⟩
      rw [List.head?_append_of_ne_nil _ hne]
      exact hs.power hbefore
  | same h => exact (hs.of_isPrefix (h ▸ List.prefix_rfl) hstart).imp_left .inl
  | emptied => exact absurd hstart not_startsWithOperator_nil
  | deleted => exact (hs.of_isPrefix s.expression_delete_isPrefix hstart).imp_left .inl
  | reused h => exact absurd hstart (hs.history _ (List.mem_of_getElem? h))
  | total h hx => exact absurd hstart (Number.not_startsWithOperator_resultText _)
  | fetched => exact absurd hstart s.memory.not_startsWithOperator_resultText

theorem onlyPowerLeads_perform (now : Number) (s : State) (op : Operation)
    (hs : s.OnlyPowerLeads) : (op.perform now s).OnlyPowerLeads where
  power h := ((s.revises_perform now op).startsWithOperator hs h).2.1
  unmarked h := ((s.revises_perform now op).startsWithOperator hs h).2.2
  history e he := by
    rcases mem_history_perform he with he | ⟨he, x, hx⟩
    · exact hs.history e he
    · rw [he]
      intro hstart
      obtain ⟨f, hf⟩ := evaluateWith_of_startsWithOperator .double (hs.unmarked hstart) hstart
      rw [evaluate, hf] at hx
      cases hx

theorem onlyPowerLeads_load_none : (load none).OnlyPowerLeads where
  power h := absurd h not_startsWithOperator_nil
  unmarked h := absurd h not_startsWithOperator_nil
  history _ he := nomatch he

theorem onlyPowerLeads_after (ops : List (Number × Operation)) :
    (after Operation.perform (load none) ops).OnlyPowerLeads :=
  after_invariant _ onlyPowerLeads_perform onlyPowerLeads_load_none ops

/-- Whether, in a run, the key of a power was pressed on an empty expression and its sign
has been the first character of the expression since. -/
def PowerLeads (ops : List (Number × Operation)) : Prop :=
  ∃ front now rest, ops = front ++ (now, .press .power) :: rest ∧
    (after Operation.perform (load none) front).expression = [] ∧
    ∀ part, part <+: rest →
      (after Operation.perform (load none)
        (front ++ (now, .press .power) :: part)).expression.head? = some '^'

theorem PowerLeads.concat {ops : List (Number × Operation)} (h : PowerLeads ops)
    {x : Number × Operation}
    (hx : (after Operation.perform (load none) (ops ++ [x])).expression.head? = some '^') :
    PowerLeads (ops ++ [x]) := by
  obtain ⟨front, now, rest, rfl, hempty, hsince⟩ := h
  refine ⟨front, now, rest ++ [x], by simp, hempty, fun part hpart => ?_⟩
  rcases List.prefix_concat_iff.1 hpart with rfl | hpart
  · simpa using hx
  · exact hsince part hpart

theorem startsWithOperator_after_iff (ops : List (Number × Operation)) :
    StartsWithOperator (after Operation.perform (load none) ops).expression ↔
      PowerLeads ops := by
  constructor
  · induction ops using List.reverseRecOn with
    | nil => exact fun h => absurd h not_startsWithOperator_nil
    | append_singleton ops x ih =>
      intro hstart
      have hpower := (onlyPowerLeads_after (ops ++ [x])).power hstart
      obtain ⟨now, op⟩ := x
      have hstep := hstart
      rw [after_concat] at hstep
      obtain ⟨hbefore | ⟨rfl, hempty⟩, -⟩ :=
        (revises_perform now _ op).startsWithOperator (onlyPowerLeads_after ops) hstep
      · exact (ih hbefore).concat hpower
      · refine ⟨ops, now, [], rfl, hempty, fun part hpart => ?_⟩
        rw [List.prefix_nil.1 hpart]
        exact hpower
  · rintro ⟨front, now, rest, rfl, -, hsince⟩
    exact ⟨.power, by decide, hsince rest List.prefix_rfl⟩

/-- After every run the expression starts with a binary operator, other than the minus,
just if the key of a power was pressed on an empty expression and its sign has been first
since; no expression of the history starts with one. On an empty expression the key of a
power alone puts one at the start. -/
theorem startsWithOperator_after (ops : List (Number × Operation)) :
    let s := after Operation.perform (load none) ops
    (StartsWithOperator s.expression ↔ PowerLeads ops) ∧
      (∀ e ∈ s.history, ¬StartsWithOperator e.expression) ∧
      (s.expression = [] → ∀ now (op : Operation),
        StartsWithOperator (op.perform now s).expression ↔ op = .press .power) := by
  intro s
  have hs : s.OnlyPowerLeads := onlyPowerLeads_after ops
  refine ⟨startsWithOperator_after_iff ops, hs.history, fun hempty now op => ⟨fun hstart => ?_, ?_⟩⟩
  · obtain ⟨hbefore | ⟨hop, -⟩, -⟩ := (s.revises_perform now op).startsWithOperator hs hstart
    · rw [hempty] at hbefore
      exact absurd hbefore not_startsWithOperator_nil
    · exact hop
  · rintro rfl
    refine ⟨.power, by decide, ?_⟩
    show (s.expression ++ ['^']).head? = some '^'
    rw [hempty]
    rfl

def powerOfNothing : List (Number × Operation) :=
  [(.zero, .press .power), (.zero, .type '2')]

theorem startsWithOperator_after_powerOfNothing :
    (after Operation.perform (load none) powerOfNothing).expression = "^2".toList ∧
      PowerLeads powerOfNothing ∧ ¬PowerLeads (powerOfNothing ++ [(.zero, .press .clear)]) ∧
      ¬StartsWithOperator (Operation.perform .zero (load none) (.type '*')).expression := by
  have htext : (after Operation.perform (load none) powerOfNothing).expression =
      "^2".toList := by decide +kernel
  have hcleared : (after Operation.perform (load none)
      (powerOfNothing ++ [(.zero, .press .clear)])).expression = [] := by decide +kernel
  refine ⟨htext, (startsWithOperator_after powerOfNothing).1.1 ?_, fun h => ?_, fun hstart => ?_⟩
  · rw [htext]
    exact ⟨.power, by decide, rfl⟩
  · have hstart := (startsWithOperator_after (powerOfNothing ++ [(.zero, .press .clear)])).1.2 h
    rw [hcleared] at hstart
    exact not_startsWithOperator_nil hstart
  · cases ((startsWithOperator_after []).2.2 rfl .zero (.type '*')).1 hstart

/-- The key of a power puts its sign into an empty expression; typed, the sign is refused
there, as the multiplication key is. -/
theorem expression_after_power :
    (after Operation.perform (load none) [(.zero, .press .power)]).expression = "^".toList ∧
      (after Operation.perform (load none) [(.zero, .type '^')]).expression = [] ∧
      (after Operation.perform (load none) [(.zero, .press (.operator .times))]).expression = [] := by
  decide +kernel

end State

end Calculator
