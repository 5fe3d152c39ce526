import Mathlib.Data.List.Chain
import Calculator.Evaluate
import Calculator.Proofs.Expression.Marks

set_option autoImplicit false

namespace Calculator

/-- Whether no letter of an exponent stands directly behind a digit or a point. -/
def Unmarked (cs : List Char) : Prop :=
  cs.IsChain fun c d => isLiteralCharacter c = true → Decimal.isExponentLetter d = false

namespace Unmarked

variable {cs ds : List Char} {c : Char} {previous : Option Char}

theorem append (hcs : Unmarked cs) (hds : Unmarked ds)
    (h : ∀ c ∈ cs.getLast?, ∀ d ∈ ds.head?,
      isLiteralCharacter c = true → Decimal.isExponentLetter d = false) : Unmarked (cs ++ ds) :=
  List.isChain_append.2 ⟨hcs, hds, h⟩

theorem of_append_left (h : Unmarked (cs ++ ds)) : Unmarked cs := (List.isChain_append.1 h).1

theorem of_append_right (h : Unmarked (cs ++ ds)) : Unmarked ds := (List.isChain_append.1 h).2.1

theorem of_initial (h : Unmarked ds) (hcs : cs <+: ds) : Unmarked cs := by
  obtain ⟨rest, rfl⟩ := hcs
  exact h.of_append_left

theorem of_final (h : Unmarked ds) (hcs : cs <:+ ds) : Unmarked cs := by
  obtain ⟨front, rfl⟩ := hcs
  exact h.of_append_right

theorem of_forall (h : ∀ c ∈ cs, Decimal.isExponentLetter c = false) : Unmarked cs := by
  induction cs with
  | nil => exact .nil
  | cons c cs ih =>
    refine List.IsChain.cons (ih fun d hd => h d (List.mem_cons_of_mem c hd)) fun d hd _ => ?_
    exact h d (List.mem_cons_of_mem c (List.mem_of_mem_head? hd))

theorem append_of_forall (hcs : Unmarked cs)
    (h : ∀ c ∈ ds, Decimal.isExponentLetter c = false) : Unmarked (cs ++ ds) :=
  hcs.append (of_forall h) fun _ _ d hd _ => h d (List.mem_of_mem_head? hd)

theorem concat (hcs : Unmarked cs) (h : Decimal.isExponentLetter c = false) :
    Unmarked (cs ++ [c]) :=
  hcs.append_of_forall fun d hd => by rw [List.mem_singleton.1 hd, h]

theorem cons (hc : isLiteralCharacter c = false) (h : Unmarked cs) : Unmarked (c :: cs) := by
  refine List.IsChain.cons h fun d _ hliteral => ?_
  rw [hc] at hliteral
  cases hliteral

theorem marksExponent_eq_false (h : Unmarked (previous.toList ++ cs)) :
    marksExponent previous cs = false := by
  cases cs with
  | nil => rfl
  | cons c after =>
    cases previous with
    | none => simp [marksExponent]
    | some p =>
      have hpair := (List.isChain_cons_cons.1 h).1
      by_cases hp : isLiteralCharacter p = true
      · simp [marksExponent, hpair hp]
      · simp [marksExponent, hp]

theorem marksExponentAt_eq_false (h : Unmarked cs) (i : Nat) : marksExponentAt cs i = false := by
  cases i with
  | zero => exact marksExponentAt_zero cs
  | succ i =>
    rw [marksExponentAt, if_neg (Nat.succ_ne_zero i), Nat.add_sub_cancel]
    refine marksExponent_eq_false ?_
    by_cases hi : i < cs.length
    · rw [List.getElem?_eq_getElem hi, Option.toList_some, List.singleton_append,
        ← List.drop_eq_getElem_cons hi]
      exact h.of_final (List.drop_suffix i cs)
    · rw [List.drop_eq_nil_of_le (by omega), List.append_nil]
      exact of_forall fun c hc => by simp [List.getElem?_eq_none (Nat.not_lt.1 hi)] at hc

theorem parenthesized {xs mid rest : List Char} (hxs : Unmarked xs)
    (hmid : ∀ c ∈ mid, Decimal.isExponentLetter c = false) (hrest : Unmarked (')' :: rest)) :
    Unmarked (xs ++ ('(' :: mid ++ ')' :: rest)) := by
  refine hxs.append (.cons rfl ?_) fun _ _ d hd _ => by cases hd; rfl
  refine (of_forall hmid).append hrest fun _ _ d hd _ => by cases hd; rfl

theorem isExponentLetter_of_onlyMarks (h : Unmarked (previous.toList ++ cs))
    (hmarks : OnlyMarks previous cs) (hc : c ∈ cs) : Decimal.isExponentLetter c = false := by
  induction cs generalizing previous with
  | nil => cases hc
  | cons d after ih =>
    rcases List.mem_cons.1 hc with rfl | hc
    · by_contra hletter
      rw [Bool.not_eq_false] at hletter
      have hmark := hmarks.1 (by rcases eq_of_isExponentLetter hletter with rfl | rfl <;> rfl)
      rw [h.marksExponent_eq_false] at hmark
      cases hmark
    · have hrest : Unmarked ((some d).toList ++ after) := h.of_append_right
      exact ih hrest hmarks.2 hc

end Unmarked

theorem Constants.unmarked_expandAfter {previous : Option Char} {cs : List Char}
    (h : Unmarked (previous.toList ++ cs)) :
    Unmarked (previous.toList ++ expandAfter previous cs) := by
  induction cs generalizing previous with
  | nil => exact h
  | cons c after ih =>
    have hafter : Unmarked ((some c).toList ++ after) := h.of_append_right
    have hrest := ih hafter
    have hbehind : Unmarked (')' :: expandAfter (some c) after) := .cons rfl hrest.of_append_right
    have hpi : ∀ c ∈ "3.141592653589793".toList, isPlain c = true := List.all_eq_true.1 rfl
    have heuler : ∀ c ∈ "2.718281828459045".toList, isPlain c = true := List.all_eq_true.1 rfl
    unfold expandAfter
    split
    · exact h.of_append_left.parenthesized (fun c hc => isExponentLetter_of_isPlain (hpi c hc)) hbehind
    · split
      · exact h.of_append_left.parenthesized (fun c hc => isExponentLetter_of_isPlain (heuler c hc)) hbehind
      · exact h.of_append_left.append hrest (List.isChain_append.1 h).2.2

theorem Calls.unmarked_expandAfter {A : Arithmetic} {depth : Nat} {previous : Option Char}
    {cs out : List Char} (h : Unmarked (previous.toList ++ cs))
    (hout : expandAfter A depth previous cs = .ok out) :
    Unmarked (previous.toList ++ out) := by
  induction depth, previous, cs using text_induction generalizing out with
  | done depth previous =>
    rw [expandAfter] at hout
    cases hout
    exact h
  | copy depth previous c after hc ih =>
    obtain ⟨rest, hrest, rfl⟩ := (expandAfter_copy_eq_ok hc).1 hout
    exact h.of_append_left.append (ih h.of_append_right hrest) (List.isChain_append.1 h).2.2
  | call depth previous c after halpha hmark ih =>
    obtain ⟨f, inside, behind, value, rest, hsplit, hvalue, hrest, rfl⟩ :=
      (expandAfter_splitCall_eq_ok halpha hmark).1 hout
    obtain ⟨_, _, heading, _, hcall⟩ := splitCall_eq_ok_iff.1 hsplit
    rw [hcall] at h
    have hbehind := (ih f inside behind hsplit).2
      h.of_append_right.of_append_right.of_append_right hrest
    have hplain (c : Char) (hc : c ∈ value.text) : Decimal.isExponentLetter c = false :=
      isExponentLetter_of_isPlain (Number.isPlain_of_mem (isFinite_of_callValue hvalue) hc)
    rw [List.append_assoc, List.singleton_append]
    exact h.of_append_left.parenthesized hplain hbehind

theorem Phrase.tokens_eq_cons {l : Level} (p : Phrase Number Empty l) :
    ∃ t tokens, p.tokens = t :: tokens ∧ ∀ op, t = .symbol (.binary op) → op = .minus := by
  induction p with
  | leaf x => exact ⟨_, _, rfl, fun op h => nomatch h⟩
  | group e ih => exact ⟨_, _, rfl, fun op h => nomatch h⟩
  | call f e ih => exact f.elim
  | atom a ih => exact ih
  | power a u ha hu =>
    obtain ⟨t, tokens, htokens, ht⟩ := ha
    exact ⟨t, _, congrArg (· ++ .symbol (.binary .power) :: u.tokens) htokens, ht⟩
  | unsigned p ih => exact ih
  | negative u ih => exact ⟨_, _, rfl, fun op h => by cases h; rfl⟩
  | factor u ih => exact ih
  | product t op h u ht hu =>
    obtain ⟨first, tokens, htokens, hfirst⟩ := ht
    exact ⟨first, _, congrArg (· ++ .symbol (.binary op) :: u.tokens) htokens, hfirst⟩
  | term t ih => exact ih
  | sum e op h t he ht =>
    obtain ⟨first, tokens, htokens, hfirst⟩ := he
    exact ⟨first, _, congrArg (· ++ .symbol (.binary op) :: t.tokens) htokens, hfirst⟩

/-- Without an exponent all values of a text are apart, so one with a value is spelled by
an expression. -/
theorem infixValue_of_operator (A : Arithmetic) {op : Operator} (hop : op ≠ .minus)
    {rest : List Char} (h : ∀ c ∈ op.char :: rest, Decimal.isExponentLetter c = false) :
    ∃ f, infixValue A (op.char :: rest) = .error f := by
  cases hvalue : infixValue A (op.char :: rest) with
  | error f => exact ⟨f, rfl⟩
  | ok x =>
    obtain ⟨tokens, htokens, hphrase⟩ := exists_phrase_iff_not_juxtaposed hvalue
    have hblank : isBlank op.char = false := isBlank_of_isPlain (by cases op <;> rfl)
    have hpoint : ¬PointBehindExponent (withoutBlanks (op.char :: rest)) :=
      not_pointBehindExponent fun c hc => h c (List.mem_of_mem_filter hc)
    have happart : ¬Token.Juxtaposed tokens := by
      have hjuxtaposed := Token.juxtaposed_scan htokens
      simp only [reduceCtorEq, exists_false, false_and, false_or, Option.toList_none,
        List.nil_append] at hjuxtaposed
      rwa [hjuxtaposed]
    obtain ⟨p, rfl⟩ := hphrase.2 happart
    obtain ⟨t, tail, hp, ht⟩ := p.tokens_eq_cons
    rw [tokenize, withoutBlanks_keep hblank, Token.scan_operator, Fault.map_eq_ok] at htokens
    obtain ⟨tokens, -, htokens⟩ := htokens
    rw [hp] at htokens
    exact absurd (ht op (List.cons.inj htokens).1.symm) hop

/-- Whether a text starts with a binary operator, other than the minus that is a sign. -/
def StartsWithOperator (cs : List Char) : Prop :=
  ∃ op : Operator, op ≠ .minus ∧ cs.head? = some op.char

theorem evaluateWith_of_startsWithOperator (A : Arithmetic) {cs : List Char}
    (h : Unmarked cs) (hstart : StartsWithOperator cs) : ∃ f, evaluateWith A cs = .error f := by
  obtain ⟨op, hop, hhead⟩ := hstart
  obtain ⟨after, rfl⟩ := List.head?_eq_some_iff.1 hhead
  have hne : op.char ≠ 'π' ∧ op.char ≠ 'e' := by cases op <;> decide
  have halpha : op.char.isAlpha = false := by cases op <;> rfl
  cases hout : Calls.expand A (Constants.expand (op.char :: after)) with
  | error f => exact ⟨f, by rw [evaluateWith, hout, Fault.error_bind]⟩
  | ok out =>
    have hwritten : Unmarked (Constants.expand (op.char :: after)) :=
      @Constants.unmarked_expandAfter none _ h
    have hunmarked : Unmarked out := @Calls.unmarked_expandAfter A 0 none _ out hwritten hout
    have hletters (c : Char) (hc : c ∈ out) : Decimal.isExponentLetter c = false :=
      @Unmarked.isExponentLetter_of_onlyMarks out c none hunmarked
        (Calls.onlyMarks_expandAfter hout) hc
    -- neither pass changes the operator
    have hfirst := hout
    rw [Constants.expand, Constants.expandAfter_copy hne.1 fun he => absurd he hne.2,
      Calls.expand, Calls.expandAfter_copy_eq_ok (.inl halpha)] at hfirst
    obtain ⟨rest, -, rfl⟩ := hfirst
    obtain ⟨f, hf⟩ := infixValue_of_operator A hop hletters
    exact ⟨f, by rw [evaluateWith, hout, Fault.ok_bind, hf, Fault.error_bind]⟩

end Calculator
