import Mathlib.Data.List.Count
import Mathlib.Data.List.Induction
import Calculator.Proofs.ReversePolish.Acceptance

/-! What becomes of the tokens in a conversion. It is told here as a loop: each token acts
on what has been written, on the operators that wait, and on whether a value is expected;
an operator that the table of bindings does not have would be refused. Main statement: the
conversion succeeds just if the parentheses match, and it neither loses nor repeats
anything; a prefix minus becomes a negation, and the parentheses go. -/

set_option autoImplicit false

namespace Calculator

namespace Token

def number? : Token → Option Number
  | .number x => some x
  | .symbol _ => none

def numbers (tokens : List Token) : List Number := tokens.filterMap number?

def Matched (tokens : List Token) : Prop :=
  (∀ front, front <+: tokens →
    front.count (.symbol .closing) ≤ front.count (.symbol .opening)) ∧
  tokens.count (.symbol .closing) = tokens.count (.symbol .opening)

@[simp]
theorem numbers_append (xs ys : List Token) : numbers (xs ++ ys) = numbers xs ++ numbers ys :=
  List.filterMap_append

@[simp]
theorem numbers_symbol (s : Symbol) : numbers [.symbol s] = [] := rfl

@[simp]
theorem numbers_map_symbol (ss : List Symbol) : numbers (ss.map .symbol) = [] := by
  induction ss with
  | nil => rfl
  | cons s ss ih => exact ih

@[simp]
theorem count_map_symbol (ss : List Symbol) (s : Symbol) :
    (ss.map Token.symbol).count (.symbol s) = ss.count s :=
  List.count_map_of_injective ss _ (fun _ _ => symbol.inj) s

end Token

namespace ReversePolish

inductive Refusal
  | fault (f : Fault)
  | unknownOperator (s : Symbol)

theorem Refusal.bind_eq_ok {α β : Type} {x : Except Refusal α} {f : α → Except Refusal β} {b : β} :
    (x >>= f) = .ok b ↔ ∃ a, x = .ok a ∧ f a = .ok b := by
  cases x <;> simp [bind, Except.bind]

/-- A conversion under way. -/
structure Conversion where
  out : List Token
  stack : List Symbol
  expectsValue : Bool

namespace Conversion

def start : Conversion := ⟨[], [], true⟩

def read (c : Conversion) : Token → Except Refusal Conversion
  | .number x => .ok ⟨c.out ++ [.number x], c.stack, false⟩
  | .symbol .opening => .ok ⟨c.out, .opening :: c.stack, true⟩
  | .symbol .closing =>
    match releaseToOpening c.stack with
    | none => .error (.fault .closingWithoutOpening)
    | some (popped, left) => .ok ⟨c.out ++ popped, left, false⟩
  | .symbol s =>
    if s = .negate ∨ s = .binary .minus ∧ c.expectsValue = true then
      .ok ⟨c.out, .negate :: c.stack, c.expectsValue⟩
    else
      match s.binding? with
      | none => .error (.unknownOperator s)
      | some b =>
        let (popped, left) := release b c.stack
        .ok ⟨c.out ++ popped, s :: left, true⟩

def finish (c : Conversion) : Except Refusal (List Token) :=
  match releaseAll c.stack with
  | .error f => .error (.fault f)
  | .ok popped => .ok (c.out ++ popped)

def readAll (c : Conversion) (tokens : List Token) : Except Refusal Conversion :=
  tokens.foldlM read c

def ofTokens (tokens : List Token) : Except Refusal (List Token) := do
  let c ← start.readAll tokens
  c.finish

/-- What the recursion over the tokens makes of the rest of them. -/
def convertRest (c : Conversion) (tokens : List Token) : Except Refusal (List Token) :=
  ((convert c.expectsValue c.stack tokens).map (c.out ++ ·)).mapError .fault

theorem finish_eq (c : Conversion) : c.finish = c.convertRest [] := by
  rw [finish, convertRest, convert]
  cases releaseAll c.stack <;> rfl

theorem convertRest_cons (c : Conversion) (t : Token) (tokens : List Token) :
    c.convertRest (t :: tokens) = c.read t >>= fun d => d.convertRest tokens := by
  obtain ⟨out, stack, expects⟩ := c
  cases t with
  | number x =>
    simp only [convertRest, convert_number, map_map_append]
    rfl
  | symbol s =>
    cases s with
    | opening => rfl
    | negate => rfl
    | closing =>
      cases hstack : releaseToOpening stack with
      | none => simp only [convertRest, convert, read, hstack]; rfl
      | some parts =>
        obtain ⟨popped, left⟩ := parts
        simp only [convertRest, convert_closing _ hstack, map_map_append, read, hstack]
        rfl
    | binary op =>
      by_cases hminus : op = .minus ∧ expects = true
      · obtain ⟨rfl, rfl⟩ := hminus
        simp only [convertRest, convert_minus]
        rfl
      · have hsign : ¬(Symbol.binary op = .negate ∨ Symbol.binary op = .binary .minus ∧
            expects = true) := by simpa using hminus
        simp only [convertRest, convert_operator hminus rfl, map_map_append, read, if_neg hsign,
          Symbol.binding?]
        rfl

theorem readAll_bind_finish (c : Conversion) (tokens : List Token) :
    (c.readAll tokens >>= finish) = c.convertRest tokens := by
  induction tokens generalizing c with
  | nil => exact c.finish_eq
  | cons t tokens ih =>
    rw [convertRest_cons, readAll, List.foldlM_cons, bind_assoc]
    exact bind_congr fun d => ih d

theorem ofTokens_eq (tokens : List Token) :
    ofTokens tokens = (ReversePolish.ofTokens tokens).mapError .fault := by
  rw [ofTokens, readAll_bind_finish, convertRest, ReversePolish.ofTokens]
  show ((convert true [] tokens).map ([] ++ ·)).mapError Refusal.fault = _
  cases convert true [] tokens <;> rfl

/-- All that reading a token can do. -/
inductive Reads : Conversion → Token → Conversion → Prop
  | number (c : Conversion) (x : Number) :
    Reads c (.number x) ⟨c.out ++ [.number x], c.stack, false⟩
  | opening (c : Conversion) : Reads c (.symbol .opening) ⟨c.out, .opening :: c.stack, true⟩
  | closing {out : List Token} {popped left : List Symbol} {expects : Bool}
    (h : .opening ∉ popped) :
    Reads ⟨out, popped ++ .opening :: left, expects⟩ (.symbol .closing)
      ⟨out ++ popped.map .symbol, left, false⟩
  | sign (c : Conversion) {s : Symbol} (h : s = .negate ∨ s = .binary .minus) :
    Reads c (.symbol s) ⟨c.out, .negate :: c.stack, c.expectsValue⟩
  | binary {out : List Token} {popped left : List Symbol} {expects : Bool} (op : Operator)
    (h : .opening ∉ popped) :
    Reads ⟨out, popped ++ left, expects⟩ (.symbol (.binary op))
      ⟨out ++ popped.map .symbol, .binary op :: left, true⟩

theorem reads_of_read {c d : Conversion} {t : Token} (h : c.read t = .ok d) : Reads c t d := by
  obtain ⟨out, stack, expects⟩ := c
  cases t with
  | number x =>
    cases h
    exact .number _ x
  | symbol s =>
    cases s with
    | opening =>
      cases h
      exact .opening _
    | negate =>
      cases h
      exact .sign _ (.inl rfl)
    | closing =>
      by_cases hopening : .opening ∈ stack
      · obtain ⟨popped, left, rfl, hpopped⟩ := List.eq_append_cons_of_mem hopening
        simp only [read, releaseToOpening_append hpopped] at h
        cases h
        exact .closing hpopped
      · simp only [read, releaseToOpening_of_not_mem hopening] at h
        cases h
    | binary op =>
      simp only [read] at h
      split at h
      · rename_i hsign
        cases h
        exact .sign _ (hsign.imp_right And.left)
      · obtain ⟨popped, hopening, hstack, hout⟩ := exists_release op.binding stack
        simp only [Symbol.binding?, hout] at h
        cases h
        conv => arg 1; rw [hstack]
        exact .binary op hopening

/-- How often a symbol is written or waits. -/
def held (out : List Token) (stack : List Symbol) (s : Symbol) : Nat :=
  out.count (.symbol s) + stack.count s

@[simp]
theorem held_number (out : List Token) (x : Number) (stack : List Symbol) (s : Symbol) :
    held (out ++ [.number x]) stack s = held out stack s := by
  simp [held]

@[simp]
theorem held_push (out : List Token) (s' : Symbol) (stack : List Symbol) (s : Symbol) :
    held out (s' :: stack) s = held out stack s + [s'].count s := by
  simp [held, List.count_cons]
  omega

theorem held_pop (out : List Token) (popped left : List Symbol) (s : Symbol) :
    held (out ++ popped.map .symbol) left s = held out (popped ++ left) s := by
  simp [held]
  omega

/-- What a conversion has kept of the tokens read so far. -/
structure Keeps (front : List Token) (c : Conversion) : Prop where
  numbers : Token.numbers c.out = Token.numbers front
  operator : ∀ op, op ≠ .minus →
    held c.out c.stack (.binary op) = front.count (.symbol (.binary op))
  signs : held c.out c.stack (.binary .minus) + held c.out c.stack .negate =
    front.count (.symbol (.binary .minus)) + front.count (.symbol .negate)
  negations : front.count (.symbol .negate) ≤ held c.out c.stack .negate
  opening : .symbol .opening ∉ c.out
  closing : held c.out c.stack .closing = 0
  depth : held c.out c.stack .opening + front.count (.symbol .closing) =
    front.count (.symbol .opening)

theorem keeps_start : Keeps [] start := by
  constructor <;> simp [start, held]

namespace Keeps

variable {front out : List Token} {stack popped left : List Symbol} {expects : Bool}

theorem read_number (h : Keeps front ⟨out, stack, expects⟩) (x : Number) (next : Bool) :
    Keeps (front ++ [.number x]) ⟨out ++ [.number x], stack, next⟩ where
  numbers := by simp [h.numbers]
  operator op hop := by simp [h.operator op hop]
  signs := by simp [h.signs]
  negations := by simp [h.negations]
  opening := by simp [h.opening]
  closing := by simp [h.closing]
  depth := by simp [h.depth]

theorem pop (h : Keeps front ⟨out, popped ++ left, expects⟩) (hpopped : .opening ∉ popped)
    (next : Bool) : Keeps front ⟨out ++ popped.map .symbol, left, next⟩ where
  numbers := by simp [h.numbers]
  operator op hop := by rw [held_pop, h.operator op hop]
  signs := by rw [held_pop, held_pop, h.signs]
  negations := by rw [held_pop]; exact h.negations
  opening := by simpa using ⟨h.opening, hpopped⟩
  closing := by rw [held_pop, h.closing]
  depth := by rw [held_pop, h.depth]

theorem read_opening (h : Keeps front ⟨out, stack, expects⟩) (next : Bool) :
    Keeps (front ++ [.symbol .opening]) ⟨out, .opening :: stack, next⟩ where
  numbers := by simp [h.numbers]
  operator op hop := by simp [h.operator op hop]
  signs := by simp [h.signs]
  negations := by simp [h.negations]
  opening := h.opening
  closing := by simp [h.closing]
  depth := by
    have := h.depth
    simp at *
    omega

theorem read_closing (h : Keeps front ⟨out, .opening :: stack, expects⟩) (next : Bool) :
    Keeps (front ++ [.symbol .closing]) ⟨out, stack, next⟩ where
  numbers := by simp [h.numbers]
  operator op hop := by simpa using h.operator op hop
  signs := by simpa using h.signs
  negations := by simpa using h.negations
  opening := h.opening
  closing := by simpa using h.closing
  depth := by
    have := h.depth
    simp at *
    omega

theorem read_operator (h : Keeps front ⟨out, stack, expects⟩) (op : Operator) (next : Bool) :
    Keeps (front ++ [.symbol (.binary op)]) ⟨out, .binary op :: stack, next⟩ where
  numbers := by simp [h.numbers]
  operator op' hop := by simp [h.operator op' hop, List.count_singleton]
  signs := by
    have := h.signs
    simp [List.count_singleton] at *
    omega
  negations := by simpa using h.negations
  opening := h.opening
  closing := by simpa using h.closing
  depth := by simpa using h.depth

theorem read_sign (h : Keeps front ⟨out, stack, expects⟩) {s : Symbol}
    (hs : s = .negate ∨ s = .binary .minus) (next : Bool) :
    Keeps (front ++ [.symbol s]) ⟨out, .negate :: stack, next⟩ where
  numbers := by simp [h.numbers]
  operator op hop := by
    rcases hs with rfl | rfl <;> simp [h.operator op hop, Ne.symm hop]
  signs := by
    have := h.signs
    rcases hs with rfl | rfl <;> simp at * <;> omega
  negations := by
    have := h.negations
    rcases hs with rfl | rfl <;> simp at * <;> omega
  opening := h.opening
  closing := by simpa using h.closing
  depth := by
    rcases hs with rfl | rfl <;> simpa using h.depth

theorem read {c d : Conversion} {t : Token} (h : Keeps front c) (hread : Reads c t d) :
    Keeps (front ++ [t]) d := by
  cases hread with
  | number c x => exact h.read_number x false
  | opening c => exact h.read_opening true
  | closing hpopped => exact (h.pop hpopped false).read_closing false
  | sign c hs => exact h.read_sign hs c.expectsValue
  | binary op hpopped => exact (h.pop hpopped true).read_operator op true

end Keeps

theorem readAll_concat_eq_ok {c d : Conversion} {front : List Token} {t : Token} :
    c.readAll (front ++ [t]) = .ok d ↔ ∃ b, c.readAll front = .ok b ∧ b.read t = .ok d := by
  rw [readAll, List.foldlM_append, Refusal.bind_eq_ok]
  simp [readAll]

theorem keeps_readAll {front : List Token} {c : Conversion} (h : start.readAll front = .ok c) :
    Keeps front c := by
  induction front using List.reverseRecOn generalizing c with
  | nil =>
    cases h
    exact keeps_start
  | append_singleton front t ih =>
    obtain ⟨b, hb, hread⟩ := readAll_concat_eq_ok.1 h
    exact (ih hb).read (reads_of_read hread)

theorem exists_read {c : Conversion} {t : Token}
    (h : t = .symbol .closing → .opening ∈ c.stack) : ∃ d, c.read t = .ok d := by
  cases t with
  | number x => exact ⟨_, rfl⟩
  | symbol s =>
    cases s with
    | opening => exact ⟨_, rfl⟩
    | negate => exact ⟨_, rfl⟩
    | closing =>
      obtain ⟨popped, left, hstack, hpopped⟩ := List.eq_append_cons_of_mem (h rfl)
      simp only [read, hstack, releaseToOpening_append hpopped]
      exact ⟨_, rfl⟩
    | binary op =>
      simp only [read]
      split <;> exact ⟨_, rfl⟩

theorem opening_mem_stack_iff {front : List Token} {c : Conversion} (h : Keeps front c) :
    .opening ∈ c.stack ↔
      front.count (.symbol .closing) < front.count (.symbol .opening) := by
  have hdepth := h.depth
  rw [held, List.count_eq_zero.2 h.opening, Nat.zero_add] at hdepth
  rw [← List.count_pos_iff]
  omega

theorem exists_readAll {tokens : List Token} (h : ∀ front, front <+: tokens →
      front.count (.symbol .closing) ≤ front.count (.symbol .opening)) :
    ∃ c, start.readAll tokens = .ok c := by
  induction tokens using List.reverseRecOn with
  | nil => exact ⟨start, rfl⟩
  | append_singleton front t ih =>
    obtain ⟨b, hb⟩ := ih fun initial hinitial =>
      h initial (hinitial.trans (List.prefix_append front [t]))
    obtain ⟨c, hc⟩ : ∃ c, b.read t = .ok c := by
      refine exists_read fun ht => (opening_mem_stack_iff (keeps_readAll hb)).2 ?_
      have hwhole := h _ (List.prefix_refl _)
      simp [ht] at hwhole
      omega
    exact ⟨c, readAll_concat_eq_ok.2 ⟨b, hb, hc⟩⟩

theorem count_le_of_readAll {tokens front : List Token} {c : Conversion}
    (h : start.readAll tokens = .ok c) (hfront : front <+: tokens) :
    front.count (.symbol .closing) ≤ front.count (.symbol .opening) := by
  obtain ⟨rest, rfl⟩ := hfront
  rw [readAll, List.foldlM_append, Refusal.bind_eq_ok] at h
  obtain ⟨b, hb, _⟩ := h
  have := (keeps_readAll hb).depth
  omega

theorem finish_eq_ok_iff {c : Conversion} {out : List Token} :
    c.finish = .ok out ↔ .opening ∉ c.stack ∧ c.out ++ c.stack.map .symbol = out := by
  rw [finish]
  cases hstack : releaseAll c.stack with
  | error f =>
    have hopen : ¬(.opening ∉ c.stack) := fun h => by
      rw [releaseAll_eq_ok_iff.2 ⟨h, rfl⟩] at hstack
      cases hstack
    simp [hopen]
  | ok popped =>
    obtain ⟨hopening, rfl⟩ := releaseAll_eq_ok_iff.1 hstack
    simp [hopening]

theorem exists_ofTokens_iff (tokens : List Token) :
    (∃ out, ofTokens tokens = .ok out) ↔ Token.Matched tokens := by
  constructor
  · rintro ⟨out, hout⟩
    obtain ⟨c, hc, hfinish⟩ := Refusal.bind_eq_ok.1 hout
    have hle : tokens.count (.symbol .closing) ≤ tokens.count (.symbol .opening) :=
      count_le_of_readAll hc (List.prefix_refl tokens)
    have hstack := (finish_eq_ok_iff.1 hfinish).1
    rw [opening_mem_stack_iff (keeps_readAll hc)] at hstack
    exact ⟨fun front => count_le_of_readAll hc, by omega⟩
  · rintro ⟨hfront, htotal⟩
    obtain ⟨c, hc⟩ := exists_readAll hfront
    have hstack : .opening ∉ c.stack := by
      rw [opening_mem_stack_iff (keeps_readAll hc)]
      omega
    exact ⟨_, Refusal.bind_eq_ok.2 ⟨c, hc, finish_eq_ok_iff.2 ⟨hstack, rfl⟩⟩⟩

theorem keeps_ofTokens {tokens out : List Token} (h : ofTokens tokens = .ok out) :
    Keeps tokens ⟨out, [], true⟩ := by
  obtain ⟨⟨written, stack, expects⟩, hc, hfinish⟩ := Refusal.bind_eq_ok.1 h
  obtain ⟨hstack, rfl⟩ := finish_eq_ok_iff.1 hfinish
  have hkeeps := keeps_readAll hc
  rw [← List.append_nil stack] at hkeeps
  exact hkeeps.pop hstack true

end Conversion

theorem step_ne_strayParenthesis (A : Arithmetic) (stack : List Number) {t : Token}
    (hopening : t ≠ .symbol .opening) (hclosing : t ≠ .symbol .closing) :
    step A stack t ≠ .error .strayParenthesis := by
  cases t with
  | number x => simp [step]
  | symbol s =>
    cases s with
    | opening => contradiction
    | closing => contradiction
    | negate => cases stack <;> simp [step]
    | binary op =>
      rcases stack with _ | ⟨b, _ | ⟨a, left⟩⟩
      · simp [step]
      · simp [step]
      · simp only [step]
        split <;> simp

theorem value_ne_strayParenthesis (A : Arithmetic) {tokens : List Token}
    (hopening : .symbol .opening ∉ tokens) (hclosing : .symbol .closing ∉ tokens) :
    value A tokens ≠ .error .strayParenthesis := by
  have hrun (stack : List Number) : run A stack tokens ≠ .error .strayParenthesis := by
    induction tokens generalizing stack with
    | nil => simp [run]
    | cons t tokens ih =>
      obtain ⟨ho, hopening⟩ := List.ne_and_not_mem_of_not_mem_cons hopening
      obtain ⟨hc, hclosing⟩ := List.ne_and_not_mem_of_not_mem_cons hclosing
      rw [run, ne_eq, Fault.bind_eq_error, not_or]
      refine ⟨step_ne_strayParenthesis A stack ho.symm hc.symm, ?_⟩
      rintro ⟨next, _, hrest⟩
      exact ih hopening hclosing next hrest
  rw [value, ne_eq, Fault.bind_eq_error, not_or]
  refine ⟨hrun [], ?_⟩
  rintro ⟨left, _, hleft⟩
  split at hleft <;> cases hleft

/-- The conversion is what the loop does, so that no operator is unknown to it. It succeeds
just if the parentheses match; then it keeps the numbers in their order and each operator
as often as it stands there, save that a minus may become a negation, and no parenthesis is
left for the evaluation to come upon. -/
theorem ofTokens_keeps (tokens : List Token) :
    Conversion.ofTokens tokens = (ofTokens tokens).mapError .fault ∧
      (∀ s, Conversion.ofTokens tokens ≠ .error (.unknownOperator s)) ∧
      ((∃ out, ofTokens tokens = .ok out) ↔ Token.Matched tokens) ∧
      ∀ out, ofTokens tokens = .ok out →
        (.symbol .opening ∉ out ∧ .symbol .closing ∉ out) ∧
        Token.numbers out = Token.numbers tokens ∧
        (∀ op, op ≠ .minus →
          out.count (.symbol (.binary op)) = tokens.count (.symbol (.binary op))) ∧
        (tokens.count (.symbol .negate) ≤ out.count (.symbol .negate) ∧
          tokens.count (.symbol (.binary .minus)) = out.count (.symbol (.binary .minus)) +
            (out.count (.symbol .negate) - tokens.count (.symbol .negate))) ∧
        ∀ A, value A out ≠ .error .strayParenthesis := by
  have hloop := Conversion.ofTokens_eq tokens
  have hok (out : List Token) :
      Conversion.ofTokens tokens = .ok out ↔ ofTokens tokens = .ok out := by
    rw [hloop]
    cases ofTokens tokens <;> simp [Except.mapError]
  refine ⟨hloop, fun s => ?_, ?_, fun out hout => ?_⟩
  · rw [hloop]
    cases ofTokens tokens <;> simp [Except.mapError]
  · simpa only [hok] using Conversion.exists_ofTokens_iff tokens
  · have hkeeps := Conversion.keeps_ofTokens ((hok out).2 hout)
    have hheld (s : Symbol) : Conversion.held out [] s = out.count (.symbol s) := rfl
    have hsigns := hkeeps.signs
    have hnegations := hkeeps.negations
    have hclosing : .symbol .closing ∉ out := List.count_eq_zero.1 hkeeps.closing
    simp only [hheld] at hsigns hnegations
    exact ⟨⟨hkeeps.opening, hclosing⟩, hkeeps.numbers, hkeeps.operator,
      ⟨hnegations, by omega⟩, fun A => value_ne_strayParenthesis A hkeeps.opening hclosing⟩

theorem ofTokens_keeps_quotientOfNegatives :
    ∃ out, ofTokens quotientOfNegatives = .ok out ∧
      Token.numbers out = [.ofNat 1, .ofNat 2, .ofNat 4] ∧
      quotientOfNegatives.count (.symbol (.binary .minus)) =
        out.count (.symbol (.binary .minus)) + out.count (.symbol .negate) ∧
      out.count (.symbol .negate) = 2 := by
  obtain ⟨_, _, hmatched, hkeeps⟩ := ofTokens_keeps quotientOfNegatives
  have hout : ofTokens quotientOfNegatives =
      .ok [.number (.ofNat 1), .number (.ofNat 2), .symbol (.binary .minus), .symbol .negate,
        .number (.ofNat 4), .symbol .negate, .symbol (.binary .divide)] := rfl
  obtain ⟨_, hnumbers, _, ⟨_, hminus⟩, _⟩ := hkeeps _ hout
  exact ⟨_, hout, hnumbers, hminus, rfl⟩

end ReversePolish

end Calculator
