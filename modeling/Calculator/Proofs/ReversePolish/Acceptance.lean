import Mathlib.Data.List.Chain
import Calculator.Proofs.ReversePolish.Evaluation
import Calculator.Proofs.Grammar.Alternation

/-! Which tokens are given a value. Nothing but parentheses is checked by the
conversion; the rest is settled by how many values are left at the end. The count
is carried through the conversion: a token that stands where it cannot makes one
value less, and no token makes one more. Main statement: where no value follows
another, the tokens that are given a value are the spellings of expressions, and the
value is that of the strict evaluation. -/

set_option autoImplicit false

namespace Calculator

/-- How many values a symbol adds to the stack of values. -/
def Symbol.effect : Symbol → Int
  | .binary _ => -1
  | _ => 0

namespace Token

def effect : Token → Int
  | .number _ => 1
  | .symbol s => s.effect

def endsValue : Token → Bool
  | .number _ => true
  | .symbol s => s = .closing

def startsValue : Token → Bool
  | .number _ => true
  | .symbol s => s = .opening

def Adjacent (t u : Token) : Prop := t.endsValue = true ∧ u.startsValue = true

end Token

namespace ReversePolish

def effect : List Token → Int
  | [] => 0
  | t :: tokens => t.effect + effect tokens

def waiting : List Symbol → Int
  | [] => 0
  | s :: stack => s.effect + waiting stack

def depth (stack : List Symbol) : Nat := stack.count .opening

theorem effect_append (xs ys : List Token) : effect (xs ++ ys) = effect xs + effect ys := by
  induction xs with
  | nil => simp [effect]
  | cons t xs ih =>
    simp only [List.cons_append, effect, ih]
    omega

theorem effect_cons (t : Token) (ts : List Token) : effect (t :: ts) = t.effect + effect ts := rfl

theorem waiting_cons (s : Symbol) (stack : List Symbol) :
    waiting (s :: stack) = s.effect + waiting stack := rfl

theorem length_step {A : Arithmetic} {stack left : List Number} {t : Token}
    (h : step A stack t = .ok left) : (left.length : Int) = stack.length + t.effect := by
  cases steps_of_step h with
  | number x stack => simp [Token.effect]
  | negate a stack => simp [Token.effect, Symbol.effect]
  | binary op stack _ =>
    simp only [List.length_cons, Token.effect, Symbol.effect]
    omega

theorem length_run {A : Arithmetic} {tokens : List Token} {stack left : List Number}
    (h : run A stack tokens = .ok left) : (left.length : Int) = stack.length + effect tokens := by
  induction tokens generalizing stack with
  | nil =>
    cases h
    simp [effect]
  | cons t ts ih =>
    obtain ⟨next, hnext, hrun⟩ := Fault.bind_eq_ok.1 h
    have hstep := length_step hnext
    have hrest := ih hrun
    rw [effect_cons]
    omega

theorem effect_of_value_eq_ok {A : Arithmetic} {tokens : List Token} {x : Number}
    (h : value A tokens = .ok x) : effect tokens = 1 := by
  have hlength := length_run (run_of_value_eq_ok h)
  simp at hlength
  omega

theorem waiting_append (ss stack : List Symbol) :
    waiting (ss ++ stack) = waiting ss + waiting stack := by
  induction ss with
  | nil => simp [waiting]
  | cons s ss ih =>
    simp only [List.cons_append, waiting, ih]
    omega

theorem effect_map_symbol (ss : List Symbol) : effect (ss.map .symbol) = waiting ss := by
  induction ss with
  | nil => rfl
  | cons s ss ih =>
    rw [List.map_cons, effect_cons, waiting_cons, ih]
    rfl

theorem depth_append {popped : List Symbol} (h : .opening ∉ popped) (stack : List Symbol) :
    depth (popped ++ stack) = depth stack := by
  rw [depth, List.count_append, List.count_eq_zero.2 h, Nat.zero_add, depth]

theorem effect_release {b : Binding} {stack left : List Symbol} {out : List Token}
    (h : release b stack = (out, left)) :
    effect out + waiting left = waiting stack ∧ depth left = depth stack := by
  obtain ⟨popped, hopening, hstack, hout⟩ := exists_release b stack
  simp only [h] at hstack hout
  rw [hstack, hout, effect_map_symbol, waiting_append, depth_append hopening]
  exact ⟨rfl, rfl⟩

theorem effect_releaseToOpening {stack left : List Symbol} {out : List Token}
    (h : releaseToOpening stack = some (out, left)) :
    effect out + waiting left = waiting stack ∧ depth stack = depth left + 1 := by
  by_cases hopening : .opening ∈ stack
  · obtain ⟨popped, behind, rfl, hpopped⟩ := List.eq_append_cons_of_mem hopening
    rw [releaseToOpening_append hpopped] at h
    cases h
    rw [effect_map_symbol, waiting_append, depth_append hpopped]
    simp [waiting_cons, Symbol.effect, depth]
  · rw [releaseToOpening_of_not_mem hopening] at h
    cases h

theorem effect_releaseAll {stack : List Symbol} {out : List Token}
    (h : releaseAll stack = .ok out) : effect out = waiting stack ∧ depth stack = 0 := by
  obtain ⟨hopening, rfl⟩ := releaseAll_eq_ok_iff.1 h
  exact ⟨effect_map_symbol stack, List.count_eq_zero.2 hopening⟩

theorem head_of_isChain {t : Token} {ts : List Token}
    (h : (t :: ts).IsChain fun t u => ¬t.Adjacent u) (ht : t.endsValue = true) :
    ∀ u ∈ ts.head?, u.startsValue = false := by
  intro u hu
  have hr := (List.isChain_cons.1 h).1 u hu
  by_cases hs : u.startsValue = true
  · exact absurd ⟨ht, hs⟩ hr
  · simpa using hs

/-- The values that come out are at most those still expected, and as many only if every
token stands where it can. -/
structure Counts (expects : Bool) (stack : List Symbol) (tokens out : List Token) : Prop where
  le : effect out ≤ waiting stack + expects.toNat
  alternating : effect out = waiting stack + expects.toNat →
    Alternating expects (depth stack) tokens

namespace Counts

variable {expects : Bool} {stack left : List Symbol} {tokens out first : List Token}

theorem done (h : releaseAll stack = .ok out) : Counts expects stack [] out := by
  obtain ⟨he, hd⟩ := effect_releaseAll h
  constructor
  · omega
  · intro heq
    cases expects with
    | false => exact hd ▸ .done
    | true =>
      simp only [Bool.toNat_true] at heq
      omega

theorem number (x : Number) (h : Counts false stack tokens out) :
    Counts true stack (.number x :: tokens) (.number x :: out) := by
  have hle := h.le
  simp only [Bool.toNat_false] at hle
  constructor
  · simp only [effect_cons, Token.effect, Bool.toNat_true]
    omega
  · intro heq
    simp only [effect_cons, Token.effect, Bool.toNat_true] at heq
    exact .number x (h.alternating (by simp only [Bool.toNat_false]; omega))

theorem opening (h : Counts true (.opening :: stack) tokens out) :
    Counts true stack (.symbol .opening :: tokens) out := by
  have hw : waiting (.opening :: stack) = waiting stack := Int.zero_add _
  have hd : depth (.opening :: stack) = depth stack + 1 := List.count_cons_self
  exact ⟨hw ▸ h.le, fun heq => .opening (hd ▸ h.alternating (hw ▸ heq))⟩

theorem minus (h : Counts true (.negate :: stack) tokens out) :
    Counts true stack (.symbol (.binary .minus) :: tokens) out := by
  have hw : waiting (.negate :: stack) = waiting stack := Int.zero_add _
  have hd : depth (.negate :: stack) = depth stack := List.count_cons_of_ne (by decide)
  exact ⟨hw ▸ h.le, fun heq => .minus (hd ▸ h.alternating (hw ▸ heq))⟩

theorem closing (hr : releaseToOpening stack = some (first, left))
    (h : Counts false left tokens out) :
    Counts expects stack (.symbol .closing :: tokens) (first ++ out) := by
  obtain ⟨he, hd⟩ := effect_releaseToOpening hr
  have hle := h.le
  simp only [Bool.toNat_false] at hle
  constructor
  · rw [effect_append]
    omega
  · intro heq
    rw [effect_append] at heq
    cases expects with
    | false => exact hd ▸ .closing (h.alternating (by simp only [Bool.toNat_false] at *; omega))
    | true =>
      simp only [Bool.toNat_true] at heq
      omega

theorem binary (op : Operator) (hr : release op.binding stack = (first, left))
    (h : Counts true (.binary op :: left) tokens out) :
    Counts expects stack (.symbol (.binary op) :: tokens) (first ++ out) := by
  obtain ⟨he, hd⟩ := effect_release hr
  have hw : waiting (.binary op :: left) = waiting left - 1 := by
    rw [waiting_cons, Symbol.effect]
    omega
  have hd' : depth (.binary op :: left) = depth left := List.count_cons_of_ne (by simp)
  have hle := h.le
  simp only [hw, Bool.toNat_true] at hle
  constructor
  · rw [effect_append]
    omega
  · intro heq
    rw [effect_append] at heq
    cases expects with
    | false =>
      simp only [Bool.toNat_false] at heq
      have halt := h.alternating (by rw [hw, Bool.toNat_true]; omega)
      rw [hd', hd] at halt
      exact .binary op halt
    | true =>
      simp only [Bool.toNat_true] at heq
      omega

end Counts

/-- The conversion keeps the count. The tokens hold no sign, and no value follows a value
in them, nor stands at the head where none is expected. -/
theorem counts_convert {tokens : List Token} {expects : Bool} {stack : List Symbol}
    {out : List Token} (h : convert expects stack tokens = .ok out)
    (hn : ∀ t ∈ tokens, t ≠ .symbol .negate)
    (hc : tokens.IsChain fun t u => ¬t.Adjacent u)
    (hh : expects = false → ∀ t ∈ tokens.head?, t.startsValue = false) :
    Counts expects stack tokens out := by
  induction tokens generalizing expects stack out with
  | nil => exact .done h
  | cons t ts ih =>
    have hn' : ∀ u ∈ ts, u ≠ .symbol .negate := fun u hu => hn u (List.mem_cons_of_mem t hu)
    have hc' := (List.isChain_cons.1 hc).2
    have hnext := head_of_isChain hc
    cases t with
    | number x =>
      cases expects with
      | false => exact absurd (hh rfl _ rfl) (by simp [Token.startsValue])
      | true =>
        obtain ⟨out', hout, heq⟩ := Fault.bind_eq_ok.1 h
        cases heq
        exact .number x (ih hout hn' hc' fun _ => hnext rfl)
    | symbol s =>
      cases s with
      | negate => exact absurd rfl (hn _ List.mem_cons_self)
      | opening =>
        cases expects with
        | false => exact absurd (hh rfl _ rfl) (by decide)
        | true => exact .opening (ih h hn' hc' fun he => nomatch he)
      | closing =>
        simp only [convert] at h
        cases hr : releaseToOpening stack with
        | none =>
          rw [hr] at h
          cases h
        | some released =>
          rw [hr] at h
          obtain ⟨out', hout, heq⟩ := Fault.bind_eq_ok.1 h
          cases heq
          exact .closing hr (ih hout hn' hc' fun _ => hnext rfl)
      | binary op =>
        by_cases hm : op = .minus ∧ expects = true
        · obtain ⟨rfl, rfl⟩ := hm
          rw [convert_minus] at h
          exact .minus (ih h hn' hc' fun he => nomatch he)
        · simp only [convert, hm, if_false] at h
          obtain ⟨out', hout, heq⟩ := Fault.bind_eq_ok.1 h
          cases heq
          exact .binary op rfl (ih hout hn' hc' fun he => nomatch he)

/-- Tokens whose form leaves one value are the spelling of an expression, unless a value
follows another one directly. -/
theorem exists_phrase_of_effect {tokens out : List Token} (h : ofTokens tokens = .ok out)
    (heffect : effect out = 1) (hn : ∀ t ∈ tokens, t ≠ .symbol .negate)
    (hc : tokens.IsChain fun t u => ¬t.Adjacent u) :
    ∃ p : Phrase Number Empty .expression, p.tokens = tokens := by
  have hcounts : Counts true [] tokens out := counts_convert h hn hc fun he => nomatch he
  exact (hcounts.alternating heffect).exists_phrase

theorem exists_phrase_of_value {A : Arithmetic} {tokens : List Token} {x : Number}
    (h : (ofTokens tokens >>= value A) = .ok x) (hn : ∀ t ∈ tokens, t ≠ .symbol .negate)
    (hc : tokens.IsChain fun t u => ¬t.Adjacent u) :
    ∃ p : Phrase Number Empty .expression, p.tokens = tokens := by
  obtain ⟨out, hout, hvalue⟩ := Fault.bind_eq_ok.1 h
  exact exists_phrase_of_effect hout (effect_of_value_eq_ok hvalue) hn hc

/-- Where no value follows a value, tokens are given a value just if an expression is spelled
so that has it. -/
theorem value_ofTokens_iff_exists_phrase {A : Arithmetic} {tokens reversed : List Token}
    {x : Number} (hn : ∀ t ∈ tokens, t ≠ .symbol .negate)
    (hc : tokens.IsChain fun t u => ¬t.Adjacent u) :
    (ofTokens tokens = .ok reversed ∧ value A reversed = .ok x) ↔
      ∃ p : Phrase Number Empty .expression,
        p.tokens = tokens ∧ p.tree.reversed = reversed ∧ p.tree.Yields A x := by
  constructor
  · rintro ⟨hreversed, hvalue⟩
    have hboth : (ofTokens tokens >>= value A) = .ok x := Fault.bind_eq_ok.2 ⟨_, hreversed, hvalue⟩
    obtain ⟨p, rfl⟩ := exists_phrase_of_value hboth hn hc
    have hform : p.tree.reversed = reversed :=
      Except.ok.inj ((ofTokens_tokens p).symm.trans hreversed)
    rw [← hform, value_reversed] at hvalue
    exact ⟨p, rfl, hform, Tree.value_eq_ok_iff.1 hvalue⟩
  · rintro ⟨p, rfl, rfl, hx⟩
    exact ⟨ofTokens_tokens p, (value_reversed A p.tree).trans hx.value_eq_ok⟩

def quotientOfNegatives : List Token :=
  [.symbol (.binary .minus), .symbol .opening, .number (.ofNat 1), .symbol (.binary .minus),
    .number (.ofNat 2), .symbol .closing, .symbol (.binary .divide), .symbol (.binary .minus),
    .number (.ofNat 4)]

theorem exists_phrase_quotientOfNegatives :
    ∃ p : Phrase Number Empty .expression,
      p.tokens = quotientOfNegatives ∧
        p.tree.reversed = [.number (.ofNat 1), .number (.ofNat 2), .symbol (.binary .minus),
          .symbol .negate, .number (.ofNat 4), .symbol .negate, .symbol (.binary .divide)] ∧
        p.tree.Yields .double ((Number.ofNat 1).div (Number.ofNat 4)).neg := by
  refine (value_ofTokens_iff_exists_phrase ?_ ?_).1 ⟨rfl, ?_⟩
  · simp [quotientOfNegatives]
  · simp [quotientOfNegatives, Token.Adjacent, Token.endsValue, Token.startsValue]
  · exact eq_ok_of_toOption (by decide +kernel)

end ReversePolish

end Calculator
