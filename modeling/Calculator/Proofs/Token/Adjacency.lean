import Mathlib.Data.List.Chain
import Calculator.Expression.Calls
import Calculator.Proofs.ReversePolish.Acceptance

set_option autoImplicit false

namespace Calculator

namespace Token

def Juxtaposed (tokens : List Token) : Prop :=
  ∃ x y : Number, [.number x, .number y] <:+: tokens

/-- Neighbours, of which two values are two numbers. -/
def Joined (t u : Token) : Prop := t.Adjacent u → ∃ x y, t = .number x ∧ u = .number y

theorem not_adjacent_of_startsValue {u : Token} (h : u.startsValue = false) (t : Token) :
    ¬t.Adjacent u := fun ha => by simp [ha.2] at h

theorem not_adjacent_of_endsValue {t : Token} (h : t.endsValue = false) (u : Token) :
    ¬t.Adjacent u := fun ha => by simp [ha.1] at h

theorem joined_of_not_endsValue {t : Token} (h : t.endsValue = false) (u : Token) :
    t.Joined u := fun ha => absurd ha (not_adjacent_of_endsValue h u)

theorem joined_of_not_startsValue {u : Token} (h : u.startsValue = false) (t : Token) :
    t.Joined u := fun ha => absurd ha (not_adjacent_of_startsValue h t)

theorem impliedProduct_cases (t u : Token) :
    impliedProduct (some t) u = [.symbol (.binary .times)] ∨
      impliedProduct (some t) u = [] ∧ t.Joined u := by
  cases t with
  | number x =>
    cases u with
    | number y => exact .inr ⟨rfl, fun _ => ⟨x, y, rfl, rfl⟩⟩
    | symbol s =>
      cases s with
      | opening => exact .inl rfl
      | _ => exact .inr ⟨rfl, joined_of_not_startsValue rfl _⟩
  | symbol s =>
    cases s with
    | closing =>
      cases u with
      | number y => exact .inl rfl
      | symbol s =>
        cases s with
        | opening => exact .inl rfl
        | _ => exact .inr ⟨rfl, joined_of_not_startsValue rfl _⟩
    | _ => exact .inr ⟨rfl, joined_of_not_endsValue rfl u⟩

theorem isChain_impliedProduct (previous : Option Token) (t : Token) :
    (previous.toList ++ (impliedProduct previous t ++ [t])).IsChain Joined := by
  cases previous with
  | none =>
    have hnone : impliedProduct none t = [] := rfl
    rw [hnone]
    exact List.isChain_singleton t
  | some u =>
    rcases impliedProduct_cases u t with h | ⟨h, hj⟩
    · rw [h]
      refine List.isChain_cons_cons.2 ⟨joined_of_not_startsValue rfl u, ?_⟩
      exact List.isChain_pair.2 (joined_of_not_endsValue rfl t)
    · rw [h]
      exact List.isChain_pair.2 hj

theorem ne_negate_of_ofChar? {c : Char} {s : Symbol} (h : Symbol.ofChar? c = some s) :
    s ≠ .negate := by
  rintro rfl
  unfold Symbol.ofChar? at h
  split at h <;> cases h

/-- What the tokens of a text behind the token `previous` are like: only numbers are
neighbours without a multiplication, and a minus is never a prefix yet. -/
structure Scanned (previous : Option Token) (tokens : List Token) : Prop where
  isChain : (previous.toList ++ tokens).IsChain Joined
  ne_negate : ∀ t ∈ tokens, t ≠ .symbol .negate

theorem scanned_nil (previous : Option Token) : Scanned previous [] := by
  refine ⟨?_, fun t ht => nomatch ht⟩
  cases previous with
  | none => exact .nil
  | some t => exact List.isChain_singleton t

theorem ne_negate_of_mem_impliedProduct {previous : Option Token} {t u : Token}
    (h : u ∈ impliedProduct previous t) : u ≠ .symbol .negate := by
  cases previous with
  | none => cases h
  | some v =>
    rcases impliedProduct_cases v t with himplied | ⟨himplied, _⟩
    · rw [himplied, List.mem_singleton] at h
      simp [h]
    · rw [himplied] at h
      cases h

theorem Scanned.cons {t : Token} {tokens : List Token} (ht : t ≠ .symbol .negate)
    (h : Scanned (some t) tokens) (previous : Option Token) :
    Scanned previous (impliedProduct previous t ++ t :: tokens) := by
  constructor
  · rw [← List.append_assoc, List.isChain_split, List.append_assoc]
    exact ⟨isChain_impliedProduct previous t, h.isChain⟩
  · intro u hu
    rcases List.mem_append.1 hu with hu | hu
    · exact ne_negate_of_mem_impliedProduct hu
    · rcases List.mem_cons.1 hu with rfl | hu
      · exact ht
      · exact h.ne_negate u hu

theorem scanned_of_scan {previous : Option Token} {cs : List Char} {tokens : List Token}
    (h : scan previous cs = .ok tokens) : Scanned previous tokens := by
  fun_induction scan previous cs generalizing tokens with
  | case1 previous =>
    cases h
    exact scanned_nil previous
  | case2 previous c rest hc ih =>
    obtain ⟨x, _, h⟩ := Fault.bind_eq_ok.1 h
    obtain ⟨tokens', hscan, h⟩ := Fault.bind_eq_ok.1 h
    cases h
    exact (ih x hscan).cons (by simp) previous
  | case3 => cases h
  | case4 previous c rest hc s hs ih =>
    obtain ⟨tokens', hscan, h⟩ := Fault.bind_eq_ok.1 h
    cases h
    exact (ih hscan).cons (by simpa using ne_negate_of_ofChar? hs) previous

theorem isChain_not_adjacent {tokens : List Token} (h : tokens.IsChain Joined)
    (hj : ¬Juxtaposed tokens) : tokens.IsChain fun t u => ¬t.Adjacent u := by
  rw [List.isChain_iff_forall_rel_of_append_cons_cons] at *
  intro t u before behind heq ha
  obtain ⟨x, y, rfl, rfl⟩ := h heq ha
  exact hj ⟨x, y, before, behind, by simp [heq]⟩

theorem isChain_not_adjacent_concat {tokens : List Token} {t : Token}
    (h : tokens.IsChain fun t u => ¬t.Adjacent u) (ht : t.startsValue = false) :
    (tokens ++ [t]).IsChain fun t u => ¬t.Adjacent u := by
  refine h.append (List.isChain_singleton t) fun v _ u hu => ?_
  cases hu
  exact not_adjacent_of_startsValue ht v

theorem isChain_not_adjacent_cons {tokens : List Token} {t : Token}
    (h : tokens.IsChain fun t u => ¬t.Adjacent u) (ht : t.endsValue = false) :
    (t :: tokens).IsChain fun t u => ¬t.Adjacent u :=
  h.cons fun u _ => not_adjacent_of_endsValue ht u

theorem isChain_not_adjacent_combine {xs ys : List Token} (op : Operator)
    (hxs : xs.IsChain fun t u => ¬t.Adjacent u) (hys : ys.IsChain fun t u => ¬t.Adjacent u) :
    (xs ++ .symbol (.binary op) :: ys).IsChain fun t u => ¬t.Adjacent u :=
  List.isChain_split.2
    ⟨isChain_not_adjacent_concat hxs rfl, isChain_not_adjacent_cons hys rfl⟩

theorem isChain_tokens {l : Level} (p : Phrase Number Empty l) :
    p.tokens.IsChain fun t u => ¬t.Adjacent u := by
  induction p with
  | leaf x => exact List.isChain_singleton _
  | group e ih => exact isChain_not_adjacent_concat (isChain_not_adjacent_cons ih rfl) rfl
  | call f e => exact f.elim
  | atom a ih => exact ih
  | power a u ha hu => exact isChain_not_adjacent_combine .power ha hu
  | unsigned p ih => exact ih
  | negative u ih => exact isChain_not_adjacent_cons ih rfl
  | factor u ih => exact ih
  | product t op h u ht hu => exact isChain_not_adjacent_combine op ht hu
  | term t ih => exact ih
  | sum e op h t he ht => exact isChain_not_adjacent_combine op he ht

theorem not_juxtaposed_tokens {l : Level} (p : Phrase Number Empty l) :
    ¬Juxtaposed p.tokens := by
  intro hnumbers
  obtain ⟨x, y, before, behind, h⟩ := hnumbers
  have hc := isChain_tokens p
  rw [List.isChain_iff_forall_rel_of_append_cons_cons] at hc
  have heq : p.tokens = before ++ .number x :: .number y :: behind := by simp [← h]
  exact hc heq ⟨rfl, rfl⟩

end Token

/-- A text with a value is spelled by an expression just if no two of its numbers
are neighbours. -/
theorem exists_phrase_iff_not_juxtaposed {A : Arithmetic} {cs : List Char} {x : Number}
    (h : infixValue A cs = .ok x) :
    ∃ tokens, tokenize cs = .ok tokens ∧
      ((∃ p : Phrase Number Empty .expression, p.tokens = tokens) ↔
        ¬Token.Juxtaposed tokens) := by
  obtain ⟨tokens, htokens, hvalue⟩ := Fault.bind_eq_ok.1 h
  have hscanned := Token.scanned_of_scan htokens
  refine ⟨tokens, htokens, ?_, fun hj => ?_⟩
  · rintro ⟨p, rfl⟩
    exact Token.not_juxtaposed_tokens p
  · exact ReversePolish.exists_phrase_of_value hvalue hscanned.ne_negate
      (Token.isChain_not_adjacent hscanned.isChain hj)

end Calculator
