import Calculator.Proofs.Grammar

set_option autoImplicit false

namespace Calculator

namespace Phrase

variable {α ν σ : Type}

/-- A term begins with a factor, for which any term can stand. -/
theorem exists_first_unary (S : Alphabet α ν σ) : (t : Phrase α ν .term) →
    ∃ (u : Phrase α ν .unary) (rest : List σ), t.spell S = u.spell S ++ rest ∧
      ∀ t' : Phrase α ν .term, ∃ r : Phrase α ν .term, r.spell S = t'.spell S ++ rest
  | .factor u => ⟨u, [], (List.append_nil _).symm, fun t' => ⟨t', (List.append_nil _).symm⟩⟩
  | .product t op h v => by
    obtain ⟨u, rest, hu, hr⟩ := exists_first_unary S t
    refine ⟨u, rest ++ S.operator op :: v.spell S, by simp [spell, hu], fun t' => ?_⟩
    obtain ⟨r, hr⟩ := hr t'
    exact ⟨.product r op h v, by simp [spell, hr]⟩

theorem exists_first_term (S : Alphabet α ν σ) : (e : Phrase α ν .expression) →
    ∃ (t : Phrase α ν .term) (rest : List σ), e.spell S = t.spell S ++ rest ∧
      ∀ e' : Phrase α ν .expression, ∃ r : Phrase α ν .expression, r.spell S = e'.spell S ++ rest
  | .term t => ⟨t, [], (List.append_nil _).symm, fun e' => ⟨e', (List.append_nil _).symm⟩⟩
  | .sum e op h v => by
    obtain ⟨t, rest, ht, hr⟩ := exists_first_term S e
    refine ⟨t, rest ++ S.operator op :: v.spell S, by simp [spell, ht], fun e' => ?_⟩
    obtain ⟨r, hr⟩ := hr e'
    exact ⟨.sum r op h v, by simp [spell, hr]⟩

theorem exists_first_factor (S : Alphabet α ν σ) (e : Phrase α ν .expression) :
    ∃ (u : Phrase α ν .unary) (rest : List σ), e.spell S = u.spell S ++ rest ∧
      ∀ t : Phrase α ν .term, ∃ r : Phrase α ν .expression, r.spell S = t.spell S ++ rest := by
  obtain ⟨t, rest, ht, hterm⟩ := exists_first_term S e
  obtain ⟨u, rest', hu, hunary⟩ := exists_first_unary S t
  refine ⟨u, rest' ++ rest, by rw [ht, hu, List.append_assoc], fun t' => ?_⟩
  obtain ⟨r, hr⟩ := hunary t'
  obtain ⟨r', hr'⟩ := hterm (.term r)
  exact ⟨r', by rw [hr', spell, hr, List.append_assoc]⟩

theorem exists_minus (S : Alphabet α ν σ) (e : Phrase α ν .expression) :
    ∃ r : Phrase α ν .expression, r.spell S = S.operator .minus :: e.spell S := by
  obtain ⟨u, rest, hu, hr⟩ := exists_first_factor S e
  obtain ⟨r, hr⟩ := hr (.factor (.negative u))
  exact ⟨r, by simp [hr, hu, spell]⟩

theorem exists_combine (S : Alphabet α ν σ) (a : Phrase α ν .atom) (op : Operator)
    (e : Phrase α ν .expression) :
    ∃ r : Phrase α ν .expression, r.spell S = a.spell S ++ S.operator op :: e.spell S := by
  obtain ⟨t, behind, ht, hterm⟩ := exists_first_term S e
  obtain ⟨u, rest, hu, hfactor⟩ := exists_first_factor S e
  cases op with
  | plus =>
    obtain ⟨r, hr⟩ := hterm (.sum (ofAtom a) .plus rfl t)
    exact ⟨r, by simp [hr, ht, spell, ofAtom, ofUnary]⟩
  | minus =>
    obtain ⟨r, hr⟩ := hterm (.sum (ofAtom a) .minus rfl t)
    exact ⟨r, by simp [hr, ht, spell, ofAtom, ofUnary]⟩
  | times =>
    obtain ⟨r, hr⟩ := hfactor (.product (.factor (.unsigned (.atom a))) .times rfl u)
    exact ⟨r, by simp [hr, hu, spell]⟩
  | divide =>
    obtain ⟨r, hr⟩ := hfactor (.product (.factor (.unsigned (.atom a))) .divide rfl u)
    exact ⟨r, by simp [hr, hu, spell]⟩
  | power =>
    obtain ⟨r, hr⟩ := hfactor (.factor (.unsigned (.power a u)))
    exact ⟨r, by simp [hr, hu, spell]⟩

end Phrase

/-- Values and binary operators alternate, and parentheses match, `depth` of them
being open; the flag says whether a value comes next. -/
inductive Alternating : Bool → Nat → List Token → Prop
  | done : Alternating false 0 []
  | number {depth : Nat} {ts : List Token} (x : Number) (h : Alternating false depth ts) :
      Alternating true depth (.number x :: ts)
  | opening {depth : Nat} {ts : List Token} (h : Alternating true (depth + 1) ts) :
      Alternating true depth (.symbol .opening :: ts)
  | closing {depth : Nat} {ts : List Token} (h : Alternating false depth ts) :
      Alternating false (depth + 1) (.symbol .closing :: ts)
  | minus {depth : Nat} {ts : List Token} (h : Alternating true depth ts) :
      Alternating true depth (.symbol (.binary .minus) :: ts)
  | binary {depth : Nat} {ts : List Token} (op : Operator) (h : Alternating true depth ts) :
      Alternating false depth (.symbol (.binary op) :: ts)

namespace Alternating

inductive Closes : Nat → List Token → Prop
  | done : Closes 0 []
  | closing {depth : Nat} {ts : List Token} (h : Alternating false depth ts) :
      Closes (depth + 1) (.symbol .closing :: ts)

/-- These tokens begin with an expression that ends where its parentheses do. -/
def Begins (depth : Nat) (ts : List Token) : Prop :=
  ∃ (p : Phrase Number Empty .expression) (rest : List Token),
    ts = p.tokens ++ rest ∧ Closes depth rest

theorem begins_atom {depth : Nat} {ts : List Token} (a : Phrase Number Empty .atom)
    (h : Alternating false depth ts)
    (shorter : ∀ us : List Token, us.length < ts.length → Alternating true depth us →
      Begins depth us) : Begins depth (a.tokens ++ ts) := by
  cases h with
  | done => exact ⟨.ofAtom a, [], rfl, .done⟩
  | closing h => exact ⟨.ofAtom a, _, rfl, .closing h⟩
  | @binary _ us op h =>
    obtain ⟨p, rest, hp, hrest⟩ := shorter us (by simp) h
    obtain ⟨r, hr⟩ := Phrase.exists_combine .tokens a op p
    refine ⟨r, rest, ?_, hrest⟩
    show a.tokens ++ _ = r.spell .tokens ++ rest
    rw [hr, hp, List.append_assoc, List.cons_append]
    rfl

theorem begins {depth : Nat} {ts : List Token} (h : Alternating true depth ts) :
    Begins depth ts := by
  induction hn : ts.length using Nat.strongRecOn generalizing depth ts with
  | ind n ih =>
    have shorter : ∀ {d : Nat} (us : List Token), us.length < ts.length →
        Alternating true d us → Begins d us :=
      fun us hlt hus => ih us.length (hn ▸ hlt) hus rfl
    cases h with
    | @number _ us x h =>
      exact begins_atom (.leaf x) h fun vs hlt hvs =>
        shorter vs (Nat.lt_trans hlt (Nat.lt_succ_self _)) hvs
    | @opening _ us h =>
      obtain ⟨p, rest, hp, hrest⟩ := shorter us (Nat.lt_succ_self _) h
      cases hrest with
      | @closing _ vs hclosed =>
        have hlength : vs.length < us.length := by
          rw [hp, List.length_append, List.length_cons]
          omega
        have hbegins := begins_atom (.group p) hclosed fun ws hlt hws =>
          shorter ws (by simp only [List.length_cons]; omega) hws
        rw [hp]
        simpa [Phrase.tokens, Phrase.spell, Alphabet.tokens] using hbegins
    | @minus _ us h =>
      obtain ⟨p, rest, hp, hrest⟩ := shorter us (Nat.lt_succ_self _) h
      obtain ⟨r, hr⟩ := Phrase.exists_minus .tokens p
      refine ⟨r, rest, ?_, hrest⟩
      show _ = r.spell .tokens ++ rest
      rw [hr, hp]
      rfl

theorem exists_phrase {ts : List Token} (h : Alternating true 0 ts) :
    ∃ p : Phrase Number Empty .expression, p.tokens = ts := by
  obtain ⟨p, rest, hp, hrest⟩ := h.begins
  cases hrest
  exact ⟨p, by rw [hp, List.append_nil]⟩

end Alternating

end Calculator
