import Calculator.Proofs.ReversePolish.Conversion

/-! The strict evaluation of a tree, from left to right, as two relations: it comes to a
value, or to a division by zero before anything else is worked out. Main statement: the
reverse Polish form of an expression, whatever its parentheses, is that of its tree, and
the stack machine does with it what the strict evaluation does. -/

set_option autoImplicit false

namespace Calculator

namespace Tree

variable {A : Arithmetic}

inductive Yields (A : Arithmetic) : Tree Number Empty → Number → Prop
  | leaf (x : Number) : Yields A (.leaf x) x
  | negate {t : Tree Number Empty} {x : Number} (h : Yields A t x) :
      Yields A (.negate t) (A.negate x)
  | combine {op : Operator} {s t : Tree Number Empty} {x y : Number} (hs : Yields A s x)
      (ht : Yields A t y) (hy : op = .divide → y.isZero = false) :
      Yields A (.combine op s t) (A.combine op x y)

/-- The evaluation comes to a division by zero. -/
inductive DividesByZero (A : Arithmetic) : Tree Number Empty → Prop
  | negate {t : Tree Number Empty} (h : DividesByZero A t) : DividesByZero A (.negate t)
  | left {op : Operator} {s t : Tree Number Empty} (h : DividesByZero A s) :
      DividesByZero A (.combine op s t)
  | right {op : Operator} {s t : Tree Number Empty} {x : Number} (hs : Yields A s x)
      (h : DividesByZero A t) : DividesByZero A (.combine op s t)
  | quotient {s t : Tree Number Empty} {x y : Number} (hs : Yields A s x) (ht : Yields A t y)
      (hy : y.isZero = true) : DividesByZero A (.combine .divide s t)

theorem Yields.value_eq_ok {t : Tree Number Empty} {x : Number} (h : t.Yields A x) :
    t.value A .number = .ok x := by
  induction h with
  | leaf x => rfl
  | negate _ ih =>
    rw [value, ih]
    rfl
  | @combine op s t x y _ _ hy hs ht =>
    have happly : op.apply A x y = .ok (A.combine op x y) := by
      rw [Operator.apply, if_neg]
      rintro ⟨hop, hzero⟩
      rw [hy hop] at hzero
      cases hzero
    rw [value, hs, ht]
    exact happly

theorem DividesByZero.value_eq_error {t : Tree Number Empty} (h : t.DividesByZero A) :
    t.value A .number = .error .divisionByZero := by
  induction h with
  | negate _ ih =>
    rw [value, ih]
    rfl
  | left _ ih =>
    rw [value, ih]
    rfl
  | right hs _ ih =>
    rw [value, hs.value_eq_ok, ih]
    rfl
  | quotient hs ht hy =>
    rw [value, hs.value_eq_ok, ht.value_eq_ok]
    exact if_pos ⟨rfl, hy⟩

theorem yields_or_dividesByZero (A : Arithmetic) (t : Tree Number Empty) :
    (∃ x, t.Yields A x) ∨ t.DividesByZero A := by
  induction t with
  | leaf x => exact .inl ⟨x, .leaf x⟩
  | negate t ih =>
    rcases ih with ⟨x, hx⟩ | hzero
    · exact .inl ⟨_, .negate hx⟩
    · exact .inr (.negate hzero)
  | combine op s t hs ht =>
    rcases hs with ⟨x, hx⟩ | hzero
    · rcases ht with ⟨y, hy⟩ | hzero
      · by_cases hdivide : op = .divide ∧ y.isZero = true
        · obtain ⟨rfl, hy0⟩ := hdivide
          exact .inr (.quotient hx hy hy0)
        · refine .inl ⟨_, .combine hx hy fun hop => ?_⟩
          exact Bool.eq_false_iff.2 fun hy0 => hdivide ⟨hop, hy0⟩
      · exact .inr (.right hx hzero)
    · exact .inr (.left hzero)
  | call f t => exact f.elim

theorem value_eq_ok_iff {t : Tree Number Empty} {x : Number} :
    t.value A .number = .ok x ↔ t.Yields A x := by
  refine ⟨fun h => ?_, Yields.value_eq_ok⟩
  rcases yields_or_dividesByZero A t with ⟨y, hy⟩ | hzero
  · rw [hy.value_eq_ok] at h
    cases h
    exact hy
  · rw [hzero.value_eq_error] at h
    cases h

theorem value_eq_error_iff {t : Tree Number Empty} {f : Fault} :
    t.value A .number = .error f ↔ f = .divisionByZero ∧ t.DividesByZero A := by
  refine ⟨fun h => ?_, fun h => h.1 ▸ h.2.value_eq_error⟩
  rcases yields_or_dividesByZero A t with ⟨y, hy⟩ | hzero
  · rw [hy.value_eq_ok] at h
    cases h
  · rw [hzero.value_eq_error] at h
    cases h
    exact ⟨rfl, hzero⟩

end Tree

namespace ReversePolish

/-- The tokens of an expression become the reverse Polish form of its tree, and that form
has the value of the strict evaluation, or its one fault. -/
theorem ofTokens_tokens_evaluates (A : Arithmetic) (p : Phrase Number Empty .expression) :
    ofTokens p.tokens = .ok p.tree.reversed ∧
      (∀ x, value A p.tree.reversed = .ok x ↔ p.tree.Yields A x) ∧
      ∀ f, value A p.tree.reversed = .error f ↔ f = .divisionByZero ∧ p.tree.DividesByZero A := by
  rw [value_reversed]
  exact ⟨ofTokens_tokens p, fun x => Tree.value_eq_ok_iff, fun f => Tree.value_eq_error_iff⟩

end ReversePolish

end Calculator
