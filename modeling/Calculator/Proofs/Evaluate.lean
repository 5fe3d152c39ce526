import Calculator.Evaluate
import Calculator.Proofs.Expression.Calls
import Calculator.Proofs.Expression.Constants

/-! The value of a text, from the tree that the text is written for. Replacing the
calls first changes which fault comes first, never whether there is one. Main
statement: up to 64 calls inside one another, a text has the value of its tree when
that is finite, and otherwise a fault, though none of form; deeper trees have no
value. -/

set_option autoImplicit false

namespace Calculator

theorem Operator.kind_of_apply {A : Arithmetic} {op : Operator} {x y : Number} {f : Fault}
    (h : op.apply A x y = .error f) : f.kind ≠ .malformed := by
  unfold apply at h
  split at h
  · cases h
    decide
  · cases h

theorem kind_of_finite {x : Number} {f : Fault} (h : finite x = .error f) :
    f.kind ≠ .malformed := by
  unfold finite at h
  split at h
  · cases h
  · cases h
    decide

theorem Elementary.kind_of_admits {f : Elementary} {x : Number} {g : Fault}
    (h : f.admits x = .error g) : g.kind ≠ .malformed := by
  unfold admits at h
  split at h
  · split at h <;> cases h
    simp [Fault.kind]
  · split at h <;> cases h
    simp [Fault.kind]
  · split at h <;> cases h
    simp [Fault.kind]
  · cases h

theorem Elementary.kind_of_apply {A : Arithmetic} {f : Elementary} {x : Number} {g : Fault}
    (h : f.apply A x = .error g) : g.kind ≠ .malformed := by
  rcases Fault.bind_eq_error.1 h with hadmits | ⟨_, _, hfinite⟩
  · exact kind_of_admits hadmits
  · exact kind_of_finite hfinite

namespace Tree

theorem kind_of_value {A : Arithmetic} {t : Tree Literal Empty} {f : Fault}
    (h : t.value A .plain = .error f) : f.kind ≠ .malformed := by
  induction t with
  | leaf a => cases h
  | negate t ih =>
    rcases Fault.bind_eq_error.1 h with ht | ⟨x, _, hx⟩
    · exact ih ht
    · cases hx
  | combine op s t hs ht =>
    rcases Fault.bind_eq_error.1 h with hx | ⟨x, _, h⟩
    · exact hs hx
    rcases Fault.bind_eq_error.1 h with hy | ⟨y, _, hop⟩
    · exact ht hy
    · exact Operator.kind_of_apply hop
  | call f t => exact f.elim

/-- Whether the calls of a tree in a call of depth `depth` stay within the limit. -/
def Fits {α ν : Type} (depth : Nat) (t : Tree α ν) : Prop :=
  t.callDepth ≤ Fault.maxCallDepth - depth

end Tree

/-- What replacing the calls of a tree gives: all depths are fine and the value stays,
or the tree has no value. -/
def Expands (A : Arithmetic) (depth : Nat) {l : Level} (t : Tree Literal Elementary) :
    Except Fault (Phrase Literal Empty l) → Prop
  | .ok q => t.Fits depth ∧ q.tree.value A .plain = t.value A (.constantFree A)
  | .error f => t.Fits depth → f.kind ≠ .malformed ∧ ∃ g, t.value A (.constantFree A) = .error g

namespace Expands

variable {A : Arithmetic} {depth : Nat} {l l' l'' : Level} {s t : Tree Literal Elementary}
  {r : Except Fault (Phrase Literal Empty l)} {r' : Except Fault (Phrase Literal Empty l')}

theorem same {g : Phrase Literal Empty l → Phrase Literal Empty l'}
    (hg : ∀ q, (g q).tree = q.tree) (h : Expands A depth t r) :
    Expands A depth t (r >>= fun q => pure (g q)) := by
  cases r with
  | error f => exact h
  | ok q =>
    refine ⟨h.1, ?_⟩
    rw [hg]
    exact h.2

theorem negate {u : Except Fault (Phrase Literal Empty .unary)} (h : Expands A depth t u) :
    Expands A depth (.negate t) (u >>= fun q => pure (.negative q)) := by
  cases u with
  | error f =>
    intro hfits
    obtain ⟨hkind, g, hg⟩ := h hfits
    refine ⟨hkind, g, ?_⟩
    rw [Tree.value, hg, Fault.error_bind]
  | ok q =>
    refine ⟨h.1, ?_⟩
    simp only [Phrase.tree, Tree.value, h.2]

theorem combine {g : Phrase Literal Empty l → Phrase Literal Empty l' → Phrase Literal Empty l''}
    {op : Operator} (hg : ∀ q q', (g q q').tree = .combine op q.tree q'.tree)
    (hs : Expands A depth s r) (ht : Expands A depth t r') :
    Expands A depth (.combine op s t) (r >>= fun q => r' >>= fun q' => pure (g q q')) := by
  have hfits : (Tree.combine op s t).Fits depth ↔ s.Fits depth ∧ t.Fits depth := Nat.max_le
  cases r with
  | error f =>
    intro hf
    obtain ⟨hkind, e, he⟩ := hs (hfits.1 hf).1
    exact ⟨hkind, e, by simp [Tree.value, he]⟩
  | ok q =>
    cases r' with
    | error f =>
      intro hf
      obtain ⟨hkind, e, he⟩ := ht (hfits.1 hf).2
      refine ⟨hkind, ?_⟩
      cases hv : s.value A (.constantFree A) with
      | error e' => exact ⟨e', by simp [Tree.value, hv]⟩
      | ok x => exact ⟨e, by simp [Tree.value, hv, he]⟩
    | ok q' =>
      refine ⟨hfits.2 ⟨hs.1, ht.1⟩, ?_⟩
      rw [hg]
      simp only [Tree.value, hs.2, ht.2]

theorem call (hA : A.negate = Number.neg) {f : Elementary}
    {e : Phrase Literal Elementary .expression}
    (h : Expands A (depth + 1) e.tree (e.expandCalls A (depth + 1))) :
    Expands A depth (.call f e.tree) ((Phrase.call f e).expandCalls A depth) := by
  have hfits : (Tree.call f e.tree).Fits depth ↔
      depth < Fault.maxCallDepth ∧ e.tree.Fits (depth + 1) := by
    unfold Tree.Fits
    rw [Tree.callDepth]
    omega
  rw [Phrase.expandCalls]
  by_cases hdepth : Fault.maxCallDepth ≤ depth
  · rw [if_pos hdepth]
    intro hf
    have := (hfits.1 hf).1
    omega
  rw [if_neg hdepth]
  cases hr : e.expandCalls A (depth + 1) with
  | error g =>
    rw [hr] at h
    intro hf
    obtain ⟨hkind, g', hg⟩ := h (hfits.1 hf).2
    exact ⟨hkind, g', by simp [Tree.value, hg]⟩
  | ok q =>
    rw [hr] at h
    obtain ⟨hfit, hvalue⟩ := h
    have hcall : (Tree.call f e.tree).value A (.constantFree A) =
        q.tree.value A .plain >>= f.apply A := by
      rw [hvalue]
      rfl
    rw [Fault.ok_bind, ← bind_assoc]
    cases hy : q.tree.value A .plain >>= f.apply A with
    | error g =>
      refine fun _ => ⟨?_, g, hcall.trans hy⟩
      rcases Fault.bind_eq_error.1 hy with hx | ⟨x, _, hx⟩
      · exact Tree.kind_of_value hx
      · exact Elementary.kind_of_apply hx
    | ok y =>
      obtain ⟨x, _, hx⟩ := Fault.bind_eq_ok.1 hy
      refine ⟨hfits.2 ⟨by omega, hfit⟩, ?_⟩
      rw [hcall, hy]
      exact Number.value_phrase hA (Elementary.isFinite_of_apply hx)

end Expands

theorem expands_expandCalls {A : Arithmetic} (hA : A.negate = Number.neg) {l : Level}
    (p : Phrase Literal Elementary l) (depth : Nat) :
    Expands A depth p.tree (p.expandCalls A depth) := by
  induction p generalizing depth with
  | leaf a => exact ⟨Nat.zero_le _, rfl⟩
  | group e ih => exact (ih depth).same fun _ => rfl
  | call f e ih => exact .call hA (ih (depth + 1))
  | atom a ih => exact (ih depth).same fun _ => rfl
  | power a u ha hu => exact (ha depth).combine (fun _ _ => rfl) (hu depth)
  | unsigned p ih => exact (ih depth).same fun _ => rfl
  | negative u ih => exact (ih depth).negate
  | factor u ih => exact (ih depth).same fun _ => rfl
  | product t op h u ht hu => exact (ht depth).combine (fun _ _ => rfl) (hu depth)
  | term t ih => exact (ih depth).same fun _ => rfl
  | sum e op h t he ht => exact (he depth).combine (fun _ _ => rfl) (ht depth)

theorem evaluateWith_text_eq (A : Arithmetic) (p : Phrase Leaf Elementary .expression) :
    evaluateWith A p.text = (do
      let q ← (p.substitute Leaf.atom).expandCalls A 0
      let x ← q.tree.value A .plain
      finite x) := by
  have h := (Calls.copies_expandAfter A 0).rewrites_whole
    (Calls.rewrites_spell A (p.substitute Leaf.atom) 0)
  rw [evaluateWith, Constants.expand_text, Calls.expand, h]
  exact Calls.bind_infixValue A _ finite

theorem expands_text {A : Arithmetic} (hA : A.negate = Number.neg)
    (p : Phrase Leaf Elementary .expression) :
    match (p.substitute Leaf.atom).expandCalls A 0 with
    | .ok q => p.tree.callDepth ≤ 64 ∧ q.tree.value A .plain = p.tree.value A (.full A)
    | .error f => p.tree.callDepth ≤ 64 →
      f.kind ≠ .malformed ∧ ∃ g, p.tree.value A (.full A) = .error g := by
  have hvalue := Phrase.value_substitute (R := .full A) (Leaf.value_atom A) rfl p
  have hdepth := Phrase.callDepth_substitute Leaf.callDepth_atom p
  have h := expands_expandCalls hA (p.substitute Leaf.atom) 0
  rw [← hvalue, ← hdepth]
  cases hr : (p.substitute Leaf.atom).expandCalls A 0 <;> rw [hr] at h <;> exact h

theorem bind_finite_eq_ok {r : Except Fault Number} {x : Number} :
    (r >>= finite) = .ok x ↔ r = .ok x ∧ x.isFinite = true := by
  rw [Fault.bind_eq_ok]
  constructor
  · intro hvalue
    obtain ⟨y, hy, hfinite⟩ := hvalue
    obtain ⟨rfl, hx⟩ := finite_eq_ok_iff.1 hfinite
    exact ⟨hy, hx⟩
  · intro hvalue
    obtain ⟨hx, hfinite⟩ := hvalue
    exact ⟨x, hx, finite_eq_ok_iff.2 ⟨rfl, hfinite⟩⟩

theorem evaluateWith_text_of_callDepth_le {A : Arithmetic} (hA : A.negate = Number.neg)
    {p : Phrase Leaf Elementary .expression} (hd : p.tree.callDepth ≤ 64) (x : Number) :
    evaluateWith A p.text = .ok x ↔ p.tree.value A (.full A) = .ok x ∧ x.isFinite = true := by
  have h := expands_text hA p
  rw [evaluateWith_text_eq]
  cases hr : (p.substitute Leaf.atom).expandCalls A 0 with
  | error g =>
    rw [hr] at h
    obtain ⟨_, e, he⟩ := h hd
    rw [he]
    simp
  | ok q =>
    rw [hr] at h
    rw [← h.2]
    exact bind_finite_eq_ok

theorem kind_of_evaluateWith_text {A : Arithmetic} (hA : A.negate = Number.neg)
    {p : Phrase Leaf Elementary .expression} (hd : p.tree.callDepth ≤ 64) {f : Fault}
    (hf : evaluateWith A p.text = .error f) : f.kind ≠ .malformed := by
  have h := expands_text hA p
  rw [evaluateWith_text_eq] at hf
  rcases Fault.bind_eq_error.1 hf with hcalls | ⟨q, _, hf⟩
  · rw [hcalls] at h
    exact (h hd).1
  rcases Fault.bind_eq_error.1 hf with hvalue | ⟨x, _, hfinite⟩
  · exact Tree.kind_of_value hvalue
  · exact kind_of_finite hfinite

theorem evaluateWith_text_of_lt_callDepth {A : Arithmetic} (hA : A.negate = Number.neg)
    {p : Phrase Leaf Elementary .expression} (hd : 64 < p.tree.callDepth) (x : Number) :
    evaluateWith A p.text ≠ .ok x := by
  have h := expands_text hA p
  rw [evaluateWith_text_eq]
  cases hr : (p.substitute Leaf.atom).expandCalls A 0 with
  | error g => exact fun hx => nomatch hx
  | ok q =>
    rw [hr] at h
    have := h.1
    omega

/-- Every tree has a text. Whatever the operations return, save that negation turns
the sign: up to a depth of 64 each text of the tree has the tree's value when that is
finite, and no fault of form; beyond that depth it has no value. -/
theorem evaluateWith_text (combine : Operator → Number → Number → Number)
    (elementary : Elementary → Number → Number) (t : Tree Leaf Elementary) :
    let A : Arithmetic := ⟨Number.neg, combine, elementary⟩
    (∃ p : Phrase Leaf Elementary .expression, p.tree = t) ∧
      ∀ p : Phrase Leaf Elementary .expression, p.tree = t →
        (t.callDepth ≤ 64 →
          (∀ x, evaluateWith A p.text = .ok x ↔
            t.value A (.full A) = .ok x ∧ x.isFinite = true) ∧
          ∀ f, evaluateWith A p.text = .error f → f.kind ≠ .malformed) ∧
        (64 < t.callDepth → ∀ x, evaluateWith A p.text ≠ .ok x) := by
  intro A
  refine ⟨⟨.ofAtom t.grouped, ?_⟩, ?_⟩
  · exact t.tree_grouped
  · rintro p rfl
    refine ⟨fun hd => ⟨?_, ?_⟩, evaluateWith_text_of_lt_callDepth rfl⟩
    · exact evaluateWith_text_of_callDepth_le rfl hd
    · exact fun f hf => kind_of_evaluateWith_text rfl hd hf

def Literal.one : Literal where
  mantissa := ⟨['1'], none, by simp, by simp⟩
  exponent := none
  isFinite := by decide +kernel

def Literal.two : Literal where
  mantissa := ⟨['2'], none, by simp, by simp⟩
  exponent := none
  isFinite := by decide +kernel

def Phrase.rootOverPower : Phrase Leaf Elementary .expression :=
  .term (.product
    (.factor (.negative (.unsigned (.atom (.call .sqrt (.ofUnary (.unsigned
      (.power (.leaf (.literal .two)) (.negative (.unsigned (.atom (.leaf .euler))))))))))))
    .divide Operator.level_divide
    (.unsigned (.power (.call .ln (.ofAtom (.leaf .pi)))
      (.unsigned (.atom (.leaf (.literal .two)))))))

theorem evaluateWith_rootOverPower :
    evaluateWith ⟨Number.neg, fun _ x _ => x, fun _ x => x⟩ "-sqrt(2^-e)÷ln(π)^2".toList =
      .ok (Number.ofNat 2).neg := by
  have h := evaluateWith_text (fun _ x _ => x) (fun _ x => x) Phrase.rootOverPower.tree
  have hdepth : Phrase.rootOverPower.tree.callDepth ≤ 64 := by decide
  have hvalue : Phrase.rootOverPower.tree.value ⟨Number.neg, fun _ x _ => x, fun _ x => x⟩
      (.full ⟨Number.neg, fun _ x _ => x, fun _ x => x⟩) = .ok (Number.ofNat 2).neg :=
    eq_ok_of_toOption (by decide +kernel)
  exact (((h.2 Phrase.rootOverPower rfl).1 hdepth).1 _).2 ⟨hvalue, by decide +kernel⟩

theorem evaluate_literal (l : Literal) : evaluate l.text = .ok l.value := by
  let p : Phrase Leaf Elementary .expression := .ofAtom (.leaf (.literal l))
  have h : p.tree.callDepth ≤ 64 := Nat.zero_le _
  exact (evaluateWith_text_of_callDepth_le (A := .double) rfl h l.value).2 ⟨rfl, l.isFinite⟩

theorem evaluate_negative (l : Literal) : evaluate ('-' :: l.text) = .ok l.value.neg := by
  let p : Phrase Leaf Elementary .expression :=
    .ofUnary (.negative (.unsigned (.atom (.leaf (.literal l)))))
  have h : p.tree.callDepth ≤ 64 := Nat.zero_le _
  have hfinite : l.value.neg.isFinite = true := by
    rw [Number.isFinite_neg]
    exact l.isFinite
  exact (evaluateWith_text_of_callDepth_le (A := .double) rfl h l.value.neg).2 ⟨rfl, hfinite⟩

end Calculator
