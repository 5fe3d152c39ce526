import Calculator.Expression.Constants
import Calculator.Proofs.Expression.Rewriting

set_option autoImplicit false

namespace Calculator

namespace Leaf

def piLiteral : Literal where
  mantissa := ⟨['3'], some "141592653589793".toList, by simp, by simp⟩
  exponent := none
  isFinite := by decide +kernel

def eulerLiteral : Literal where
  mantissa := ⟨['2'], some "718281828459045".toList, by simp, by simp⟩
  exponent := none
  isFinite := by decide +kernel

def atom : Leaf → Phrase Literal Elementary .atom
  | literal l => .leaf l
  | pi => .group (.ofAtom (.leaf piLiteral))
  | euler => .group (.ofAtom (.leaf eulerLiteral))

theorem value_piLiteral : piLiteral.value = .pi := by decide +kernel

theorem value_eulerLiteral : eulerLiteral.value = .euler := by decide +kernel

theorem value_atom (A : Arithmetic) (a : Leaf) :
    a.atom.tree.value A (.constantFree A) = .ok a.value := by
  cases a with
  | literal l => rfl
  | pi =>
    simp only [atom, Phrase.ofAtom, Phrase.ofUnary, Phrase.tree, Tree.value,
      Reading.constantFree, value, value_piLiteral]
  | euler =>
    simp only [atom, Phrase.ofAtom, Phrase.ofUnary, Phrase.tree, Tree.value,
      Reading.constantFree, value, value_eulerLiteral]

theorem callDepth_atom (a : Leaf) : a.atom.tree.callDepth = 0 := by
  cases a <;> rfl

end Leaf

namespace Constants

/-- Writing out the constants never fails. -/
def pass : Pass := fun previous cs => .ok (expandAfter previous cs)

theorem expandAfter_copy {previous : Option Char} {c : Char} {after : List Char}
    (hpi : c ≠ 'π') (he : c = 'e' → isEuler previous after = false) :
    expandAfter previous (c :: after) = c :: expandAfter (some c) after := by
  have hne : ¬(c = 'e' ∧ isEuler previous after = true) := by
    intro hconstant
    obtain ⟨h, ht⟩ := hconstant
    rw [he h] at ht
    cases ht
  rw [expandAfter, if_neg hpi, if_neg hne]
  rfl

theorem copies_pass : pass.Copies where
  done _ := rfl
  plain previous c after h := by
    have hpi : c ≠ 'π' := by rintro rfl; cases h
    have he : c ≠ 'e' := by rintro rfl; cases h
    exact congrArg Except.ok (expandAfter_copy hpi fun h => absurd h he)
  mark previous c after h := by
    have hpi : c ≠ 'π' := by
      rintro rfl
      simp [marksExponent, Decimal.isExponentLetter] at h
    refine congrArg Except.ok (expandAfter_copy hpi fun he => ?_)
    rw [he] at h
    simp [isEuler, h]

theorem expandAfter_append {cs : List Char} (h : ∀ c ∈ cs, c ≠ 'π' ∧ c ≠ 'e')
    (previous : Option Char) (rest : List Char) :
    expandAfter previous (cs ++ rest) = cs ++ expandAfter (cs.getLast?.or previous) rest := by
  induction cs generalizing previous with
  | nil => rfl
  | cons c cs ih =>
    obtain ⟨hpi, he⟩ := h c (by simp)
    rw [List.cons_append, expandAfter_copy hpi fun h => absurd h he,
      ih fun d hd => h d (by simp [hd]), getLast?_cons_or]
    rfl

theorem isNameLetter_char (op : Operator) : isNameLetter op.char = false := by
  cases op <;> decide +kernel

theorem isNameLetter_before {previous : Option Char} (h : Before previous) :
    previous.any isNameLetter = false := by
  cases h with
  | start => rfl
  | opening => decide +kernel
  | operator op => exact isNameLetter_char op

theorem isNameLetter_behind {rest : List Char} (h : Behind rest) :
    rest.head?.any isNameLetter = false := by
  cases h with
  | done => rfl
  | closing cs =>
    show isNameLetter ')' = false
    decide +kernel
  | operator op cs => exact isNameLetter_char op

theorem isEuler_of_before {previous : Option Char} {rest : List Char} (hp : Before previous)
    (hr : Behind rest) : isEuler previous rest = true := by
  simp [isEuler, isNameLetter_before hp, isNameLetter_behind hr, hp.marksExponent]

theorem rewrites_leaf (a : Leaf) :
    pass.Rewrites a.text (.ok (a.atom.spell .constantFree)) := by
  cases a with
  | literal l => exact .literal copies_pass l
  | pi =>
    intro previous rest _ hr
    have hrest : pass (some 'π') rest = pass none rest := copies_pass.behind _ hr
    show Except.ok (pi ++ expandAfter (some 'π') rest) = Except.ok (pi ++ expandAfter none rest)
    rw [Except.ok.inj hrest]
  | euler =>
    intro previous rest hp hr
    have hrest : pass (some 'e') rest = pass none rest := copies_pass.behind _ hr
    have he : expandAfter previous ('e' :: rest) = euler ++ expandAfter (some 'e') rest := by
      rw [expandAfter, if_neg (by decide), if_pos ⟨rfl, isEuler_of_before hp hr⟩]
    show Except.ok (expandAfter previous ('e' :: rest)) =
      Except.ok (euler ++ expandAfter none rest)
    rw [he, Except.ok.inj hrest]

theorem rewrites_call (f : Elementary) {cs out : List Char} (h : pass.Rewrites cs (.ok out)) :
    pass.Rewrites (f.name ++ '(' :: cs ++ [')']) (.ok (f.name ++ '(' :: out ++ [')'])) := by
  intro previous rest _ hr
  have hname : ∀ c ∈ f.name, c ≠ 'π' ∧ c ≠ 'e' := by
    cases f <;> simp [Elementary.name]
  have hgroup := h.parenthesized copies_pass (f.name.getLast?.or previous) hr
  have hcopy := expandAfter_append hname previous ('(' :: cs ++ [')'] ++ rest)
  have htext : f.name ++ '(' :: cs ++ [')'] ++ rest = f.name ++ ('(' :: cs ++ [')'] ++ rest) := by
    simp
  rw [htext, pass, hcopy, Except.ok.inj hgroup]
  simp [Except.map, pass]

theorem rewrites_spell {l : Level} (p : Phrase Leaf Elementary l) :
    pass.Rewrites (p.spell .full) (.ok ((p.substitute Leaf.atom).spell .constantFree)) := by
  induction p with
  | leaf a => exact rewrites_leaf a
  | group e ih => exact ih.group copies_pass
  | call f e ih => exact rewrites_call f ih
  | atom a ih => exact ih
  | power a u ha hu => exact ha.combine copies_pass .power hu
  | unsigned p ih => exact ih
  | negative u ih => exact ih.prefixed copies_pass .minus
  | factor u ih => exact ih
  | product t op h u ht hu => exact ht.combine copies_pass op hu
  | term t ih => exact ih
  | sum e op h t he ht => exact he.combine copies_pass op ht

theorem expand_text (p : Phrase Leaf Elementary .expression) :
    expand p.text = (p.substitute Leaf.atom).spell .constantFree :=
  Except.ok.inj (copies_pass.rewrites_whole (rewrites_spell p))

end Constants

end Calculator
