import Calculator.Proofs.Tree

/-! The grammar of expressions. A phrase is a derivation: each constructor is one
production, so a phrase has parentheses wherever its tree needs them, and any more
that it likes. Its spelling is over any alphabet, characters or tokens. -/

set_option autoImplicit false

namespace Calculator

inductive Level
  | expression
  | term
  | unary
  | power
  | atom
  deriving DecidableEq, Repr

def Operator.level : Operator → Level
  | .plus | .minus => .expression
  | .times | .divide => .term
  | .power => .power

theorem Operator.level_divide : Operator.divide.level = .term := rfl

inductive Phrase (α ν : Type) : Level → Type
  | leaf (a : α) : Phrase α ν .atom
  | group (e : Phrase α ν .expression) : Phrase α ν .atom
  | call (f : ν) (e : Phrase α ν .expression) : Phrase α ν .atom
  | atom (a : Phrase α ν .atom) : Phrase α ν .power
  | power (a : Phrase α ν .atom) (u : Phrase α ν .unary) : Phrase α ν .power
  | unsigned (p : Phrase α ν .power) : Phrase α ν .unary
  | negative (u : Phrase α ν .unary) : Phrase α ν .unary
  | factor (u : Phrase α ν .unary) : Phrase α ν .term
  | product (t : Phrase α ν .term) (op : Operator) (h : op.level = .term)
      (u : Phrase α ν .unary) : Phrase α ν .term
  | term (t : Phrase α ν .term) : Phrase α ν .expression
  | sum (e : Phrase α ν .expression) (op : Operator) (h : op.level = .expression)
      (t : Phrase α ν .term) : Phrase α ν .expression

/-- How a grammar is spelled in symbols of type `σ`. -/
structure Alphabet (α ν σ : Type) where
  leaf : α → List σ
  name : ν → List σ
  operator : Operator → σ
  opening : σ
  closing : σ

namespace Phrase

variable {α β ν σ : Type} {l : Level}

def spell (S : Alphabet α ν σ) {l : Level} : Phrase α ν l → List σ
  | leaf a => S.leaf a
  | group e => S.opening :: e.spell S ++ [S.closing]
  | call f e => S.name f ++ S.opening :: e.spell S ++ [S.closing]
  | atom a => a.spell S
  | power a u => a.spell S ++ S.operator .power :: u.spell S
  | unsigned p => p.spell S
  | negative u => S.operator .minus :: u.spell S
  | factor u => u.spell S
  | product t op _ u => t.spell S ++ S.operator op :: u.spell S
  | term t => t.spell S
  | sum e op _ t => e.spell S ++ S.operator op :: t.spell S

-- This derives the equations of `spell`, which takes a while, before the proofs ask for them.
attribute [local simp] spell

def tree {l : Level} : Phrase α ν l → Tree α ν
  | leaf a => .leaf a
  | group e => e.tree
  | call f e => .call f e.tree
  | atom a => a.tree
  | power a u => .combine .power a.tree u.tree
  | unsigned p => p.tree
  | negative u => .negate u.tree
  | factor u => u.tree
  | product t op _ u => .combine op t.tree u.tree
  | term t => t.tree
  | sum e op _ t => .combine op e.tree t.tree

def substitute (f : α → Phrase β ν .atom) {l : Level} : Phrase α ν l → Phrase β ν l
  | leaf a => f a
  | group e => .group (e.substitute f)
  | call g e => .call g (e.substitute f)
  | atom a => .atom (a.substitute f)
  | power a u => .power (a.substitute f) (u.substitute f)
  | unsigned p => .unsigned (p.substitute f)
  | negative u => .negative (u.substitute f)
  | factor u => .factor (u.substitute f)
  | product t op h u => .product (t.substitute f) op h (u.substitute f)
  | term t => .term (t.substitute f)
  | sum e op h t => .sum (e.substitute f) op h (t.substitute f)

theorem value_substitute {A : Arithmetic} {R : Reading α ν} {S : Reading β ν}
    {f : α → Phrase β ν .atom} (hf : ∀ a, (f a).tree.value A S = .ok (R.leaf a))
    (hc : S.call = R.call) (p : Phrase α ν l) :
    (p.substitute f).tree.value A S = p.tree.value A R := by
  induction p with
  | leaf a => exact hf a
  | group e ih => exact ih
  | call g e ih => simp only [substitute, tree, Tree.value, ih, hc]
  | atom a ih => exact ih
  | power a u ha hu => simp only [substitute, tree, Tree.value, ha, hu]
  | unsigned p ih => exact ih
  | negative u ih => simp only [substitute, tree, Tree.value, ih]
  | factor u ih => exact ih
  | product t op h u ht hu => simp only [substitute, tree, Tree.value, ht, hu]
  | term t ih => exact ih
  | sum e op h t he ht => simp only [substitute, tree, Tree.value, he, ht]

theorem callDepth_substitute {f : α → Phrase β ν .atom} (hf : ∀ a, (f a).tree.callDepth = 0)
    (p : Phrase α ν l) : (p.substitute f).tree.callDepth = p.tree.callDepth := by
  induction p with
  | leaf a => exact hf a
  | group e ih => exact ih
  | call g e ih => simp only [substitute, tree, Tree.callDepth, ih]
  | atom a ih => exact ih
  | power a u ha hu => simp only [substitute, tree, Tree.callDepth, ha, hu]
  | unsigned p ih => exact ih
  | negative u ih => exact ih
  | factor u ih => exact ih
  | product t op h u ht hu => simp only [substitute, tree, Tree.callDepth, ht, hu]
  | term t ih => exact ih
  | sum e op h t he ht => simp only [substitute, tree, Tree.callDepth, he, ht]

theorem forall_mem_spell {S : Alphabet α ν σ} {P : σ → Prop} (hl : ∀ a, ∀ c ∈ S.leaf a, P c)
    (hn : ∀ f, ∀ c ∈ S.name f, P c) (ho : ∀ op, P (S.operator op)) (hopen : P S.opening)
    (hclose : P S.closing) (p : Phrase α ν l) : ∀ c ∈ p.spell S, P c := by
  induction p with
  | leaf a => exact hl a
  | group e ih =>
    simp only [spell, List.cons_append, List.forall_mem_cons, List.forall_mem_append]
    exact ⟨hopen, ih, by simpa using hclose⟩
  | call f e ih =>
    simp only [spell, List.append_assoc, List.cons_append, List.forall_mem_cons,
      List.forall_mem_append]
    exact ⟨hn f, hopen, ih, by simpa using hclose⟩
  | atom a ih => exact ih
  | power a u ha hu =>
    simp only [spell, List.forall_mem_cons, List.forall_mem_append]
    exact ⟨ha, ho _, hu⟩
  | unsigned p ih => exact ih
  | negative u ih => exact List.forall_mem_cons.2 ⟨ho _, ih⟩
  | factor u ih => exact ih
  | product t op h u ht hu =>
    simp only [spell, List.forall_mem_cons, List.forall_mem_append]
    exact ⟨ht, ho _, hu⟩
  | term t ih => exact ih
  | sum e op h t he ht =>
    simp only [spell, List.forall_mem_cons, List.forall_mem_append]
    exact ⟨he, ho _, ht⟩

def ofUnary (u : Phrase α ν .unary) : Phrase α ν .expression := .term (.factor u)

def ofAtom (a : Phrase α ν .atom) : Phrase α ν .expression := ofUnary (.unsigned (.atom a))

def ofOperands (op : Operator) (a b : Phrase α ν .atom) : Phrase α ν .expression :=
  match op with
  | .plus => .sum (ofAtom a) .plus rfl (.factor (.unsigned (.atom b)))
  | .minus => .sum (ofAtom a) .minus rfl (.factor (.unsigned (.atom b)))
  | .times => .term (.product (.factor (.unsigned (.atom a))) .times rfl (.unsigned (.atom b)))
  | .divide => .term (.product (.factor (.unsigned (.atom a))) .divide rfl (.unsigned (.atom b)))
  | .power => ofUnary (.unsigned (.power a (.unsigned (.atom b))))

theorem tree_ofOperands (op : Operator) (a b : Phrase α ν .atom) :
    (ofOperands op a b).tree = .combine op a.tree b.tree := by
  cases op <;> rfl

end Phrase

namespace Tree

variable {α ν : Type}

/-- The phrase of a tree with parentheses around every operation. -/
def grouped : Tree α ν → Phrase α ν .atom
  | leaf a => .leaf a
  | negate t => .group (.ofUnary (.negative (.unsigned (.atom t.grouped))))
  | combine op s t => .group (.ofOperands op s.grouped t.grouped)
  | call f t => .call f (.ofAtom t.grouped)

theorem tree_grouped (t : Tree α ν) : t.grouped.tree = t := by
  induction t with
  | leaf a => rfl
  | negate t ih => simp [grouped, Phrase.tree, Phrase.ofUnary, ih]
  | combine op s t hs ht => simp [grouped, Phrase.tree, Phrase.tree_ofOperands, hs, ht]
  | call f t ih => simp [grouped, Phrase.tree, Phrase.ofUnary, Phrase.ofAtom, ih]

end Tree

def Alphabet.tokens : Alphabet Number Empty Token where
  leaf x := [.number x]
  name f := nomatch f
  operator op := .symbol (.binary op)
  opening := .symbol .opening
  closing := .symbol .closing

def Phrase.tokens {l : Level} (p : Phrase Number Empty l) : List Token := p.spell .tokens

end Calculator
