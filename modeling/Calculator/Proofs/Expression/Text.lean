import Calculator.Expression.Calls
import Calculator.Proofs.ReversePolish.Conversion
import Calculator.Proofs.Token.Literal

set_option autoImplicit false

namespace Calculator

def Number.pi : Number := Decimal.toNumber ⟨314159265358979323846264338327950288, -35⟩

def Number.euler : Number := Decimal.toNumber ⟨271828182845904523536028747135266250, -35⟩

inductive Leaf
  | literal (l : Literal)
  | pi
  | euler

namespace Leaf

def text : Leaf → List Char
  | literal l => l.text
  | pi => ['π']
  | euler => ['e']

def value : Leaf → Number
  | literal l => l.value
  | pi => .pi
  | euler => .euler

end Leaf

namespace Alphabet

def characters {α ν : Type} (leaf : α → List Char) (name : ν → List Char) : Alphabet α ν Char where
  leaf := leaf
  name := name
  operator := Operator.char
  opening := '('
  closing := ')'

def full : Alphabet Leaf Elementary Char := characters Leaf.text Elementary.name

def constantFree : Alphabet Literal Elementary Char := characters Literal.text Elementary.name

def plain : Alphabet Literal Empty Char := characters Literal.text fun f => nomatch f

end Alphabet

namespace Reading

def full (A : Arithmetic) : Reading Leaf Elementary := ⟨Leaf.value, Elementary.apply A⟩

def constantFree (A : Arithmetic) : Reading Literal Elementary :=
  ⟨Literal.value, Elementary.apply A⟩

def plain : Reading Literal Empty := ⟨Literal.value, fun f _ => nomatch f⟩

end Reading

def Phrase.text {l : Level} (p : Phrase Leaf Elementary l) : List Char := p.spell .full

/-- The phrase with each literal read. -/
def Phrase.numbers {l : Level} (p : Phrase Literal Empty l) : Phrase Number Empty l :=
  p.substitute fun a => .leaf a.value

theorem Phrase.value_numbers (A : Arithmetic) {l : Level} (p : Phrase Literal Empty l) :
    p.numbers.tree.value A .number = p.tree.value A .plain := by
  have hc : Reading.number.call = Reading.plain.call := by
    funext f
    exact f.elim
  exact value_substitute (fun _ => rfl) hc p

namespace Token

open ReversePolish (map_map_append)

theorem impliedProduct_closing (previous : Option Token) :
    impliedProduct previous (.symbol .closing) = [] := by
  cases previous with
  | none => rfl
  | some t =>
    cases t with
    | number x => rfl
    | symbol s => cases s <;> rfl

theorem impliedProduct_binary (previous : Option Token) (op : Operator) :
    impliedProduct previous (.symbol (.binary op)) = [] := by
  cases previous with
  | none => rfl
  | some t =>
    cases t with
    | number x => rfl
    | symbol s => cases s <;> rfl

theorem scan_symbol {previous : Option Token} {c : Char} {s : Symbol}
    (hc : isLiteralCharacter c = false) (hs : Symbol.ofChar? c = some s)
    (hp : impliedProduct previous (.symbol s) = []) (rest : List Char) :
    scan previous (c :: rest) = (scan (some (.symbol s)) rest).map ([.symbol s] ++ ·) := by
  rw [scan, dif_neg (by simp [hc])]
  simp only [hs, hp, List.nil_append]
  cases scan (some (.symbol s)) rest <;> rfl

theorem scan_operator (previous : Option Token) (op : Operator) (rest : List Char) :
    scan previous (op.char :: rest) =
      (scan (some (.symbol (.binary op))) rest).map ([.symbol (.binary op)] ++ ·) :=
  scan_symbol (isLiteralCharacter_char op) (Symbol.ofChar?_char (.binary op) (by simp))
    (impliedProduct_binary previous op) rest

theorem scan_closing (previous : Option Token) (rest : List Char) :
    scan previous (')' :: rest) =
      (scan (some (.symbol .closing)) rest).map ([.symbol .closing] ++ ·) :=
  scan_symbol rfl rfl (impliedProduct_closing previous) rest

theorem scan_behind (previous : Option Token) {rest : List Char} (h : Behind rest) :
    scan previous rest = scan none rest := by
  cases h with
  | done => rw [scan, scan]
  | closing cs => rw [scan_closing, scan_closing none]
  | operator op cs => rw [scan_operator, scan_operator none]

/-- Whether a text is these tokens, before what can stand behind an expression. -/
def Scans (cs : List Char) (tokens : List Token) : Prop :=
  ∀ ⦃previous : Option Token⦄ ⦃rest : List Char⦄, (∀ t, impliedProduct previous t = []) →
    Behind rest → scan previous (cs ++ rest) = (scan none rest).map (tokens ++ ·)

namespace Scans

theorem literal (l : Literal) : Scans l.text [.number l.value] := by
  intro previous rest hp hr
  rw [scan_literal l (hp _) hr.endsLiteral, scan_behind _ hr]

theorem group {cs : List Char} {tokens : List Token} (h : Scans cs tokens) :
    Scans ('(' :: cs ++ [')']) (.symbol .opening :: tokens ++ [.symbol .closing]) := by
  intro previous rest hp hr
  have hopen : ∀ t, impliedProduct (some (.symbol .opening)) t = [] := fun _ => rfl
  have hcs := h hopen (.closing rest)
  rw [List.cons_append, List.cons_append, scan_symbol rfl rfl (hp _), List.append_assoc,
    List.singleton_append, hcs, scan_closing, scan_behind _ hr, map_map_append, map_map_append]
  simp

theorem prefixed {cs : List Char} {tokens : List Token} (op : Operator) (h : Scans cs tokens) :
    Scans (op.char :: cs) (.symbol (.binary op) :: tokens) := by
  intro previous rest hp hr
  have hop : ∀ t, impliedProduct (some (.symbol (.binary op))) t = [] := fun _ => rfl
  rw [List.cons_append, scan_operator, h hop hr, map_map_append]
  rfl

theorem combine {xs ys : List Char} {ts us : List Token} (op : Operator) (hx : Scans xs ts)
    (hy : Scans ys us) : Scans (xs ++ op.char :: ys) (ts ++ .symbol (.binary op) :: us) := by
  intro previous rest hp hr
  have hnone : ∀ t, impliedProduct none t = [] := fun _ => rfl
  have hy' := hy.prefixed op hnone hr
  rw [List.append_assoc, List.cons_append, hx hp (.operator op _), ← List.cons_append, hy',
    map_map_append]

end Scans

theorem scans_spell {l : Level} (p : Phrase Literal Empty l) :
    Scans (p.spell .plain) p.numbers.tokens := by
  induction p with
  | leaf a => exact .literal a
  | group e ih => exact ih.group
  | call f e => exact f.elim
  | atom a ih => exact ih
  | power a u ha hu => exact ha.combine .power hu
  | unsigned p ih => exact ih
  | negative u ih => exact ih.prefixed .minus
  | factor u ih => exact ih
  | product t op h u ht hu => exact ht.combine op hu
  | term t ih => exact ih
  | sum e op h t he ht => exact he.combine op ht

end Token

theorem isBlank_of_isDigit {c : Char} (h : c.isDigit = true) : isBlank c = false := by
  simp only [Char.isDigit, Bool.and_eq_true, decide_eq_true_eq] at h
  have h1 : 48 ≤ c.toNat := h.1
  have h2 : c.toNat ≤ 57 := h.2
  simp only [isBlank, blankRanges, inRanges]
  simp [show ¬c.toNat < 9 by omega, show ¬c.toNat < 32 by omega, show ¬c.toNat ≤ 13 by omega,
    show ¬c.toNat ≤ 32 by omega, show c.toNat < 133 by omega]

theorem Literal.isBlank_of_mem {l : Literal} {c : Char} (h : c ∈ l.text) :
    isBlank c = false := by
  rcases l.eq_of_mem h with hd | hc
  · exact isBlank_of_isDigit hd
  · have hall : ∀ c ∈ ['.', 'e', 'E', '+', '-'], (!isBlank c) = true := List.all_eq_true.1 rfl
    simpa using hall c hc

theorem withoutBlanks_spell {l : Level} (p : Phrase Literal Empty l) :
    withoutBlanks (p.spell .plain) = p.spell .plain := by
  have hop : ∀ op : Operator, isBlank op.char = false := fun op => by cases op <;> rfl
  have h : ∀ c ∈ p.spell .plain, isBlank c = false :=
    p.forall_mem_spell (P := fun c => isBlank c = false) (fun _ _ => Literal.isBlank_of_mem)
      (fun f => nomatch f) hop rfl rfl
  exact withoutBlanks_eq_self h

theorem tokenize_spell (p : Phrase Literal Empty .expression) :
    tokenize (p.spell .plain) = .ok p.numbers.tokens := by
  have hnone : ∀ t, Token.impliedProduct none t = [] := fun _ => rfl
  have h := Token.scans_spell p hnone .done
  rw [List.append_nil, Token.scan] at h
  rw [tokenize, withoutBlanks_spell, h]
  simp [Except.map]

/-- The text of an expression without calls has the value of its tree. -/
theorem infixValue_spell (A : Arithmetic) (p : Phrase Literal Empty .expression) :
    infixValue A (p.spell .plain) = p.tree.value A .plain := by
  rw [infixValue, tokenize_spell, ← p.value_numbers A]
  exact ReversePolish.value_ofTokens_tokens A p.numbers

end Calculator
