import Calculator.Proofs.Grammar
import Calculator.Proofs.ReversePolish.Release

set_option autoImplicit false

namespace Calculator

namespace ReversePolish

theorem convert_number (expects : Bool) (stack : List Symbol) (x : Number) (rest : List Token) :
    convert expects stack (.number x :: rest) =
      (convert false stack rest).map ([.number x] ++ ·) := by
  rw [convert]
  cases convert false stack rest <;> rfl

theorem convert_closing (expects : Bool) {stack left : List Symbol} {out : List Token}
    (h : releaseToOpening stack = some (out, left)) (rest : List Token) :
    convert expects stack (.symbol .closing :: rest) =
      (convert false left rest).map (out ++ ·) := by
  simp only [convert, h]
  cases convert false left rest <;> rfl

theorem convert_operator {expects : Bool} {op : Operator} (h : ¬(op = .minus ∧ expects = true))
    {stack left : List Symbol} {out : List Token} (hrelease : release op.binding stack = (out, left))
    (tokens : List Token) : convert expects stack (.symbol (.binary op) :: tokens) =
      (convert true (.binary op :: left) tokens).map (out ++ ·) := by
  simp only [convert, if_neg h, hrelease]
  cases convert true (.binary op :: left) tokens <;> rfl

theorem convert_minus (stack : List Symbol) (rest : List Token) :
    convert true stack (.symbol (.binary .minus) :: rest) =
      convert true (.negate :: stack) rest := by
  simp [convert]

theorem map_map_append {α ε : Type} (xs ys : List α) (r : Except ε (List α)) :
    (r.map (ys ++ ·)).map (xs ++ ·) = r.map (xs ++ ys ++ ·) := by
  cases r <;> simp [Except.map]

end ReversePolish

namespace Level

open ReversePolish

/-- The operators that wait after a phrase of this level bind at least so strongly. -/
def strength : Level → Nat
  | expression => 1
  | term | unary | power => 2
  | atom => 4

def Quiet (l : Level) (stack : List Symbol) : Prop :=
  ∀ op : Operator, op.level = l → release op.binding stack = ([], stack)

/-- Whether these operators may wait after a phrase of this level. -/
def Waits (l : Level) (ops : List Symbol) : Prop :=
  ∀ s ∈ ops, ∃ b, s.binding? = some b ∧ l.strength ≤ b.precedence

theorem quiet_nil (l : Level) : l.Quiet [] := fun _ _ => rfl

theorem quiet_opening (l : Level) (stack : List Symbol) : l.Quiet (.opening :: stack) :=
  fun _ _ => rfl

theorem quiet_unary (stack : List Symbol) : unary.Quiet stack := by
  intro op h
  cases op <;> cases h

theorem quiet_atom (stack : List Symbol) : atom.Quiet stack := by
  intro op h
  cases op <;> cases h

theorem quiet_power (stack : List Symbol) : power.Quiet stack := by
  intro op h
  cases op with
  | power =>
    cases stack with
    | nil => rfl
    | cons s stack =>
      cases s with
      | binary op => cases op <;> rfl
      | negate => rfl
      | opening => rfl
      | closing => rfl
  | _ => cases h

theorem quiet_term_of_quiet {stack : List Symbol} (h : expression.Quiet stack) :
    term.Quiet stack := by
  have hplus := h .plus rfl
  intro op hop
  cases stack with
  | nil => rfl
  | cons s stack =>
    cases hb : s.binding? with
    | none => simp only [release, hb]
    | some b =>
      have hlow : b.precedence = 0 := by
        simp only [release, hb, yields, Operator.binding] at hplus
        by_cases hy : 1 ≤ b.precedence
        · simp [hy] at hplus
        · omega
      cases op <;> simp_all [release, yields, Operator.binding, Operator.level]

theorem quiet_term_cons {op : Operator} (h : op.level = .expression) (stack : List Symbol) :
    term.Quiet (.binary op :: stack) := by
  intro op' h'
  cases op <;> cases h <;> cases op' <;> first | rfl | cases h'

theorem waits_nil (l : Level) : l.Waits [] := fun _ hs => nomatch hs

theorem Waits.mono {l l' : Level} {ops : List Symbol} (h : l.Waits ops)
    (hl : l'.strength ≤ l.strength) : l'.Waits ops := by
  intro s hs
  obtain ⟨b, hb, hp⟩ := h s hs
  exact ⟨b, hb, Nat.le_trans hl hp⟩

theorem Waits.opening_not_mem {l : Level} {ops : List Symbol} (h : l.Waits ops) :
    .opening ∉ ops := by
  intro hopening
  obtain ⟨b, hb, _⟩ := h _ hopening
  cases hb

theorem Waits.concat {l : Level} {ops : List Symbol} {s : Symbol} {b : Binding}
    (h : l.Waits ops) (hs : s.binding? = some b) (hb : l.strength ≤ b.precedence) :
    l.Waits (ops ++ [s]) := by
  intro r hr
  rcases List.mem_append.1 hr with hr | hr
  · exact h r hr
  · rw [List.mem_singleton.1 hr]
    exact ⟨b, hs, hb⟩

end Level

def Operator.before : Operator → Level
  | .plus | .minus => .expression
  | .times | .divide => .term
  | .power => .atom

namespace ReversePolish

theorem yields_of_strength_le {op : Operator} {b : Binding}
    (h : op.before.strength ≤ b.precedence) : yields b op.binding = true := by
  cases op <;> exact decide_eq_true h

theorem release_of_waits {op : Operator} {ops stack : List Symbol} (hw : op.before.Waits ops)
    (hq : op.level.Quiet stack) :
    release op.binding (ops ++ stack) = (ops.map .symbol, stack) := by
  induction ops with
  | nil => exact hq op rfl
  | cons s ops ih =>
    obtain ⟨b, hb, hp⟩ := hw s (by simp)
    have hrest := ih fun s hs => hw s (by simp [hs])
    simp only [List.cons_append, release, hb, yields_of_strength_le hp, if_true, hrest,
      List.map_cons]

/-- Reading these tokens above the stack writes a part of the form of the tree and
leaves the rest of it waiting. -/
def Converts (l : Level) (stack : List Symbol) (tokens : List Token) (t : Tree Number Empty) :
    Prop :=
  ∃ out ops, l.Waits ops ∧ out ++ ops.map .symbol = t.reversed ∧
    ∀ rest, convert true stack (tokens ++ rest) =
      (convert false (ops ++ stack) rest).map (out ++ ·)

theorem Converts.mono {l l' : Level} {stack : List Symbol} {tokens : List Token}
    {t : Tree Number Empty} (h : Converts l stack tokens t) (hl : l'.strength ≤ l.strength) :
    Converts l' stack tokens t := by
  obtain ⟨out, ops, hw, ht, hc⟩ := h
  exact ⟨out, ops, hw.mono hl, ht, hc⟩

theorem Converts.combine {l l' : Level} {stack : List Symbol} {xs ys : List Token}
    {s t : Tree Number Empty} (op : Operator) (hs : Converts op.before stack xs s)
    (ht : Converts l (.binary op :: stack) ys t) (hq : op.level.Quiet stack)
    (hl : l'.strength ≤ l.strength) (hop : l'.strength ≤ op.binding.precedence) :
    Converts l' stack (xs ++ .symbol (.binary op) :: ys) (.combine op s t) := by
  obtain ⟨out₁, ops₁, hw₁, ht₁, hc₁⟩ := hs
  obtain ⟨out₂, ops₂, hw₂, ht₂, hc₂⟩ := ht
  refine ⟨out₁ ++ (ops₁.map .symbol ++ out₂), ops₂ ++ [.binary op], ?_, ?_, ?_⟩
  · exact (hw₂.mono hl).concat rfl hop
  · simp only [Tree.reversed, ← ht₁, ← ht₂, List.map_append, List.append_assoc, List.map_cons,
      List.map_nil]
  · intro rest
    rw [List.append_assoc, List.cons_append, hc₁, convert_operator (by simp) (release_of_waits hw₁ hq),
      hc₂, map_map_append, map_map_append]
    simp only [List.append_assoc, List.cons_append, List.nil_append]

theorem converts_number (stack : List Symbol) (x : Number) :
    Converts .atom stack [.number x] (.leaf x) :=
  ⟨[.number x], [], Level.waits_nil _, rfl, convert_number true stack x⟩

theorem Converts.group {l l' : Level} {stack : List Symbol} {tokens : List Token}
    {t : Tree Number Empty} (h : Converts l (.opening :: stack) tokens t) :
    Converts l' stack (.symbol .opening :: (tokens ++ [.symbol .closing])) t := by
  obtain ⟨out, ops, hw, ht, hc⟩ := h
  refine ⟨out ++ ops.map .symbol, [], Level.waits_nil _, ?_, fun rest => ?_⟩
  · rw [List.map_nil, List.append_nil]
    exact ht
  · have hopen : convert true stack
        (.symbol .opening :: (tokens ++ [.symbol .closing]) ++ rest) =
        convert true (.opening :: stack) (tokens ++ .symbol .closing :: rest) := by
      simp [convert]
    rw [hopen, hc, convert_closing _ (releaseToOpening_append hw.opening_not_mem stack), map_map_append]
    rfl

theorem Converts.negate {l : Level} {stack : List Symbol} {tokens : List Token}
    {t : Tree Number Empty} (h : Converts l (.negate :: stack) tokens t)
    (hl : l.strength ≤ 2) :
    Converts l stack (.symbol (.binary .minus) :: tokens) (.negate t) := by
  obtain ⟨out, ops, hw, ht, hc⟩ := h
  refine ⟨out, ops ++ [.negate], hw.concat rfl hl, ?_, fun rest => ?_⟩
  · simp only [Tree.reversed, ← ht, List.map_append, List.append_assoc, List.map_cons,
      List.map_nil]
  · rw [List.cons_append, convert_minus, hc, List.append_assoc]
    rfl

theorem converts_tokens {l : Level} (p : Phrase Number Empty l) {stack : List Symbol}
    (hq : l.Quiet stack) : Converts l stack p.tokens p.tree := by
  induction p generalizing stack with
  | leaf x => exact converts_number stack x
  | group e ih => exact (ih (Level.quiet_opening _ stack)).group
  | call f e => exact f.elim
  | atom a ih => exact (ih (Level.quiet_atom stack)).mono (by decide)
  | power a u ha hu =>
    exact (ha (Level.quiet_atom stack)).combine .power (hu (Level.quiet_unary _)) hq
      (Nat.le_refl _) (by decide)
  | unsigned p ih => exact ih (Level.quiet_power stack)
  | negative u ih => exact (ih (Level.quiet_unary (.negate :: stack))).negate (Nat.le_refl _)
  | factor u ih => exact ih (Level.quiet_unary stack)
  | product t op h u ht hu =>
    have hbefore : op.before = .term := by cases op <;> first | rfl | cases h
    refine Converts.combine op ?_ (hu (Level.quiet_unary _)) ?_ (Nat.le_refl _) ?_
    · rw [hbefore]
      exact ht hq
    · rw [h]
      exact hq
    · cases op <;> first | decide | cases h
  | term t ih => exact (ih (Level.quiet_term_of_quiet hq)).mono (by decide)
  | sum e op h t he ht =>
    have hbefore : op.before = .expression := by cases op <;> first | rfl | cases h
    refine Converts.combine op ?_ (ht (Level.quiet_term_cons h stack)) ?_ (by decide) ?_
    · rw [hbefore]
      exact he hq
    · rw [h]
      exact hq
    · cases op <;> decide

/-- The tokens of an expression become the reverse Polish form of its tree. -/
theorem ofTokens_tokens (p : Phrase Number Empty .expression) :
    ofTokens p.tokens = .ok p.tree.reversed := by
  obtain ⟨out, ops, hw, ht, hc⟩ := converts_tokens p (Level.quiet_nil _)
  have h := hc []
  rw [List.append_nil, List.append_nil] at h
  rw [ofTokens, h, convert, releaseAll_eq_ok_iff.2 ⟨hw.opening_not_mem, rfl⟩, ← ht]
  rfl

theorem value_ofTokens_tokens (A : Arithmetic) (p : Phrase Number Empty .expression) :
    (ofTokens p.tokens >>= value A) = p.tree.value A .number := by
  rw [ofTokens_tokens]
  exact value_reversed A p.tree

end ReversePolish

end Calculator
