import Calculator.Proofs.Expression.Rewriting

set_option autoImplicit false

namespace Calculator

def Number.phrase : Number → Phrase Literal Empty .expression
  | .finite false m => .ofAtom (.leaf (.ofMagnitude m))
  | .finite true m => .ofUnary (.negative (.unsigned (.atom (.leaf (.ofMagnitude m)))))
  | _ => .ofAtom (.leaf (.ofMagnitude .zero))

theorem Number.spell_phrase {x : Number} (h : x.isFinite = true) :
    x.phrase.spell .plain = x.text := by
  cases x with
  | nan => cases h
  | infinite s => cases h
  | finite s m =>
    cases s with
    | false => exact Literal.text_ofMagnitude m
    | true => exact congrArg ('-' :: ·) (Literal.text_ofMagnitude m)

theorem Number.value_phrase {A : Arithmetic} (hA : A.negate = Number.neg) {x : Number}
    (h : x.isFinite = true) : x.phrase.tree.value A .plain = .ok x := by
  have hm := Literal.value_ofMagnitude
  cases x with
  | nan => cases h
  | infinite s => cases h
  | finite s m =>
    cases s with
    | false => exact congrArg Except.ok (hm m)
    | true =>
      show Except.ok (A.negate (Literal.ofMagnitude m).value) = _
      rw [hA, hm]
      rfl

/-- The phrase in a call of depth `depth` with its calls replaced by their values. -/
def Phrase.expandCalls (A : Arithmetic) (depth : Nat) {l : Level} :
    Phrase Literal Elementary l → Except Fault (Phrase Literal Empty l)
  | leaf a => .ok (.leaf a)
  | group e => do
    let e' ← e.expandCalls A depth
    pure (.group e')
  | call f e =>
    if Fault.maxCallDepth ≤ depth then .error .callsTooDeep
    else do
      let argument ← e.expandCalls A (depth + 1)
      let x ← argument.tree.value A .plain
      let y ← f.apply A x
      pure (.group y.phrase)
  | atom a => do
    let a' ← a.expandCalls A depth
    pure (.atom a')
  | power a u => do
    let a' ← a.expandCalls A depth
    let u' ← u.expandCalls A depth
    pure (.power a' u')
  | unsigned p => do
    let p' ← p.expandCalls A depth
    pure (.unsigned p')
  | negative u => do
    let u' ← u.expandCalls A depth
    pure (.negative u')
  | factor u => do
    let u' ← u.expandCalls A depth
    pure (.factor u')
  | product t op h u => do
    let t' ← t.expandCalls A depth
    let u' ← u.expandCalls A depth
    pure (.product t' op h u')
  | term t => do
    let t' ← t.expandCalls A depth
    pure (.term t')
  | sum e op h t => do
    let e' ← e.expandCalls A depth
    let t' ← t.expandCalls A depth
    pure (.sum e' op h t')

namespace Calls

theorem closing?_opening (depth : Nat) (cs : List Char) :
    closing? depth ('(' :: cs) =
      (closing? (depth + 1) cs).map fun (inside, after) => ('(' :: inside, after) := by
  rw [closing?.eq_def]
  rfl

theorem closing?_closing (depth : Nat) (cs : List Char) :
    closing? (depth + 1) (')' :: cs) =
      (closing? depth cs).map fun (inside, after) => (')' :: inside, after) := by
  rw [closing?.eq_def]
  rfl

theorem closing?_of_ne {c : Char} (ho : c ≠ '(') (hc : c ≠ ')') (depth : Nat) (cs : List Char) :
    closing? depth (c :: cs) =
      (closing? depth cs).map fun (inside, after) => (c :: inside, after) := by
  rw [closing?.eq_def]
  simp only [hc, ho, if_false]

/-- Whether each parenthesis of a text has its other one in it. -/
def Balanced (cs : List Char) : Prop :=
  ∀ (depth : Nat) (rest : List Char), closing? depth (cs ++ rest) =
    (closing? depth rest).map fun (inside, after) => (cs ++ inside, after)

namespace Balanced

theorem append {cs ds : List Char} (hc : Balanced cs) (hd : Balanced ds) : Balanced (cs ++ ds) := by
  intro depth rest
  rw [List.append_assoc, hc, hd, Option.map_map]
  simp [Function.comp_def]

theorem of_forall_ne {cs : List Char} (h : ∀ c ∈ cs, c ≠ '(' ∧ c ≠ ')') : Balanced cs := by
  intro depth rest
  induction cs with
  | nil => simp
  | cons c cs ih =>
    obtain ⟨ho, hc⟩ := h c (by simp)
    rw [List.cons_append, closing?_of_ne ho hc, ih fun d hd => h d (by simp [hd]),
      Option.map_map]
    simp [Function.comp_def]

theorem group {cs : List Char} (h : Balanced cs) : Balanced ('(' :: cs ++ [')']) := by
  intro depth rest
  rw [List.cons_append, List.cons_append, closing?_opening, List.append_assoc,
    List.singleton_append, h, closing?_closing, Option.map_map, Option.map_map]
  simp [Function.comp_def]

theorem prefixed {cs : List Char} (op : Operator) (h : Balanced cs) :
    Balanced (op.char :: cs) := by
  have hop : Balanced [op.char] := of_forall_ne (by cases op <;> simp [Operator.char])
  exact hop.append h

theorem combine {cs ds : List Char} (op : Operator) (hc : Balanced cs) (hd : Balanced ds) :
    Balanced (cs ++ op.char :: ds) := hc.append (hd.prefixed op)

end Balanced

theorem balanced_literal (l : Literal) : Balanced l.text := by
  refine .of_forall_ne fun c hc => ?_
  rcases l.eq_of_mem hc with hd | hc
  · constructor <;> rintro rfl <;> cases hd
  · have hall : ∀ c ∈ ['.', 'e', 'E', '+', '-'], c ≠ '(' ∧ c ≠ ')' := by simp
    exact hall c hc

theorem balanced_name (f : Elementary) : Balanced f.name :=
  .of_forall_ne (by cases f <;> simp [Elementary.name])

theorem balanced_spell {α ν : Type} {leaf : α → List Char} {name : ν → List Char}
    (hleaf : ∀ a, Balanced (leaf a)) (hname : ∀ f, Balanced (name f)) {l : Level}
    (p : Phrase α ν l) : Balanced (p.spell (.characters leaf name)) := by
  induction p with
  | leaf a => exact hleaf a
  | group e ih => exact ih.group
  | call f e ih =>
    have h := (hname f).append ih.group
    rwa [List.cons_append, ← List.cons_append, ← List.append_assoc] at h
  | atom a ih => exact ih
  | power a u ha hu => exact ha.combine .power hu
  | unsigned p ih => exact ih
  | negative u ih => exact ih.prefixed .minus
  | factor u ih => exact ih
  | product t op h u ht hu => exact ht.combine op hu
  | term t ih => exact ih
  | sum e op h t he ht => exact he.combine op ht

theorem expandAfter_copy {A : Arithmetic} {depth : Nat} {previous : Option Char} {c : Char}
    {after : List Char} (h : c.isAlpha = false ∨ marksExponent previous (c :: after) = true) :
    expandAfter A depth previous (c :: after) =
      (expandAfter A depth (some c) after).map ([c] ++ ·) := by
  have hc : (!c.isAlpha || marksExponent previous (c :: after)) = true := by
    rcases h with h | h <;> simp [h]
  rw [expandAfter, if_pos hc]
  cases expandAfter A depth (some c) after <;> rfl

theorem isAlpha_of_isDigit {c : Char} (h : c.isDigit = true) : c.isAlpha = false := by
  simp only [Char.isDigit, Bool.and_eq_true, decide_eq_true_eq] at h
  have hle : c.toNat ≤ 57 := h.2
  have hupper : c.isUpper = false := by
    refine Bool.eq_false_iff.2 fun hu => ?_
    have hge : 65 ≤ c.toNat := (of_decide_eq_true hu).1
    omega
  have hlower : c.isLower = false := by
    refine Bool.eq_false_iff.2 fun hl => ?_
    have hge : 97 ≤ c.toNat := of_decide_eq_true (Bool.and_eq_true_iff.1 hl).1
    omega
  show (c.isUpper || c.isLower) = false
  rw [hupper, hlower]
  rfl

theorem isAlpha_of_isPlain {c : Char} (h : isPlain c = true) : c.isAlpha = false := by
  rcases isDigit_or_mem_of_isPlain h with hd | hc
  · exact isAlpha_of_isDigit hd
  · have hall : ∀ c ∈ ".+-×*÷/^()".toList, (!c.isAlpha) = true := List.all_eq_true.1 rfl
    simpa using hall c hc

theorem copies_expandAfter (A : Arithmetic) (depth : Nat) :
    Pass.Copies (expandAfter A depth) where
  done previous := by rw [expandAfter]
  plain previous c after h := expandAfter_copy (.inl (isAlpha_of_isPlain h))
  mark previous c after h := expandAfter_copy (.inr h)

theorem callee_name (f : Elementary) (rest : List Char) :
    callee (f.name ++ '(' :: rest) = .ok (f, rest) := by
  have hsplit : splitName (f.name ++ '(' :: rest) = (f.name, '(' :: rest) := by
    cases f <;> rfl
  have hblank : ('(' :: rest).dropWhile isBlank = '(' :: rest := rfl
  simp only [callee, hsplit, f.ofName?_name, hblank]

theorem expandAfter_call (A : Arithmetic) (depth : Nat) {previous : Option Char}
    (hp : Before previous) (f : Elementary) (e : Phrase Literal Elementary .expression)
    (rest : List Char) :
    expandAfter A depth previous (f.name ++ '(' :: (e.spell .constantFree ++ ')' :: rest)) =
      if Fault.maxCallDepth ≤ depth then .error .callsTooDeep
      else (do
        let argument ← expandAfter A (depth + 1) none (e.spell .constantFree)
        let x ← infixValue A argument
        let y ← f.apply A x
        let expanded ← expandAfter A depth (some ')') rest
        pure ('(' :: y.text ++ ')' :: expanded)) := by
  obtain ⟨c, cs, hname, hc⟩ : ∃ c cs, f.name = c :: cs ∧ c.isAlpha = true := by
    cases f <;> exact ⟨_, _, rfl, rfl⟩
  have hcallee := callee_name f (e.spell .constantFree ++ ')' :: rest)
  have hbalanced : Balanced (e.spell .constantFree) :=
    balanced_spell balanced_literal balanced_name e
  have hclosing : closing? 0 (e.spell .constantFree ++ ')' :: rest) =
      some (e.spell .constantFree, rest) := by
    rw [hbalanced 0, closing?.eq_def]
    simp
  have hcopy : ¬(!c.isAlpha || marksExponent previous (c :: (cs ++ '(' ::
      (e.spell .constantFree ++ ')' :: rest)))) = true := by
    simp [hc, hp.marksExponent]
  rw [hname, List.cons_append] at hcallee ⊢
  rw [expandAfter, if_neg hcopy]
  split
  · simp_all
  · rename_i g tail heq
    rw [hcallee] at heq
    cases heq
    split
    · rfl
    · split
      · simp_all
      · rename_i inside behind heq
        rw [hclosing] at heq
        cases heq
        rfl

theorem map_spell {l l' : Level} (k : List Char → List Char)
    (r : Except Fault (Phrase Literal Empty l))
    {g : Phrase Literal Empty l → Phrase Literal Empty l'}
    (hg : ∀ q, (g q).spell .plain = k (q.spell .plain)) :
    (r >>= fun q => pure (g q)).map (·.spell .plain) = (r.map (·.spell .plain)).map k := by
  cases r with
  | error e => rfl
  | ok q => exact congrArg Except.ok (hg q)

theorem map_spell_same {l l' : Level} (g : Phrase Literal Empty l → Phrase Literal Empty l')
    (r : Except Fault (Phrase Literal Empty l))
    (hg : ∀ q, (g q).spell .plain = q.spell .plain) :
    (r >>= fun q => pure (g q)).map (·.spell .plain) = r.map (·.spell .plain) := by
  rw [map_spell id r hg]
  cases r <;> rfl

theorem map_spell_combine {l l' l'' : Level} (op : Operator)
    (r : Except Fault (Phrase Literal Empty l)) (r' : Except Fault (Phrase Literal Empty l'))
    {g : Phrase Literal Empty l → Phrase Literal Empty l' → Phrase Literal Empty l''}
    (hg : ∀ q q', (g q q').spell .plain = q.spell .plain ++ op.char :: q'.spell .plain) :
    (r >>= fun q => r' >>= fun q' => pure (g q q')).map (·.spell .plain) = (do
      let xs ← r.map (·.spell .plain)
      let ys ← r'.map (·.spell .plain)
      pure (xs ++ op.char :: ys)) := by
  cases r with
  | error e => rfl
  | ok q =>
    cases r' with
    | error e => rfl
    | ok q' => exact congrArg Except.ok (hg q q')

theorem bind_infixValue {β : Type} (A : Arithmetic)
    (r : Except Fault (Phrase Literal Empty .expression)) (k : Number → Except Fault β) :
    (r.map (·.spell .plain) >>= fun cs => infixValue A cs >>= k) =
      r >>= fun q => q.tree.value A .plain >>= k := by
  cases r with
  | error e => rfl
  | ok q =>
    simp only [Except.map, Fault.ok_bind]
    rw [infixValue_spell]

theorem rewrites_call {A : Arithmetic} {depth : Nat} {f : Elementary}
    {e : Phrase Literal Elementary .expression}
    (he : Pass.Rewrites (expandAfter A (depth + 1)) (e.spell .constantFree)
      ((e.expandCalls A (depth + 1)).map (·.spell .plain))) :
    Pass.Rewrites (expandAfter A depth) (f.name ++ '(' :: e.spell .constantFree ++ [')'])
      (((Phrase.call f e).expandCalls A depth).map (·.spell .plain)) := by
  intro previous rest hp hr
  have htext : f.name ++ '(' :: e.spell .constantFree ++ [')'] ++ rest =
      f.name ++ '(' :: (e.spell .constantFree ++ ')' :: rest) := by simp
  rw [htext, expandAfter_call A depth hp, Phrase.expandCalls]
  by_cases hdepth : Fault.maxCallDepth ≤ depth
  · simp only [if_pos hdepth, Except.map, Fault.error_bind]
  rw [if_neg hdepth, if_neg hdepth, (copies_expandAfter A _).rewrites_whole he, bind_infixValue,
    (copies_expandAfter A depth).behind (some ')') hr]
  cases e.expandCalls A (depth + 1) with
  | error g => rfl
  | ok q =>
    rw [Fault.ok_bind, Fault.ok_bind]
    cases q.tree.value A .plain with
    | error g => rfl
    | ok x =>
      rw [Fault.ok_bind, Fault.ok_bind]
      cases hy : f.apply A x with
      | error g => rfl
      | ok y =>
        have hvalue := Number.spell_phrase (Elementary.isFinite_of_apply hy)
        have hspell : (Phrase.group y.phrase).spell .plain = '(' :: y.text ++ [')'] := by
          rw [Phrase.spell, hvalue]
          rfl
        rw [Fault.ok_bind, Fault.ok_bind]
        show _ = (expandAfter A depth none rest).map ((Phrase.group y.phrase).spell .plain ++ ·)
        rw [hspell]
        cases expandAfter A depth none rest with
        | error g => rfl
        | ok expanded =>
          show Except.ok ('(' :: y.text ++ ')' :: expanded) =
            Except.ok ('(' :: y.text ++ [')'] ++ expanded)
          rw [List.append_assoc]
          rfl

theorem rewrites_spell (A : Arithmetic) {l : Level} (p : Phrase Literal Elementary l)
    (depth : Nat) :
    Pass.Rewrites (expandAfter A depth) (p.spell .constantFree)
      ((p.expandCalls A depth).map (·.spell .plain)) := by
  have hF := copies_expandAfter A
  induction p generalizing depth with
  | leaf a => exact .literal (hF depth) a
  | group e ih =>
    rw [Phrase.expandCalls, map_spell (fun xs => '(' :: xs ++ [')']) _ fun q => rfl]
    exact (ih depth).group (hF depth)
  | call f e ih => exact rewrites_call (ih (depth + 1))
  | atom a ih =>
    rw [Phrase.expandCalls, map_spell_same .atom _ fun q => rfl]
    exact ih depth
  | power a u ha hu =>
    rw [Phrase.expandCalls, map_spell_combine .power _ _ fun q q' => rfl]
    exact (ha depth).combine (hF depth) .power (hu depth)
  | unsigned p ih =>
    rw [Phrase.expandCalls, map_spell_same .unsigned _ fun q => rfl]
    exact ih depth
  | negative u ih =>
    rw [Phrase.expandCalls, map_spell ('-' :: ·) _ fun q => rfl]
    exact (ih depth).prefixed (hF depth) .minus
  | factor u ih =>
    rw [Phrase.expandCalls, map_spell_same .factor _ fun q => rfl]
    exact ih depth
  | product t op h u ht hu =>
    rw [Phrase.expandCalls, map_spell_combine op _ _ fun q q' => rfl]
    exact (ht depth).combine (hF depth) op (hu depth)
  | term t ih =>
    rw [Phrase.expandCalls, map_spell_same .term _ fun q => rfl]
    exact ih depth
  | sum e op h t he ht =>
    rw [Phrase.expandCalls, map_spell_combine op _ _ fun q q' => rfl]
    exact (he depth).combine (hF depth) op (ht depth)

end Calls

end Calculator
