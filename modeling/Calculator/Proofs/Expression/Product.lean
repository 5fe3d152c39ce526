import Calculator.Proofs.Evaluate
import Calculator.Proofs.Expression.Stable
import Calculator.Proofs.Token.Product

/-! The multiplication that a text leaves out between two factors. Whether an `e` is a
constant, a mark or a letter of a name is told from its neighbours, and so are the ends
of a literal. Main statement: two factors that are not both literals are multiplied with
the sign between them or without, except that an `e` goes on into a name behind it. -/

set_option autoImplicit false

namespace Calculator

namespace Constants

theorem isNameLetter_of_isLiteralCharacter {c : Char} (h : isLiteralCharacter c = true) :
    isNameLetter c = false := by
  have hlt : c.toNat < 0x41 := by
    rcases Bool.or_eq_true_iff.1 h with hdigit | hpoint
    · have hle : c.toNat ≤ 57 := of_decide_eq_true (Bool.and_eq_true_iff.1 hdigit).2
      omega
    · obtain rfl : c = '.' := by simpa using hpoint
      decide
  have halphabetic : isAlphabetic c = false := by
    show inRanges c.toNat ((0x41, 0x5a) :: alphabeticRanges.drop 1) = false
    exact inRanges_of_lt _ hlt
  simp [isNameLetter, halphabetic]

theorem isAlpha_head_expandAfter {cs : List Char} (h : ∀ c ∈ cs.head?, c.isAlpha = false)
    (previous : Option Char) : ∀ c ∈ (expandAfter previous cs).head?, c.isAlpha = false := by
  cases cs with
  | nil => exact h
  | cons c cs =>
    have hc : c.isAlpha = false := h c rfl
    have he : c ≠ 'e' := by
      rintro rfl
      cases hc
    by_cases hpi : c = 'π'
    · subst hpi
      rintro _ ⟨⟩
      rfl
    · rw [expandAfter_copy hpi fun h => absurd h he]
      exact h

end Constants

theorem Literal.isLiteralCharacter_last (l : Literal) :
    ∀ c ∈ l.text.getLast?, isLiteralCharacter c = true := by
  intro c hc
  rw [text] at hc
  cases hx : l.exponent with
  | none =>
    rw [hx, Option.elim_none, List.append_nil] at hc
    exact Mantissa.isLiteralCharacter_of_mem (List.mem_of_getLast? hc)
  | some e =>
    rw [hx, Option.elim_some, Exponent.text, ← List.append_assoc, List.getLast?_append,
      List.getLast?_eq_some_getLast e.ne_nil] at hc
    obtain rfl : e.digits.getLast e.ne_nil = c := Option.some.inj hc
    simp [isLiteralCharacter, e.isDigit _ (List.getLast_mem e.ne_nil)]

namespace Calls

theorem expandAfter_unknown {A : Arithmetic} {depth : Nat} {name rest : List Char}
    (hne : name ≠ []) (hname : ∀ c ∈ name, c.isAlpha = true)
    (hrest : ∀ c ∈ rest.head?, c.isAlpha = false)
    (hunknown : Elementary.ofName? (name.map Char.toLower) = none) :
    expandAfter A depth none (name ++ rest) =
      .error (.unknownFunction (name.map Char.toLower)) := by
  obtain ⟨hspan, hbehind⟩ := span_append hname hrest
  have hcallee : callee (name ++ rest) = .error (.unknownFunction (name.map Char.toLower)) := by
    simp only [callee, splitName, hspan, hunknown]
  cases name with
  | nil => exact absurd rfl hne
  | cons c name =>
    rw [List.cons_append] at hcallee ⊢
    rw [expandAfter_splitCall (hname c (by simp)) (by simp [marksExponent]), splitCall, hcallee]
    rfl

end Calls

/-- A literal or a constant, an expression in parentheses, or a call; what is inside the
parentheses need not be well formed. -/
inductive Factor
  | leaf (a : Leaf)
  | group (inside : List Char) (matched : Matched inside)
  | call (h : Heading) (inside : List Char) (matched : Matched inside)

def Leaf.block : Leaf → Block
  | literal l => .literal l
  | pi => .group "3.141592653589793".toList
  | euler => .group "2.718281828459045".toList

theorem Phrase.matched_text (e : Phrase Leaf Elementary .expression) : Matched e.text := by
  have hleaf : ∀ a : Leaf, Calls.Balanced a.text := by
    intro a
    cases a with
    | literal l => exact Calls.balanced_literal l
    | pi => exact .of_forall_ne (by simp [Leaf.text])
    | euler => exact .of_forall_ne (by simp [Leaf.text])
  exact Calls.matched_of_balanced (Calls.balanced_spell hleaf Calls.balanced_name e)

namespace Factor

def text : Factor → List Char
  | leaf a => a.text
  | group inside _ => '(' :: inside ++ [')']
  | call h inside _ => h.text ++ (inside ++ [')'])

/-- The factors of a well-formed expression are among these. -/
def ofPhrase : Phrase Leaf Elementary .atom → Factor
  | .leaf a => leaf a
  | .group e => group e.text e.matched_text
  | .call f e => call f.heading e.text e.matched_text

theorem text_ofPhrase (p : Phrase Leaf Elementary .atom) : (ofPhrase p).text = p.text := by
  cases p with
  | leaf a => rfl
  | group e => rfl
  | call f e =>
    simp [ofPhrase, text, Heading.text, Elementary.heading, Phrase.text, Phrase.spell,
      Alphabet.full, Alphabet.characters]

def isLiteral : Factor → Bool
  | leaf (.literal _) => true
  | _ => false

def letters : Factor → List Char
  | leaf .euler => ['e']
  | call h _ _ => h.function.name
  | _ => []

/-- The text with its constants written out. -/
def written : Factor → List Char
  | leaf a => a.block.text
  | group inside _ => '(' :: Constants.expand inside ++ [')']
  | call h inside _ => h.text ++ (Constants.expand inside ++ [')'])

/-- The text with its calls replaced by their values, too. -/
def block (A : Arithmetic) : Factor → Except Fault Block
  | leaf a => .ok a.block
  | group inside _ => (Calls.expand A (Constants.expand inside)).map .group
  | call h inside _ =>
    (Calls.callValue A 1 h.function (Constants.expand inside)).map fun value => .group value.text

theorem isLiteral_of_block {A : Arithmetic} {f : Factor} {u : Block} (h : f.block A = .ok u) :
    u.isLiteral = f.isLiteral := by
  cases f with
  | leaf a =>
    cases h
    cases a <;> rfl
  | group inside _ =>
    obtain ⟨cs, _, rfl⟩ := Fault.map_eq_ok.1 h
    rfl
  | call h' inside _ =>
    obtain ⟨value, _, rfl⟩ := Fault.map_eq_ok.1 h
    rfl

theorem getLast?_group {inside : List Char} (h : Matched inside) :
    (group inside h).text.getLast? = some ')' := List.getLast?_concat

theorem getLast?_call (h : Heading) {inside : List Char} (hm : Matched inside) :
    (call h inside hm).text.getLast? = some ')' := by
  rw [text, ← List.append_assoc]
  exact List.getLast?_concat

open Constants (isNameLetter isEuler)

theorem isNameLetter_last {f : Factor} (h : f ≠ .leaf .euler) :
    f.text.getLast?.any isNameLetter = false := by
  have hclosing : isNameLetter ')' = false := Constants.isNameLetter_behind (.closing [])
  cases f with
  | leaf a =>
    cases a with
    | literal l =>
      cases hlast : l.text.getLast? with
      | none => simp [text, Leaf.text, hlast]
      | some c =>
        have hc := Constants.isNameLetter_of_isLiteralCharacter (l.isLiteralCharacter_last c hlast)
        simp [text, Leaf.text, hlast, hc]
    | pi => simp [text, Leaf.text, isNameLetter]
    | euler => exact absurd rfl h
  | group inside _ =>
    rw [getLast?_group]
    exact hclosing
  | call h' inside _ =>
    rw [getLast?_call]
    exact hclosing

theorem isNameLetter_head {g : Factor} (h : g.letters = []) :
    g.text.head?.any isNameLetter = false := by
  cases g with
  | leaf a =>
    cases a with
    | literal l =>
      obtain ⟨c, cs, hl, hc⟩ := l.exists_text_eq_cons
      show l.text.head?.any isNameLetter = false
      rw [hl]
      exact Constants.isNameLetter_of_isLiteralCharacter hc
    | pi => simp [text, Leaf.text, isNameLetter]
    | euler => cases h
  | group inside _ => exact Constants.isNameLetter_before .opening
  | call h' inside _ =>
    have hname : h'.function.name = [] := h
    cases hf : h'.function <;> rw [hf] at hname <;> cases hname

theorem expandAfter_text (f : Factor) {previous : Option Char} {rest : List Char}
    (h : f = .leaf .euler → isEuler previous rest = true) :
    Constants.expandAfter previous (f.text ++ rest) =
      f.written ++ Constants.expandAfter f.text.getLast? rest := by
  have hclosing : Constants.expandAfter (some ')') rest = Constants.expandAfter none rest :=
    Constants.expandAfter_of_previous (Constants.isNameLetter_behind (.closing [])) rfl rest
  cases f with
  | leaf a =>
    cases a with
    | literal l =>
      have hcopy := Except.ok.inj (Constants.copies_pass.literal_append l previous rest)
      obtain ⟨c, cs, hl, _⟩ := l.exists_text_eq_cons
      have hlast : l.text.getLast?.or previous = l.text.getLast? := by
        rw [hl, List.getLast?_cons]
        rfl
      rwa [hlast] at hcopy
    | pi => rfl
    | euler =>
      have he : Constants.expandAfter previous ('e' :: rest) =
          Constants.euler ++ Constants.expandAfter (some 'e') rest := by
        rw [Constants.expandAfter, if_neg (by decide), if_pos ⟨rfl, h rfl⟩]
      exact he
  | group inside hm =>
    have hinside : Constants.expandAfter (some '(') inside = Constants.expand inside :=
      Constants.expandAfter_of_previous (Constants.isNameLetter_before .opening) rfl inside
    have hopening : Constants.expandAfter previous ('(' :: (inside ++ ')' :: rest)) =
        '(' :: Constants.expandAfter (some '(') (inside ++ ')' :: rest) :=
      Constants.expandAfter_copy (by decide) fun he => absurd he (by decide)
    have htext : (group inside hm).text ++ rest = '(' :: (inside ++ ')' :: rest) := by simp [text]
    rw [htext, getLast?_group, hclosing, hopening, Constants.expandAfter_closing, hinside]
    simp [written]
  | call h' inside hm =>
    have htext : (call h' inside hm).text ++ rest = h'.text ++ (inside ++ ')' :: rest) := by
      simp [text]
    rw [htext, getLast?_call, hclosing, Constants.expandAfter_call]
    simp [written]

/-- Nothing comes between the two factors: an `e` in front stays a constant unless a name
is behind it. -/
theorem expand_append {f g : Factor} (h : f ≠ .leaf .euler ∨ g.letters = []) :
    Constants.expand (f.text ++ g.text) = f.written ++ g.written := by
  have hf : f = .leaf .euler → isEuler none g.text = true := by
    intro hf
    have hhead := isNameLetter_head (h.resolve_left (not_not_intro hf))
    simp [isEuler, hhead, marksExponent]
  have hg : g = .leaf .euler → isEuler f.text.getLast? [] = true := by
    rintro rfl
    have hlast := isNameLetter_last (h.resolve_right (List.cons_ne_nil _ _))
    simp [isEuler, hlast, marksExponent, startsExponent]
  have hbehind := expandAfter_text g hg
  rw [List.append_nil] at hbehind
  rw [Constants.expand, expandAfter_text f hf, hbehind, Constants.expandAfter, List.append_nil]

theorem expand_times (f g : Factor) :
    Constants.expand (f.text ++ '×' :: g.text) = f.written ++ '×' :: g.written := by
  have hsign : isNameLetter '×' = false := Constants.isNameLetter_char .times
  have hf : f = .leaf .euler → isEuler none ('×' :: g.text) = true := fun _ => by
    simp [isEuler, hsign, marksExponent]
  have hg : g = .leaf .euler → isEuler (some '×') [] = true := fun _ => by
    simp [isEuler, hsign, marksExponent, startsExponent]
  have hbehind := expandAfter_text g hg
  have hcopy : Constants.expandAfter f.text.getLast? ('×' :: g.text) =
      '×' :: Constants.expandAfter (some '×') g.text :=
    Constants.expandAfter_copy (by decide) fun he => absurd he (by decide)
  rw [List.append_nil] at hbehind
  rw [Constants.expand, expandAfter_text f hf, hcopy, hbehind, Constants.expandAfter,
    List.append_nil]

theorem marksExponent_written (f : Factor) (previous : Option Char) (rest : List Char) :
    marksExponent previous (f.written ++ rest) = false := by
  cases f with
  | leaf a =>
    cases a with
    | literal l =>
      obtain ⟨c, cs, hl, hc⟩ := l.exists_text_eq_cons
      have hletter : Decimal.isExponentLetter c = false :=
        isExponentLetter_of_isPlain (by simp [isPlain, hc])
      show marksExponent previous (l.text ++ rest) = false
      simp [hl, marksExponent, hletter]
    | pi => simp [written, Leaf.block, Block.text, marksExponent, Decimal.isExponentLetter]
    | euler => simp [written, Leaf.block, Block.text, marksExponent, Decimal.isExponentLetter]
  | group inside _ => simp [written, marksExponent, Decimal.isExponentLetter]
  | call h inside _ =>
    rw [written, List.append_assoc]
    exact h.marksExponent_text previous _

theorem expandAfter_written (A : Arithmetic) (f : Factor) {rest : List Char}
    (hrest : ∀ previous, marksExponent previous rest = false) :
    Calls.expandAfter A 0 none (f.written ++ rest) =
      f.block A >>= fun u => (Calls.expandAfter A 0 none rest).map (u.text ++ ·) := by
  have hF := Calls.copies_expandAfter A 0
  have hbehind : ∀ previous,
      Calls.expandAfter A 0 previous rest = Calls.expandAfter A 0 none rest := fun previous =>
    Calls.expandAfter_of_marksExponent (hrest previous) A 0
  have hplain : ∀ cs : List Char, (∀ c ∈ cs, isPlain c = true) →
      Calls.expandAfter A 0 none (cs ++ rest) =
        (Calls.expandAfter A 0 none rest).map (cs ++ ·) := by
    intro cs hcs
    rw [hF.copy_append hcs, hbehind]
  cases f with
  | leaf a =>
    cases a with
    | literal l =>
      show Calls.expandAfter A 0 none (l.text ++ rest) = _
      rw [hF.literal_append, hbehind]
      rfl
    | pi => exact hplain _ fun _ => Constants.isPlain_of_mem_pi
    | euler => exact hplain _ fun _ => Constants.isPlain_of_mem_euler
  | group inside hm =>
    have hmatched := matched_iff.1 (Constants.matched_expand hm)
    have htext : (group inside hm).written ++ rest =
        '(' :: (Constants.expand inside ++ ')' :: rest) := by simp [written]
    rw [htext, Calls.expandAfter_copy (.inl rfl), Calls.expandAfter_closing hmatched,
      Calls.expandAfter_of_marksExponent (Before.opening.marksExponent _), block, Calls.expand]
    cases Calls.expandAfter A 0 none (Constants.expand inside) with
    | error e => rfl
    | ok xs => cases Calls.expandAfter A 0 none rest <;> simp [Except.map, Block.text]
  | call h inside hm =>
    have htext : (call h inside hm).written ++ rest =
        h.text ++ (Constants.expand inside ++ ')' :: rest) := by simp [written]
    rw [htext, Calls.expandAfter_heading A (by decide) none h (Constants.matched_expand hm), block]
    cases Calls.callValue A 1 h.function (Constants.expand inside) with
    | error e => rfl
    | ok value => cases Calls.expandAfter A 0 none rest <;> simp [Except.map, Block.text]

theorem expand_written (A : Arithmetic) (f g : Factor) {sign : List Char}
    (hsign : ∀ c ∈ sign, isPlain c = true) :
    Calls.expand A (f.written ++ (sign ++ g.written)) = (do
      let u ← f.block A
      let v ← g.block A
      pure (u.text ++ (sign ++ v.text))) := by
  have hg : ∀ previous, marksExponent previous g.written = false := fun previous => by
    simpa using g.marksExponent_written previous []
  have hrest : ∀ previous, marksExponent previous (sign ++ g.written) = false := by
    intro previous
    cases sign with
    | nil => exact hg previous
    | cons c sign =>
      have hletter := isExponentLetter_of_isPlain (hsign c (by simp))
      simp [marksExponent, hletter]
  have hend : Calls.expandAfter A 0 none g.written =
      g.block A >>= fun v => (Calls.expandAfter A 0 none []).map (v.text ++ ·) := by
    have hnil : ∀ previous, marksExponent previous [] = false := fun _ => rfl
    have hwritten := g.expandAfter_written A hnil
    rwa [List.append_nil] at hwritten
  have hempty : Calls.expandAfter A 0 none [] = .ok [] := by rw [Calls.expandAfter]
  rw [Calls.expand, f.expandAfter_written A hrest, (Calls.copies_expandAfter A 0).copy_append hsign,
    Calls.expandAfter_of_marksExponent (hg _), hend, hempty]
  cases f.block A with
  | error e => rfl
  | ok u => cases g.block A <;> simp [Except.map, pure, Except.pure]

theorem exists_name {g : Factor} (h : g.letters ≠ []) :
    ∃ name tail, g.text = name ++ tail ∧ name ≠ [] ∧ (∀ c ∈ name, c.isAlpha = true) ∧
      (∀ c ∈ tail.head?, c.isAlpha = false) ∧ name.map Char.toLower = g.letters := by
  cases g with
  | leaf a =>
    cases a with
    | literal l => exact absurd rfl h
    | pi => exact absurd rfl h
    | euler => exact ⟨['e'], [], rfl, by simp, by simp, by simp, rfl⟩
  | group inside _ => exact absurd rfl h
  | call h' inside hm =>
    obtain ⟨c, cs, hname, _⟩ := h'.exists_name_eq_cons
    refine ⟨h'.name, h'.blanks ++ ['('] ++ (inside ++ [')']), ?_, by simp [hname], h'.isAlpha, ?_,
      h'.name_eq⟩
    · simp [text, Heading.text]
    · cases hblanks : h'.blanks with
      | nil => simp
      | cons b bs =>
        rintro _ ⟨⟩
        exact isAlpha_of_isBlank (h'.isBlank b (by simp [hblanks]))

theorem ofName?_letters (g : Factor) : Elementary.ofName? ('e' :: g.letters) = none := by
  cases g with
  | leaf a => cases a <;> rfl
  | group inside _ => rfl
  | call h inside _ =>
    show Elementary.ofName? ('e' :: h.function.name) = none
    cases h.function <;> decide

theorem evaluateWith_name (A : Arithmetic) {g : Factor} (h : g.letters ≠ []) :
    evaluateWith A ('e' :: g.text) = .error (.unknownFunction ('e' :: g.letters)) := by
  obtain ⟨name, tail, htext, hne, hname, htail, hletters⟩ := exists_name h
  have hletter : ∀ c ∈ 'e' :: name, c.isAlpha = true := by
    intro c hc
    rcases List.mem_cons.1 hc with rfl | hc
    · rfl
    · exact hname c hc
  have hlength : 2 ≤ ('e' :: name).length := by
    have := List.length_pos_iff.2 hne
    rw [List.length_cons]
    omega
  have hlower : ('e' :: name).map Char.toLower = 'e' :: g.letters := by
    rw [List.map_cons, hletters]
    rfl
  have hunknown : Elementary.ofName? (('e' :: name).map Char.toLower) = none := by
    rw [hlower]
    exact g.ofName?_letters
  have hbehind := Constants.isAlpha_head_expandAfter htail (('e' :: name).getLast?.or none)
  have hcalls : Calls.expandAfter A 0 none _ = _ :=
    Calls.expandAfter_unknown (List.cons_ne_nil _ _) hletter hbehind hunknown
  rw [evaluateWith, htext, Constants.expand, ← List.cons_append,
    Constants.expandAfter_run hletter (.inl hlength), Calls.expand, hcalls, hlower]
  rfl

end Factor

/-- Two factors that are not both literals are multiplied with the sign or without, unless
the first is an `e` and a name is behind it: the `e` is part of a name then, and no
function has that name. -/
theorem evaluateWith_product (A : Arithmetic) (f g : Factor)
    (h : f.isLiteral = false ∨ g.isLiteral = false) :
    (f ≠ .leaf .euler ∨ g.letters = [] →
      evaluateWith A (f.text ++ g.text) = evaluateWith A (f.text ++ '×' :: g.text)) ∧
    (f = .leaf .euler → g.letters ≠ [] →
      evaluateWith A (f.text ++ g.text) = .error (.unknownFunction ('e' :: g.letters))) := by
  constructor
  · intro hname
    have hsign : ∀ c ∈ ['×'], isPlain c = true := by simp [isPlain, Symbol.ofChar?]
    have hnext : Calls.expand A (f.written ++ ([] ++ g.written)) = _ :=
      Factor.expand_written A f g fun c hc => absurd hc List.not_mem_nil
    have htimes : Calls.expand A (f.written ++ '×' :: g.written) = _ :=
      Factor.expand_written A f g hsign
    rw [List.nil_append] at hnext
    rw [evaluateWith, evaluateWith, Factor.expand_append hname, Factor.expand_times, hnext, htimes]
    cases hf : f.block A with
    | error e => rfl
    | ok u =>
      cases hg : g.block A with
      | error e => rfl
      | ok v =>
        have hblocks : u.isLiteral = false ∨ v.isLiteral = false := by
          rwa [Factor.isLiteral_of_block hf, Factor.isLiteral_of_block hg]
        show (infixValue A (u.text ++ v.text) >>= finite) =
          (infixValue A (u.text ++ '×' :: v.text) >>= finite)
        rw [infixValue, infixValue, Block.tokenize_product hblocks]
  · rintro rfl hletters
    exact Factor.evaluateWith_name A hletters

theorem evaluate_euler_euler :
    evaluate "ee".toList = .error (.unknownFunction "ee".toList) ∧
      evaluate "e×e".toList = .ok (Number.mul Number.euler Number.euler) := by
  constructor
  · decide +kernel
  · exact eq_ok_of_toOption (by decide +kernel)

def Phrase.rootOfDifference : Phrase Leaf Elementary .atom :=
  .call .sqrt (.ofOperands .minus (.leaf .pi) (.leaf (.literal .one)))

theorem evaluateWith_product_sqrt :
    evaluate "2sqrt(π-1)".toList = evaluate "2×sqrt(π-1)".toList ∧
      evaluate "esqrt(π-1)".toList = .error (.unknownFunction "esqrt".toList) := by
  let g : Factor := .ofPhrase .rootOfDifference
  have hg : g.text = "sqrt(π-1)".toList := Factor.text_ofPhrase _
  have htwo := (evaluateWith_product .double (.leaf (.literal .two)) g (.inr rfl)).1
    (.inl (by simp))
  have heuler := (evaluateWith_product .double (.leaf .euler) g (.inr rfl)).2 rfl
    (List.cons_ne_nil _ _)
  rw [hg] at htwo heuler
  exact ⟨htwo, heuler⟩

end Calculator
