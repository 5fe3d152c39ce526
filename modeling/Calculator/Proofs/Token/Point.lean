import Mathlib.Data.List.TakeWhile
import Calculator.Proofs.Token.Adjacency
import Calculator.Proofs.Token.Literal

/-! A point directly behind an exponent. A literal ends at the point, and the next one
starts there, without a multiplication. Main statement: a text with a value is spelled
by an expression just if it has no such point. -/

set_option autoImplicit false

namespace Calculator

/-- Whether a point stands directly behind the digits of an exponent. -/
def PointBehindExponent (cs : List Char) : Prop :=
  ∃ (before : List Char) (e : Exponent) (after : List Char), cs = before ++ e.text ++ '.' :: after

theorem not_pointBehindExponent {cs : List Char}
    (h : ∀ c ∈ cs, Decimal.isExponentLetter c = false) : ¬PointBehindExponent cs := by
  intro hpoint
  obtain ⟨before, e, after, rfl⟩ := hpoint
  have hletter := h e.letter (by simp [Exponent.text])
  rw [e.isExponentLetter_letter] at hletter
  cases hletter

theorem Exponent.letter_not_mem (e e' : Exponent) : e.letter ∉ e'.sign.toList ++ e'.digits := by
  intro h
  rcases List.mem_append.1 h with h | h
  · have hs := e'.isSign_of_mem h
    rcases e.letter_eq with he | he <;> rw [he] at hs <;> cases hs
  · have hd := e'.isDigit _ h
    rcases e.letter_eq with he | he <;> rw [he] at hd <;> cases hd

theorem head_dropWhile (p : Char → Bool) (cs : List Char) :
    ∀ c ∈ (cs.dropWhile p).head?, p c = false := by
  induction cs with
  | nil => simp
  | cons c cs ih =>
    by_cases hc : p c = true
    · rwa [List.dropWhile_cons_of_pos hc]
    · rw [List.dropWhile_cons_of_neg hc]
      simpa using hc

theorem exists_exponent {letter : Char} (hl : Decimal.isExponentLetter letter = true)
    {cs : List Char} (h : startsExponent cs = true) : ∃ (e : Exponent) (tail : List Char),
    e.letter = letter ∧ cs = e.sign.toList ++ (e.digits ++ tail) ∧
      ∀ c ∈ tail.head?, c.isDigit = false := by
  have hletter : letter = 'e' ∨ letter = 'E' := by simpa [Decimal.isExponentLetter] using hl
  have htail := head_dropWhile Char.isDigit
  cases cs with
  | nil => cases h
  | cons c cs =>
    by_cases hc : c.isDigit = true
    · refine ⟨⟨letter, none, c :: cs.takeWhile Char.isDigit, hletter, .inl rfl, ?_, by simp⟩,
        cs.dropWhile Char.isDigit, rfl, ?_, htail cs⟩
      · intro d hd
        rcases List.mem_cons.1 hd with rfl | hd
        · exact hc
        · exact List.mem_takeWhile_imp hd
      · simp
    · cases cs with
      | nil => simp [startsExponent, hc] at h
      | cons d ds =>
        obtain ⟨hs, hd⟩ : Decimal.isSign c = true ∧ d.isDigit = true := by
          simpa [startsExponent, hc] using h
        have hsign : some c = none ∨ some c = some '+' ∨ some c = some '-' := by
          simpa [Decimal.isSign] using hs
        refine ⟨⟨letter, some c, d :: ds.takeWhile Char.isDigit, hletter, hsign, ?_, by simp⟩,
          ds.dropWhile Char.isDigit, rfl, ?_, htail ds⟩
        · intro x hx
          rcases List.mem_cons.1 hx with rfl | hx
          · exact hd
          · exact List.mem_takeWhile_imp hx
        · simp

/-- A literal in front of a text: a run of literal characters, and perhaps an exponent. -/
theorem splitLiteral_cases (cs : List Char) : ∃ m : List Char,
    (∀ c ∈ m, isLiteralCharacter c = true) ∧
      ((cs = m ++ (splitLiteral cs).2 ∧
          ∀ c ∈ (splitLiteral cs).2.head?, isLiteralCharacter c = false) ∨
        ∃ e : Exponent, cs = m ++ (e.text ++ (splitLiteral cs).2) ∧
          ∀ c ∈ (splitLiteral cs).2.head?, c.isDigit = false) := by
  have hsplit := List.takeWhile_append_dropWhile (p := isLiteralCharacter) (l := cs)
  have hhead := head_dropWhile isLiteralCharacter cs
  refine ⟨cs.takeWhile isLiteralCharacter, fun c hc => List.mem_takeWhile_imp hc, ?_⟩
  unfold splitLiteral
  cases hd : cs.dropWhile isLiteralCharacter with
  | nil =>
    left
    rw [hd] at hsplit
    exact ⟨hsplit.symm, fun c hc => nomatch hc⟩
  | cons c after =>
    rw [hd] at hsplit hhead
    by_cases hmark : (Decimal.isExponentLetter c && startsExponent after) = true
    · right
      obtain ⟨hl, hs⟩ : Decimal.isExponentLetter c = true ∧ startsExponent after = true := by
        simpa using hmark
      obtain ⟨e, tail, rfl, rfl, htail⟩ := exists_exponent hl hs
      simp only [hmark, if_true, e.splitExponent_text htail]
      refine ⟨e, ?_, htail⟩
      rw [Exponent.text, List.cons_append, List.cons_append, List.append_assoc]
      exact hsplit.symm
    · left
      simp only [hmark]
      exact ⟨hsplit.symm, hhead⟩

theorem exists_append_of_not_mem {before behind xs ys : List Char} {c : Char}
    (h : xs ++ ys = before ++ c :: behind) (hc : c ∉ xs) :
    ∃ middle, before = xs ++ middle ∧ ys = middle ++ c :: behind := by
  rcases List.append_eq_append_iff.1 h with ⟨as, hbefore, hys⟩ | ⟨as, hxs, hbehind⟩
  · exact ⟨as, hbefore, hys⟩
  · cases as with
    | nil => exact ⟨[], by simpa using hxs.symm, by simpa using hbehind.symm⟩
    | cons a as =>
      simp only [List.cons_append, List.cons.injEq] at hbehind
      rw [hxs, ← hbehind.1] at hc
      simp at hc

theorem Exponent.eq_of_append {e e' : Exponent} {tail after : List Char}
    (h : e.sign.toList ++ (e.digits ++ tail) = e'.sign.toList ++ (e'.digits ++ '.' :: after))
    (htail : ∀ c ∈ tail.head?, c.isDigit = false) : tail = '.' :: after := by
  have hpoint : ∀ c ∈ ('.' :: after).head?, c.isDigit = false := by simp
  have hsplit := congrArg (fun cs => (splitExponent cs).2) h
  simpa only [e.splitExponent_text htail, e'.splitExponent_text hpoint] using hsplit

theorem pointBehindExponent_of_point {cs after : List Char}
    (h : (splitLiteral cs).2 = '.' :: after) : PointBehindExponent cs := by
  obtain ⟨m, _, hcases⟩ := splitLiteral_cases cs
  rw [h] at hcases
  rcases hcases with ⟨_, hhead⟩ | ⟨e, hcs, _⟩
  · have := hhead '.' rfl
    cases this
  · exact ⟨m, e, after, by rw [hcs, List.append_assoc]⟩

theorem pointBehindExponent_of_splitLiteral {cs : List Char}
    (h : PointBehindExponent (splitLiteral cs).2) : PointBehindExponent cs := by
  obtain ⟨m, _, hcases⟩ := splitLiteral_cases cs
  obtain ⟨before, e, after, htail⟩ := h
  rw [htail] at hcases
  rcases hcases with ⟨hcs, _⟩ | ⟨e', hcs, _⟩
  · exact ⟨m ++ before, e, after, by rw [hcs]; simp⟩
  · exact ⟨m ++ (e'.text ++ before), e, after, by rw [hcs]; simp⟩

theorem splitLiteral_of_pointBehindExponent {cs : List Char} (hpoint : PointBehindExponent cs) :
    (∃ after, (splitLiteral cs).2 = '.' :: after) ∨ PointBehindExponent (splitLiteral cs).2 := by
  obtain ⟨before, e, after, h⟩ := hpoint
  obtain ⟨m, hm, hcases⟩ := splitLiteral_cases cs
  generalize (splitLiteral cs).2 = tail at *
  have hletter : e.letter ∉ m := fun hmem => by
    have := hm _ hmem
    rw [e.isLiteralCharacter_letter] at this
    cases this
  have htext : before ++ e.text ++ '.' :: after =
      before ++ e.letter :: (e.sign.toList ++ (e.digits ++ '.' :: after)) := by
    simp [Exponent.text]
  rw [htext] at h
  rcases hcases with ⟨hcs, _⟩ | ⟨e', hcs, htail⟩
  · obtain ⟨middle, _, hmiddle⟩ := exists_append_of_not_mem (hcs.symm.trans h) hletter
    exact .inr ⟨middle, e, after, by simp [hmiddle, Exponent.text]⟩
  · obtain ⟨middle, _, hmiddle⟩ := exists_append_of_not_mem (hcs.symm.trans h) hletter
    rw [Exponent.text, List.cons_append, List.cons_append, List.append_assoc] at hmiddle
    cases middle with
    | nil => exact .inl ⟨after, Exponent.eq_of_append (List.cons.inj hmiddle).2 htail⟩
    | cons c middle =>
      -- the letter is not in the first exponent, so the second one starts behind it
      have hrest := (List.cons.inj hmiddle).2
      rw [← List.append_assoc] at hrest
      obtain ⟨middle', _, hmiddle'⟩ := exists_append_of_not_mem hrest (e.letter_not_mem e')
      exact .inr ⟨middle', e, after, by simp [hmiddle', Exponent.text]⟩

theorem pointBehindExponent_iff (cs : List Char) :
    PointBehindExponent cs ↔ (∃ after, (splitLiteral cs).2 = '.' :: after) ∨
      PointBehindExponent (splitLiteral cs).2 := by
  constructor
  · exact splitLiteral_of_pointBehindExponent
  · intro htail
    rcases htail with ⟨after, htail⟩ | htail
    · exact pointBehindExponent_of_point htail
    · exact pointBehindExponent_of_splitLiteral htail

theorem splitLiteral_head (cs : List Char) :
    (∃ c after, (splitLiteral cs).2 = c :: after ∧ isLiteralCharacter c = true) ↔
      ∃ after, (splitLiteral cs).2 = '.' :: after := by
  obtain ⟨m, _, hcases⟩ := splitLiteral_cases cs
  constructor
  · intro hmore
    obtain ⟨c, after, htail, hc⟩ := hmore
    rw [htail] at hcases ⊢
    rcases hcases with ⟨_, hhead⟩ | ⟨_, _, hhead⟩
    · rw [hhead c rfl] at hc
      cases hc
    · obtain rfl : c = '.' := by simpa [isLiteralCharacter, hhead c rfl] using hc
      exact ⟨after, rfl⟩
  · intro hpoint
    obtain ⟨after, htail⟩ := hpoint
    exact ⟨'.', after, htail, rfl⟩

theorem pointBehindExponent_cons {c : Char} {s : Symbol} (h : Symbol.ofChar? c = some s)
    (cs : List Char) : PointBehindExponent (c :: cs) ↔ PointBehindExponent cs := by
  constructor
  · intro hpoint
    obtain ⟨before, e, after, heq⟩ := hpoint
    cases before with
    | nil =>
      have hc : c = e.letter := (List.cons.inj heq).1
      rcases e.letter_eq with he | he <;> rw [hc, he] at h <;> cases h
    | cons b before => exact ⟨before, e, after, (List.cons.inj heq).2⟩
  · rintro ⟨before, e, after, rfl⟩
    exact ⟨c :: before, e, after, rfl⟩

namespace Token

theorem not_juxtaposed_toList (t : Option Token) : ¬Juxtaposed t.toList := by
  intro hnumbers
  obtain ⟨x, y, h⟩ := hnumbers
  have := h.length_le
  cases t <;> simp at this

theorem juxtaposed_cons_cons (t u : Token) (tokens : List Token) :
    Juxtaposed (t :: u :: tokens) ↔
      (∃ x y, t = .number x ∧ u = .number y) ∨ Juxtaposed (u :: tokens) := by
  constructor
  · intro hnumbers
    obtain ⟨x, y, h⟩ := hnumbers
    rcases List.infix_cons_iff.1 h with h | h
    · rw [List.cons_prefix_cons, List.cons_prefix_cons] at h
      exact .inl ⟨x, y, h.1.symm, h.2.1.symm⟩
    · exact .inr ⟨x, y, h⟩
  · rintro (⟨x, y, rfl, rfl⟩ | ⟨x, y, h⟩)
    · exact ⟨x, y, [], tokens, rfl⟩
    · exact ⟨x, y, List.infix_cons h⟩

theorem juxtaposed_impliedProduct (previous : Option Token) (t : Token) (tokens : List Token) :
    Juxtaposed (previous.toList ++ (impliedProduct previous t ++ t :: tokens)) ↔
      (∃ x y, previous = some (.number x) ∧ t = .number y) ∨ Juxtaposed (t :: tokens) := by
  cases previous with
  | none =>
    have hnone : impliedProduct none t = [] := rfl
    simp [hnone]
  | some u =>
    rcases impliedProduct_cases u t with h | ⟨h, _⟩
    · have hnumbers : ¬∃ x y, some u = some (.number x) ∧ t = .number y := by
        rintro ⟨x, y, hu, rfl⟩
        cases hu
        cases h
      rw [h]
      simp only [Option.toList_some, List.singleton_append, juxtaposed_cons_cons, hnumbers,
        reduceCtorEq, and_false, false_and, exists_false, false_or]
    · rw [h]
      simp only [Option.toList_some, List.singleton_append, List.nil_append,
        juxtaposed_cons_cons, Option.some.injEq]

theorem juxtaposed_scan {previous : Option Token} {cs : List Char} {tokens : List Token}
    (h : scan previous cs = .ok tokens) :
    Juxtaposed (previous.toList ++ tokens) ↔
      ((∃ x, previous = some (.number x)) ∧
        ∃ c after, cs = c :: after ∧ isLiteralCharacter c = true) ∨ PointBehindExponent cs := by
  fun_induction scan previous cs generalizing tokens with
  | case1 previous =>
    cases h
    have hpoint : ¬PointBehindExponent [] := by
      intro hnil
      obtain ⟨before, e, after, h⟩ := hnil
      simp at h
    simp [hpoint, not_juxtaposed_toList]
  | case2 previous c rest hc ih =>
    obtain ⟨x, _, h⟩ := Fault.bind_eq_ok.1 h
    obtain ⟨tokens', hscan, h⟩ := Fault.bind_eq_ok.1 h
    cases h
    have hrest := ih x hscan
    rw [Option.toList_some, List.singleton_append, splitLiteral_head] at hrest
    rw [juxtaposed_impliedProduct, hrest, pointBehindExponent_iff (c :: rest)]
    simp [hc]
  | case3 => cases h
  | case4 previous c rest hc s hs ih =>
    obtain ⟨tokens', hscan, h⟩ := Fault.bind_eq_ok.1 h
    cases h
    have hrest := ih hscan
    rw [Option.toList_some, List.singleton_append] at hrest
    rw [juxtaposed_impliedProduct, hrest, pointBehindExponent_cons hs]
    simp [hc]

end Token

/-- A text with a value is spelled by an expression just if no point stands directly
behind an exponent in it. -/
theorem exists_phrase_iff_not_pointBehindExponent {A : Arithmetic} {cs : List Char} {x : Number}
    (h : infixValue A cs = .ok x) :
    ∃ tokens, tokenize cs = .ok tokens ∧
      ((∃ p : Phrase Number Empty .expression, p.tokens = tokens) ↔
        ¬PointBehindExponent (withoutBlanks cs)) := by
  obtain ⟨tokens, htokens, hphrase⟩ := exists_phrase_iff_not_juxtaposed h
  have hpoint := Token.juxtaposed_scan htokens
  refine ⟨tokens, htokens, hphrase.trans (not_congr ?_)⟩
  simpa using hpoint

theorem exists_phrase_iff_not_pointBehindExponent_product :
    ∃ tokens, tokenize "2(3-1)".toList = .ok tokens ∧
      ((∃ p : Phrase Number Empty .expression, p.tokens = tokens) ↔
        ¬PointBehindExponent (withoutBlanks "2(3-1)".toList)) :=
  exists_phrase_iff_not_pointBehindExponent (A := .double) (x := .ofNat 4)
    (eq_ok_of_toOption (by decide +kernel))

/-- The point behind an exponent starts another number, and the plus joins the two. -/
theorem infixValue_point_behind_exponent :
    infixValue .double "1e5.5+".toList = .ok (Decimal.toNumber ⟨1000005, -1⟩) ∧
      ∀ tokens, tokenize "1e5.5+".toList = .ok tokens →
        ¬∃ p : Phrase Number Empty .expression, p.tokens = tokens := by
  refine ⟨eq_ok_of_toOption (by decide +kernel), ?_⟩
  have htokens : tokenize "1e5.5+".toList = .ok [.number (Decimal.toNumber ⟨1, 5⟩),
      .number (Decimal.toNumber ⟨5, -1⟩), .symbol (.binary .plus)] :=
    eq_ok_of_toOption (by decide +kernel)
  rintro tokens h ⟨p, rfl⟩
  rw [htokens] at h
  have hspell := Except.ok.inj h
  exact Token.not_juxtaposed_tokens p ⟨_, _, [], [.symbol (.binary .plus)], hspell⟩

end Calculator
