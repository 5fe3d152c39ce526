import Calculator.Proofs.Expression.Marks

/-! The places that reading a text comes to. Each token is cut off the front of what is
left, up to the first one that cannot be read. Main statement: with its constants and
calls written out, a text leaves no `e` unread but directly behind the exponent of a
literal, and is refused for the sake of an `e` just if reading comes to such a place. -/

set_option autoImplicit false

namespace Calculator

namespace Token

/-- Whether the text of the first token of a text is `token`, before `rest`. -/
inductive Cut : (cs token rest : List Char) → Prop
  | literal {c : Char} {cs : List Char} {x : Number} (hc : isLiteralCharacter c = true)
    (hx : readLiteral (splitLiteral (c :: cs)).1 = .ok x) :
    Cut (c :: cs) (splitLiteral (c :: cs)).1 (splitLiteral (c :: cs)).2
  | symbol {c : Char} {cs : List Char} {s : Symbol} (hc : isLiteralCharacter c = false)
    (hs : Symbol.ofChar? c = some s) : Cut (c :: cs) [c] cs

/-- Whether reading the text `cs` behind the token `before` comes to the text `rest`
behind the token `last`. -/
inductive Reaches : (before cs last rest : List Char) → Prop
  | here {before cs : List Char} : Reaches before cs before cs
  | next {before cs token rest last rest' : List Char} (hcut : Cut cs token rest)
    (h : Reaches token rest last rest') : Reaches before cs last rest'

theorem Cut.append_eq {cs token rest : List Char} (h : Cut cs token rest) : token ++ rest = cs := by
  cases h with
  | literal hc hx => exact splitLiteral_append _
  | symbol hc hs => rfl

theorem Cut.ne_nil {cs token rest : List Char} (h : Cut cs token rest) : token ≠ [] := by
  have happend := h.append_eq
  cases h with
  | @literal c cs _ hc _ =>
    intro hnil
    have hlength := splitLiteral_length hc cs
    rw [hnil, List.nil_append] at happend
    rw [happend, List.length_cons] at hlength
    omega
  | symbol hc hs => exact List.cons_ne_nil _ _

theorem Reaches.eq_or_cut {before cs last rest : List Char} (h : Reaches before cs last rest) :
    last = before ∧ rest = cs ∨ ∃ cs', Cut cs' last rest := by
  induction h with
  | here => exact .inl ⟨rfl, rfl⟩
  | next hcut h ih =>
    rcases ih with ⟨rfl, rfl⟩ | hcut'
    · exact .inr ⟨_, hcut⟩
    · exact .inr hcut'

theorem readLiteral_ne_unexpected (literal : List Char) (c : Char) :
    readLiteral literal ≠ .error (.unexpectedCharacter c) := by
  unfold readLiteral
  split
  · simp
  · split <;> simp

theorem scan_unexpected_iff {previous : Option Token} {cs : List Char} {c : Char}
    (before : List Char) :
    scan previous cs = .error (.unexpectedCharacter c) ↔
      isLiteralCharacter c = false ∧ Symbol.ofChar? c = none ∧
        ∃ last after, Reaches before cs last (c :: after) := by
  fun_induction scan previous cs generalizing before with
  | case1 previous =>
    constructor
    · intro h
      cases h
    · rintro ⟨_, _, last, after, hreach⟩
      cases hreach with
      | next hcut => cases hcut
  | case2 previous d rest hd ih =>
    rw [Fault.bind_eq_error]
    constructor
    · rintro (hread | ⟨x, hx, h⟩)
      · exact absurd hread (readLiteral_ne_unexpected _ c)
      rcases Fault.bind_eq_error.1 h with hscan | ⟨_, _, h⟩
      · obtain ⟨hc, hs, last, after, hreach⟩ := (ih x _).1 hscan
        exact ⟨hc, hs, last, after, .next (.literal hd hx) hreach⟩
      · cases h
    · rintro ⟨hc, hs, last, after, hreach⟩
      cases hreach with
      | here =>
        rw [hd] at hc
        cases hc
      | next hcut hreach =>
        cases hcut with
        | literal _ hx =>
          refine .inr ⟨_, hx, ?_⟩
          rw [(ih _ _).2 ⟨hc, hs, last, after, hreach⟩]
          rfl
        | symbol hd' _ =>
          rw [hd] at hd'
          cases hd'
  | case3 previous d rest hd hs =>
    constructor
    · rintro ⟨⟩
      exact ⟨by simpa using hd, hs, before, rest, .here⟩
    · rintro ⟨_, _, last, after, hreach⟩
      cases hreach with
      | here => rfl
      | next hcut hreach =>
        cases hcut with
        | literal hd' _ => exact absurd hd' hd
        | symbol _ hs' =>
          rw [hs] at hs'
          cases hs'
  | case4 previous d rest hd s hs ih =>
    rw [Fault.bind_eq_error]
    constructor
    · rintro (hscan | ⟨_, _, h⟩)
      · obtain ⟨hc, hs', last, after, hreach⟩ := (ih _).1 hscan
        exact ⟨hc, hs', last, after, .next (.symbol (by simpa using hd) hs) hreach⟩
      · cases h
    · rintro ⟨hc, hs', last, after, hreach⟩
      cases hreach with
      | here =>
        rw [hs] at hs'
        cases hs'
      | next hcut hreach =>
        cases hcut with
        | literal hd' _ => exact absurd hd' hd
        | symbol => exact .inl ((ih _).2 ⟨hc, hs', last, after, hreach⟩)

theorem Reaches.onlyMarks {before cs last rest : List Char} (h : Reaches before cs last rest)
    (hmarks : OnlyMarks before.getLast? cs) : OnlyMarks last.getLast? rest := by
  induction h with
  | here => exact hmarks
  | next hcut h ih =>
    refine ih ?_
    rw [← hcut.append_eq] at hmarks
    have hrest := hmarks.of_append
    rwa [List.getLast?_eq_some_getLast hcut.ne_nil] at hrest ⊢

end Token

def HasExponent (literal : List Char) : Prop :=
  ∃ (m : List Char) (e : Exponent), (∀ c ∈ m, isLiteralCharacter c = true) ∧ literal = m ++ e.text

theorem hasExponent_or (cs : List Char) :
    (∀ c ∈ (splitLiteral cs).1, isLiteralCharacter c = true) ∨ HasExponent (splitLiteral cs).1 := by
  obtain ⟨m, hm, hcases⟩ := splitLiteral_cases cs
  have happend := splitLiteral_append cs
  rcases hcases with ⟨hcs, _⟩ | ⟨e, hcs, _⟩
  · obtain rfl : (splitLiteral cs).1 = m := List.append_cancel_right (happend.trans hcs)
    exact .inl hm
  · rw [← List.append_assoc] at hcs
    exact .inr ⟨m, e, hm, List.append_cancel_right (happend.trans hcs)⟩

/-- A literal goes on with a mark, unless it has its exponent already. -/
theorem hasExponent_of_mark {cs : List Char} {c : Char} {after : List Char}
    (htail : (splitLiteral cs).2 = c :: after) (hc : Decimal.isExponentLetter c = true)
    (hstarts : startsExponent after = true) : HasExponent (splitLiteral cs).1 := by
  unfold splitLiteral at htail ⊢
  cases hd : cs.dropWhile isLiteralCharacter with
  | nil =>
    rw [hd] at htail
    cases htail
  | cons d tail =>
    rw [hd] at htail
    by_cases hmark : (Decimal.isExponentLetter d && startsExponent tail) = true
    · obtain ⟨hl, hs⟩ := Bool.and_eq_true_iff.1 hmark
      obtain ⟨e, tail', rfl, rfl, htail'⟩ := exists_exponent hl hs
      simp only [hmark, if_true, e.splitExponent_text htail']
      exact ⟨_, e, fun _ => List.mem_takeWhile_imp, rfl⟩
    · simp only [hmark] at htail
      cases htail
      simp [hc, hstarts] at hmark

theorem Token.Reaches.hasExponent {cs last after : List Char} {c : Char}
    (h : Reaches [] cs last (c :: after)) (hmarks : OnlyMarks none cs)
    (hc : Decimal.isExponentLetter c = true) : HasExponent last := by
  have halpha : c.isAlpha = true := by
    rcases eq_of_isExponentLetter hc with rfl | rfl <;> rfl
  have hmark := (h.onlyMarks hmarks).1 halpha
  simp only [marksExponent, Bool.and_eq_true] at hmark
  obtain ⟨⟨_, hlast⟩, hstarts⟩ := hmark
  rcases h.eq_or_cut with ⟨rfl, _⟩ | ⟨cs', hcut⟩
  · cases hlast
  · generalize htail : c :: after = tail at hcut
    cases hcut with
    | literal hd hx => exact hasExponent_of_mark htail.symm hc hstarts
    | symbol hd hs => simp [hd] at hlast

/-- With its constants and calls written out, a text is read in such literals that each
`e` in one is the letter of its exponent; an `e` that is left over stands directly
behind an exponent, and the text is refused for it just if reading comes to it. -/
theorem tokenize_marks {A : Arithmetic} {cs text : List Char}
    (h : Calls.expand A (Constants.expand cs) = .ok text) :
    (∀ last rest, Token.Reaches [] (withoutBlanks text) last rest →
      ((∀ c ∈ (splitLiteral rest).1, isLiteralCharacter c = true) ∨
        HasExponent (splitLiteral rest).1) ∧
      ∀ c ∈ rest.head?, Decimal.isExponentLetter c = true → HasExponent last) ∧
    ∀ c, Decimal.isExponentLetter c = true →
      (tokenize text = .error (.unexpectedCharacter c) ↔
        ∃ last after, Token.Reaches [] (withoutBlanks text) last (c :: after)) := by
  have hmarks : OnlyMarks none (withoutBlanks text) :=
    (Calls.onlyMarks_expandAfter h).withoutBlanks id
  refine ⟨fun last rest hreach => ⟨hasExponent_or rest, fun c hhead hc => ?_⟩, fun c hc => ?_⟩
  · obtain ⟨after, rfl⟩ := List.head?_eq_some_iff.1 hhead
    exact hreach.hasExponent hmarks hc
  · have hnone : isLiteralCharacter c = false ∧ Symbol.ofChar? c = none := by
      rcases eq_of_isExponentLetter hc with rfl | rfl <;> exact ⟨rfl, rfl⟩
    rw [tokenize, Token.scan_unexpected_iff []]
    simp only [hnone, true_and]

/-- Each `e` marks an exponent for the passes before, but a literal has only one. -/
theorem unexpected_second_exponent :
    Calls.expand .double (Constants.expand "1e5e3".toList) = .ok "1e5e3".toList ∧
      tokenize "1e5e3".toList = .error (.unexpectedCharacter 'e') := by
  constructor
  · exact eq_ok_of_toOption (by decide +kernel)
  · decide +kernel

theorem tokenize_marks_sum :
    ∃ last after, Token.Reaches [] (withoutBlanks "2e3+1e5 3e2".toList) last ('e' :: after) ∧
      HasExponent last := by
  have htext : Calls.expand .double (Constants.expand "2e3+1e5 3e2".toList) =
      .ok "2e3+1e5 3e2".toList := eq_ok_of_toOption (by decide +kernel)
  obtain ⟨hreached, hrefused⟩ := tokenize_marks htext
  have hfault : tokenize "2e3+1e5 3e2".toList = .error (.unexpectedCharacter 'e') := by
    decide +kernel
  obtain ⟨last, after, hreach⟩ := (hrefused 'e' rfl).1 hfault
  exact ⟨last, after, hreach, (hreached last _ hreach).2 'e' rfl rfl⟩

end Calculator
