import Calculator.Proofs.Expression.Boundary

set_option autoImplicit false

namespace Calculator

theorem splitExponent_closing (cs rest : List Char) :
    splitExponent (cs ++ ')' :: rest) =
      ((splitExponent cs).1, (splitExponent cs).2 ++ ')' :: rest) := by
  cases cs with
  | nil => rfl
  | cons c cs =>
    obtain ⟨htail, hafter⟩ := span_closing (p := Char.isDigit) rfl cs rest
    obtain ⟨hwhole, hbehind⟩ := span_closing (p := Char.isDigit) rfl (c :: cs) rest
    rw [List.cons_append] at hwhole hbehind ⊢
    simp only [splitExponent]
    split
    · rw [htail, hafter]
    · rw [hwhole, hbehind]

theorem splitLiteral_closing (cs rest : List Char) :
    splitLiteral (cs ++ ')' :: rest) =
      ((splitLiteral cs).1, (splitLiteral cs).2 ++ ')' :: rest) := by
  have hclosing := endsExponent_closing rest
  obtain ⟨hmantissa, hbehind⟩ := span_closing (p := isLiteralCharacter) rfl cs rest
  simp only [splitLiteral, hmantissa, hbehind]
  cases cs.dropWhile isLiteralCharacter with
  | nil => rfl
  | cons c after =>
    simp only [List.cons_append, startsExponent_append after hclosing, splitExponent_closing]
    split <;> rfl

namespace Token

open ReversePolish (map_map_append)

theorem bind_map_append (ys : List Token) (u t : Token) (r r' : Except Fault (List Token)) :
    ((r >>= fun tokens => r'.map (tokens ++ t :: ·)) >>= fun tokens => pure (ys ++ u :: tokens)) =
      (r >>= fun tokens => pure (ys ++ u :: tokens)) >>= fun tokens =>
        r'.map (tokens ++ t :: ·) := by
  cases r with
  | error f => rfl
  | ok tokens => cases r' <;> simp [Except.map, pure, Except.pure]

/-- The tokens of a text do not reach over a closing parenthesis. -/
theorem scan_append_closing (previous : Option Token) (cs rest : List Char) :
    scan previous (cs ++ ')' :: rest) =
      scan previous cs >>= fun tokens =>
        (scan (some (.symbol .closing)) rest).map (tokens ++ .symbol .closing :: ·) := by
  fun_induction scan previous cs with
  | case1 previous => exact scan_closing previous rest
  | case2 previous c cs hc ih =>
    rw [List.cons_append, scan, dif_pos hc, ← List.cons_append, splitLiteral_closing]
    cases readLiteral (splitLiteral (c :: cs)).1 with
    | error f => rfl
    | ok x =>
      rw [Fault.ok_bind, Fault.ok_bind, ih]
      exact bind_map_append _ _ _ _ _
  | case3 previous c cs hc hs =>
    rw [List.cons_append, scan, dif_neg hc, hs]
    rfl
  | case4 previous c cs hc s hs ih =>
    rw [List.cons_append, scan, dif_neg hc, hs]
    simp only [ih]
    exact bind_map_append _ _ _ _ _

theorem scan_times (previous : Option Token) (rest : List Char) :
    scan previous ('×' :: rest) =
      (scan (some (.symbol (.binary .times))) rest).map ([.symbol (.binary .times)] ++ ·) :=
  scan_operator previous .times rest

theorem scan_times_opening {t : Token}
    (h : impliedProduct (some t) (.symbol .opening) = [.symbol (.binary .times)])
    (rest : List Char) : scan (some t) ('×' :: '(' :: rest) = scan (some t) ('(' :: rest) := by
  have hopening : isLiteralCharacter '(' = false := rfl
  rw [scan_times, scan_symbol hopening rfl rfl, scan, dif_neg (by simp [hopening])]
  simp only [Symbol.ofChar?, h]
  cases scan (some (.symbol .opening)) rest <;> rfl

theorem scan_times_literal {t : Token}
    (h : ∀ x, impliedProduct (some t) (.number x) = [.symbol (.binary .times)])
    {c : Char} (hc : isLiteralCharacter c = true) (rest : List Char) :
    scan (some t) ('×' :: c :: rest) = scan (some t) (c :: rest) := by
  rw [scan_times, scan, dif_pos hc, scan, dif_pos hc]
  cases readLiteral (splitLiteral (c :: rest)).1 with
  | error f => rfl
  | ok x =>
    rw [Fault.ok_bind, Fault.ok_bind, h x]
    cases scan (some (.number x)) (splitLiteral (c :: rest)).2 <;> rfl

end Token

/-- The text of a factor that is no call and no constant: a literal, or any text between
parentheses. -/
inductive Block
  | literal (l : Literal)
  | group (inside : List Char)

namespace Block

def text : Block → List Char
  | literal l => l.text
  | group inside => '(' :: inside ++ [')']

def isLiteral : Block → Bool
  | literal _ => true
  | group _ => false

def last : Block → Token
  | literal l => .number l.value
  | group _ => .symbol .closing

theorem scan_append (u : Block) {rest : List Char} (h : u.isLiteral = true → EndsLiteral rest) :
    Token.scan none (u.text ++ rest) =
      Token.scan none u.text >>= fun tokens =>
        (Token.scan (some u.last) rest).map (tokens ++ ·) := by
  cases u with
  | literal l =>
    have hempty : EndsLiteral [] := fun _ hc => nomatch hc
    have hwhole : Token.scan none (l.text ++ []) = _ := Token.scan_literal l rfl hempty
    rw [List.append_nil, Token.scan] at hwhole
    rw [text, last, hwhole, Token.scan_literal l rfl (h rfl)]
    rfl
  | group inside =>
    have hopening : ∀ cs, Token.scan none ('(' :: cs) =
        (Token.scan (some (.symbol .opening)) cs).map ([.symbol .opening] ++ ·) := fun cs =>
      Token.scan_symbol rfl rfl rfl cs
    have htext : '(' :: inside ++ [')'] ++ rest = '(' :: (inside ++ ')' :: rest) := by simp
    have hempty : Token.scan (some (.symbol .closing)) [] = .ok [] := by rw [Token.scan]
    rw [text, last, htext, List.cons_append, hopening, hopening, Token.scan_append_closing,
      Token.scan_append_closing, hempty]
    cases Token.scan (some (.symbol .opening)) inside with
    | error f => rfl
    | ok tokens =>
      cases Token.scan (some (.symbol .closing)) rest with
      | error f => rfl
      | ok tokens' => simp [Except.map]

theorem scan_product {u v : Block} (h : u.isLiteral = false ∨ v.isLiteral = false) :
    Token.scan none (u.text ++ '×' :: v.text) = Token.scan none (u.text ++ v.text) := by
  have htimes : u.isLiteral = true → EndsLiteral ('×' :: v.text) := by
    rintro _ _ ⟨⟩
    exact ⟨rfl, rfl⟩
  have hnext : u.isLiteral = true → EndsLiteral v.text := by
    intro hu
    cases v with
    | literal l =>
      rw [hu] at h
      simp [isLiteral] at h
    | group inside =>
      rintro _ ⟨⟩
      exact ⟨rfl, rfl⟩
  have hscan : Token.scan (some u.last) ('×' :: v.text) = Token.scan (some u.last) v.text := by
    cases v with
    | group inside =>
      refine Token.scan_times_opening ?_ _
      cases u <;> rfl
    | literal l =>
      obtain ⟨c, cs, hl, hc⟩ := l.exists_text_eq_cons
      cases u with
      | literal l' => simp [isLiteral] at h
      | group inside =>
        rw [text, hl]
        exact Token.scan_times_literal (fun _ => rfl) hc cs
  rw [scan_append u htimes, scan_append u hnext, hscan]

theorem exists_withoutBlanks (u : Block) :
    ∃ u' : Block, withoutBlanks u.text = u'.text ∧ u'.isLiteral = u.isLiteral := by
  cases u with
  | literal l =>
    refine ⟨.literal l, ?_, rfl⟩
    exact withoutBlanks_eq_self fun c hc => Literal.isBlank_of_mem hc
  | group inside =>
    refine ⟨.group (withoutBlanks inside), ?_, rfl⟩
    rw [text, withoutBlanks_append, withoutBlanks_keep (by rfl), withoutBlanks_keep (by rfl)]
    rfl

theorem tokenize_product {u v : Block} (h : u.isLiteral = false ∨ v.isLiteral = false) :
    tokenize (u.text ++ '×' :: v.text) = tokenize (u.text ++ v.text) := by
  obtain ⟨u', hu, hu'⟩ := u.exists_withoutBlanks
  obtain ⟨v', hv, hv'⟩ := v.exists_withoutBlanks
  have htimes : withoutBlanks (u.text ++ '×' :: v.text) = u'.text ++ '×' :: v'.text := by
    rw [withoutBlanks_append, withoutBlanks_keep (by rfl), hu, hv]
  have hnext : withoutBlanks (u.text ++ v.text) = u'.text ++ v'.text := by
    rw [withoutBlanks_append, hu, hv]
  rw [tokenize, tokenize, htimes, hnext, scan_product (by rwa [hu', hv'])]

end Block

end Calculator
