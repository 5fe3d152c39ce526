import Calculator.Token.Lexer
import Calculator.Decimal.Shortest

set_option autoImplicit false

namespace Calculator

/-- What can stand directly before an expression in a text. -/
inductive Before : Option Char → Prop
  | start : Before none
  | opening : Before (some '(')
  | operator (op : Operator) : Before (some op.char)

inductive Behind : List Char → Prop
  | done : Behind []
  | closing (cs : List Char) : Behind (')' :: cs)
  | operator (op : Operator) (cs : List Char) : Behind (op.char :: cs)

theorem Behind.head {p : Char → Bool} (hc : p ')' = false) (ho : ∀ op : Operator, p op.char = false)
    {rest : List Char} (h : Behind rest) : ∀ c ∈ rest.head?, p c = false := by
  cases h with
  | done => exact fun c hc => nomatch hc
  | closing cs => simpa using hc
  | operator op cs => simpa using ho op

theorem span_append {p : Char → Bool} {xs rest : List Char} (hx : ∀ c ∈ xs, p c = true)
    (h : ∀ c ∈ rest.head?, p c = false) :
    (xs ++ rest).takeWhile p = xs ∧ (xs ++ rest).dropWhile p = rest := by
  rw [List.takeWhile_append_of_pos hx, List.dropWhile_append_of_pos hx]
  cases rest with
  | nil => simp
  | cons c rest => simp [h c rfl]

theorem isLiteralCharacter_char (op : Operator) : isLiteralCharacter op.char = false := by
  cases op <;> rfl

def EndsLiteral (rest : List Char) : Prop :=
  ∀ c ∈ rest.head?, isLiteralCharacter c = false ∧ Decimal.isExponentLetter c = false

theorem Behind.endsLiteral {rest : List Char} (h : Behind rest) : EndsLiteral rest := by
  have hletter : ∀ op : Operator, Decimal.isExponentLetter op.char = false := by
    intro op
    cases op <;> rfl
  exact fun c hc => ⟨h.head rfl isLiteralCharacter_char c hc, h.head rfl hletter c hc⟩

/-- Digits with at most one point among them, and one digit at least. -/
structure Mantissa where
  whole : List Char
  fraction : Option (List Char)
  isDigit : ∀ c ∈ whole ++ fraction.getD [], c.isDigit = true
  ne_nil : whole ++ fraction.getD [] ≠ []

structure Exponent where
  letter : Char
  sign : Option Char
  digits : List Char
  letter_eq : letter = 'e' ∨ letter = 'E'
  sign_eq : sign = none ∨ sign = some '+' ∨ sign = some '-'
  isDigit : ∀ c ∈ digits, c.isDigit = true
  ne_nil : digits ≠ []

namespace Mantissa

def text (m : Mantissa) : List Char := m.whole ++ m.fraction.elim [] ('.' :: ·)

def decimal (m : Mantissa) : Decimal :=
  ⟨Nat.ofDigitChars 10 (m.whole ++ m.fraction.getD []) 0, -((m.fraction.getD []).length : Int)⟩

theorem isLiteralCharacter_of_mem {m : Mantissa} {c : Char} (h : c ∈ m.text) :
    isLiteralCharacter c = true := by
  have hd : ∀ c ∈ m.whole ++ m.fraction.getD [], isLiteralCharacter c = true := fun c hc => by
    simp [isLiteralCharacter, m.isDigit c hc]
  rcases List.mem_append.1 h with hc | hc
  · exact hd c (List.mem_append_left _ hc)
  · cases hf : m.fraction with
    | none => simp [hf] at hc
    | some ds =>
      rw [hf] at hc
      rcases List.mem_cons.1 hc with rfl | hc
      · rfl
      · exact hd c (List.mem_append_right _ (by simpa [hf] using hc))

theorem text_ne_nil (m : Mantissa) : m.text ≠ [] := by
  have h := m.ne_nil
  unfold text
  cases hf : m.fraction with
  | none => simpa [hf] using h
  | some ds => simp

theorem ofText?_text (m : Mantissa) : Decimal.ofText? m.text = some m.decimal := by
  obtain ⟨whole, fraction, hd, hne⟩ := m
  have hwhole : ∀ c ∈ whole, c.isDigit = true := fun c hc => hd c (List.mem_append_left _ hc)
  cases fraction with
  | none =>
    simp only [Option.getD_none, List.append_nil] at hne
    simp only [text, decimal, Decimal.ofText?, Option.elim_none, Option.getD_none,
      List.append_nil, Decimal.takeWhile_isDigit hwhole, Decimal.dropWhile_isDigit hwhole,
      List.isEmpty_iff, hne, if_false]
    rfl
  | some ds =>
    have hds : ds.all Char.isDigit = true :=
      List.all_eq_true.2 fun c hc => hd c (List.mem_append_right _ hc)
    obtain ⟨ht, hw⟩ := Decimal.takeWhile_isDigit_append hwhole (c := '.') rfl ds
    simp only [Option.getD_some] at hne
    simp only [text, decimal, Decimal.ofText?, Option.elim_some, Option.getD_some, ht, hw, hds,
      hne, and_self, ne_eq, not_false_eq_true, if_true]

end Mantissa

namespace Exponent

def text (e : Exponent) : List Char := e.letter :: e.sign.toList ++ e.digits

def value (e : Exponent) : Int :=
  let n : Int := Nat.ofDigitChars 10 e.digits 0
  if e.sign = some '-' then -n else n

theorem naturalOfText?_digits (e : Exponent) :
    Decimal.naturalOfText? e.digits = some (Nat.ofDigitChars 10 e.digits 0) := by
  have hall : e.digits.all Char.isDigit = true := List.all_eq_true.2 e.isDigit
  simp only [Decimal.naturalOfText?, ne_eq, e.ne_nil, not_false_eq_true, hall, and_self, if_true]

theorem exponentOfText?_text (e : Exponent) :
    Decimal.exponentOfText? (e.sign.toList ++ e.digits) = some e.value := by
  have hn := e.naturalOfText?_digits
  rcases e.sign_eq with h | h | h
  · have hd := e.isDigit
    have hne := e.ne_nil
    rw [value, h]
    cases hds : e.digits with
    | nil => exact absurd hds hne
    | cons d ds =>
      have hdigit := hd d (by simp [hds])
      have hm : d ≠ '-' := by rintro rfl; cases hdigit
      have hp : d ≠ '+' := by rintro rfl; cases hdigit
      rw [hds] at hn
      simp only [Option.toList_none, List.nil_append, reduceCtorEq, if_false]
      unfold Decimal.exponentOfText?
      split
      · simp_all
      · simp_all
      · rw [hn]
        rfl
  · simp [h, value, Decimal.exponentOfText?, hn]
  · simp [h, value, Decimal.exponentOfText?, hn]

theorem isSign_of_mem {e : Exponent} {c : Char} (h : c ∈ e.sign.toList) :
    Decimal.isSign c = true := by
  rcases e.sign_eq with hs | hs | hs
  · simp [hs] at h
  · simp [Decimal.isSign, show c = '+' by simpa [hs] using h]
  · simp [Decimal.isSign, show c = '-' by simpa [hs] using h]

theorem isExponentLetter_letter (e : Exponent) : Decimal.isExponentLetter e.letter = true := by
  rcases e.letter_eq with h | h <;> rw [h] <;> rfl

theorem isLiteralCharacter_letter (e : Exponent) : isLiteralCharacter e.letter = false := by
  rcases e.letter_eq with h | h <;> rw [h] <;> rfl

theorem startsExponent_text (e : Exponent) (rest : List Char) :
    startsExponent (e.sign.toList ++ (e.digits ++ rest)) = true := by
  have hd := e.isDigit
  cases hds : e.digits with
  | nil => exact absurd hds e.ne_nil
  | cons d ds =>
    have hdigit : d.isDigit = true := hd d (by simp [hds])
    rcases e.sign_eq with h | h | h
    · cases hr : ds ++ rest <;> simp [h, hr, startsExponent, hdigit]
    · simp [h, startsExponent, Decimal.isSign, hdigit]
    · simp [h, startsExponent, Decimal.isSign, hdigit]

theorem splitExponent_text (e : Exponent) {rest : List Char}
    (h : ∀ c ∈ rest.head?, c.isDigit = false) :
    splitExponent (e.sign.toList ++ (e.digits ++ rest)) = (e.sign.toList ++ e.digits, rest) := by
  obtain ⟨ht, hd⟩ := span_append e.isDigit h
  rcases e.sign_eq with hs | hs | hs
  · cases hds : e.digits with
    | nil => exact absurd hds e.ne_nil
    | cons d ds =>
      have hdigit : d.isDigit = true := e.isDigit d (by simp [hds])
      have hsign : Decimal.isSign d = false := by
        by_cases h' : Decimal.isSign d = true
        · rcases (by simpa [Decimal.isSign] using h') with rfl | rfl <;> cases hdigit
        · simpa using h'
      rw [hds, List.cons_append] at ht hd
      simp only [hs, Option.toList_none, List.nil_append, List.cons_append, splitExponent, hsign,
        Bool.false_eq_true, if_false, ht, hd]
  · simp [hs, splitExponent, Decimal.isSign, ht, hd]
  · simp [hs, splitExponent, Decimal.isSign, ht, hd]

end Exponent

def Mantissa.scaled (m : Mantissa) (e : Option Exponent) : Decimal :=
  e.elim m.decimal fun e => m.decimal.scale e.value

/-- A literal within the range of doubles. -/
structure Literal where
  mantissa : Mantissa
  exponent : Option Exponent
  isFinite : (mantissa.scaled exponent).toNumber.isFinite = true

namespace Literal

def text (l : Literal) : List Char := l.mantissa.text ++ l.exponent.elim [] Exponent.text

def decimal (l : Literal) : Decimal := l.mantissa.scaled l.exponent

def value (l : Literal) : Number := l.decimal.toNumber

theorem eq_of_mem {l : Literal} {c : Char} (h : c ∈ l.text) :
    c.isDigit = true ∨ c ∈ ['.', 'e', 'E', '+', '-'] := by
  have hplain : isLiteralCharacter c = true → c.isDigit = true ∨ c ∈ ['.', 'e', 'E', '+', '-'] := by
    intro hc
    rcases (by simpa [isLiteralCharacter] using hc) with hd | rfl
    · exact .inl hd
    · simp
  rcases List.mem_append.1 h with h | h
  · exact hplain (Mantissa.isLiteralCharacter_of_mem h)
  · cases hx : l.exponent with
    | none => simp [hx] at h
    | some e =>
      rw [hx, Option.elim_some, Exponent.text, List.cons_append, List.mem_cons,
        List.mem_append] at h
      rcases h with rfl | h | h
      · rcases e.letter_eq with he | he <;> simp [he]
      · rcases (by simpa [Decimal.isSign] using e.isSign_of_mem h) with rfl | rfl <;> simp
      · exact .inl (e.isDigit c h)

theorem ofLiteral?_text (l : Literal) : Decimal.ofLiteral? l.text = some l.decimal := by
  have hm : ∀ c ∈ l.mantissa.text, (!Decimal.isExponentLetter c) = true := by
    intro c hc
    have hl := Mantissa.isLiteralCharacter_of_mem hc
    by_cases he : Decimal.isExponentLetter c = true
    · rcases (by simpa [Decimal.isExponentLetter] using he) with rfl | rfl <;> cases hl
    · simpa using he
  rw [text, decimal]
  cases h : l.exponent with
  | none =>
    simp only [Option.elim_none, List.append_nil, Decimal.ofLiteral?, Mantissa.scaled]
    have ht : (l.mantissa.text ++ []).takeWhile (!Decimal.isExponentLetter ·) = _ :=
      List.takeWhile_append_of_pos hm
    have hd : (l.mantissa.text ++ []).dropWhile (!Decimal.isExponentLetter ·) = _ :=
      List.dropWhile_append_of_pos hm
    rw [List.append_nil] at ht hd
    rw [ht, hd, List.takeWhile_nil, List.dropWhile_nil, List.append_nil]
    exact l.mantissa.ofText?_text
  | some e =>
    have he := e.isExponentLetter_letter
    simp only [Option.elim_some, Exponent.text, List.cons_append, Decimal.ofLiteral?,
      Mantissa.scaled, List.takeWhile_append_of_pos hm, List.dropWhile_append_of_pos hm, he,
      Bool.not_true, Bool.false_eq_true, not_false_eq_true, List.takeWhile_cons_of_neg,
      List.dropWhile_cons_of_neg, List.append_nil, l.mantissa.ofText?_text,
      e.exponentOfText?_text]
    rfl

theorem readLiteral_text (l : Literal) : Token.readLiteral l.text = .ok l.value := by
  have h : l.decimal.toNumber.isFinite = true := l.isFinite
  simp only [Token.readLiteral, l.ofLiteral?_text, h, if_true, value]

theorem exists_text_eq_cons (l : Literal) :
    ∃ c cs, l.text = c :: cs ∧ isLiteralCharacter c = true := by
  cases h : l.mantissa.text with
  | nil => exact absurd h l.mantissa.text_ne_nil
  | cons c cs =>
    have hc := Mantissa.isLiteralCharacter_of_mem (show c ∈ l.mantissa.text by simp [h])
    exact ⟨c, cs ++ l.exponent.elim [] Exponent.text, by simp [text, h], hc⟩

theorem splitLiteral_text (l : Literal) {rest : List Char} (h : EndsLiteral rest) :
    splitLiteral (l.text ++ rest) = (l.text, rest) := by
  have hm : ∀ c ∈ l.mantissa.text, isLiteralCharacter c = true :=
    fun c hc => Mantissa.isLiteralCharacter_of_mem hc
  rw [text]
  cases hx : l.exponent with
  | none =>
    obtain ⟨ht, hd⟩ := span_append hm fun c hc => (h c hc).1
    simp only [Option.elim_none, List.append_nil, splitLiteral, ht, hd]
    cases rest with
    | nil => rfl
    | cons c after => simp [(h c rfl).2]
  | some e =>
    have hassoc : l.mantissa.text ++ e.text ++ rest =
        l.mantissa.text ++ e.letter :: (e.sign.toList ++ (e.digits ++ rest)) := by
      simp [Exponent.text]
    have hl := e.isLiteralCharacter_letter
    have hdigit : ∀ c ∈ rest.head?, c.isDigit = false := fun c hc =>
      (Bool.or_eq_false_iff.1 (h c hc).1).1
    simp only [Option.elim_some, hassoc, splitLiteral, List.takeWhile_append_of_pos hm,
      List.dropWhile_append_of_pos hm, hl, Bool.false_eq_true, not_false_eq_true,
      List.takeWhile_cons_of_neg, List.dropWhile_cons_of_neg, List.append_nil,
      e.isExponentLetter_letter, e.startsExponent_text, Bool.and_self, if_true,
      e.splitExponent_text hdigit]
    simp [Exponent.text]

end Literal

theorem Token.scan_literal (l : Literal) {previous : Option Token} {rest : List Char}
    (hp : impliedProduct previous (.number l.value) = []) (h : EndsLiteral rest) :
    scan previous (l.text ++ rest) =
      (scan (some (.number l.value)) rest).map ([.number l.value] ++ ·) := by
  obtain ⟨c, cs, hcs, hc⟩ := l.exists_text_eq_cons
  have hsplit := l.splitLiteral_text h
  have hread := l.readLiteral_text
  rw [hcs, List.cons_append] at hsplit ⊢
  rw [scan, dif_pos hc, hsplit, ← hcs, hread]
  simp only [bind, Except.bind, hp, List.nil_append]
  cases scan (some (.number l.value)) rest <;> rfl

namespace Mantissa

def ofDecimal (d : Decimal) : Mantissa :=
  match d.exponent with
  | .ofNat k =>
    ⟨Nat.toDigits 10 (d.coefficient * 10 ^ k), none,
      by simpa using fun _ => Decimal.isDigit_of_mem_toDigits,
      by simp⟩
  | .negSucc k =>
    ⟨Nat.toDigits 10 (d.coefficient / 10 ^ (k + 1)),
      some (Decimal.padded (k + 1) (d.coefficient % 10 ^ (k + 1))), fun c hc => by
        rcases List.mem_append.1 hc with hc | hc
        · exact Decimal.isDigit_of_mem_toDigits hc
        · exact Decimal.isDigit_of_mem_padded hc,
      by simp⟩

theorem text_ofDecimal (d : Decimal) : (ofDecimal d).text = d.text := by
  obtain ⟨c, e⟩ := d
  cases e with
  | ofNat k => exact List.append_nil _
  | negSucc k => rfl

theorem decimal_ofDecimal (d : Decimal) : (ofDecimal d).decimal = d.spelled := by
  have h := (ofDecimal d).ofText?_text
  rw [text_ofDecimal, Decimal.ofText?_text] at h
  exact (Option.some.inj h).symm

end Mantissa

namespace Literal

def ofDecimal (d : Decimal) (h : d.toNumber.isFinite = true) : Literal :=
  ⟨.ofDecimal d, none, by
    rw [Mantissa.scaled, Option.elim_none, Mantissa.decimal_ofDecimal, Decimal.toNumber,
      Decimal.toMagnitude?_spelled]
    exact h⟩

theorem text_ofDecimal (d : Decimal) (h : d.toNumber.isFinite = true) :
    (ofDecimal d h).text = d.text := by
  simp [ofDecimal, text, Mantissa.text_ofDecimal]

theorem value_ofDecimal (d : Decimal) (h : d.toNumber.isFinite = true) :
    (ofDecimal d h).value = d.toNumber := by
  simp [ofDecimal, value, decimal, Mantissa.scaled, Mantissa.decimal_ofDecimal,
    Decimal.toNumber, Decimal.toMagnitude?_spelled]

theorem toNumber_shortest (m : Magnitude) : m.shortest.toNumber = .finite false m := by
  have h := m.readsBack_shortest
  rw [Magnitude.readsBack, beq_iff_eq] at h
  rw [Decimal.toNumber, h]
  rfl

def ofMagnitude (m : Magnitude) : Literal :=
  ofDecimal m.shortest (by rw [toNumber_shortest]; rfl)

theorem text_ofMagnitude (m : Magnitude) : (ofMagnitude m).text = m.text :=
  text_ofDecimal _ _

theorem value_ofMagnitude (m : Magnitude) : (ofMagnitude m).value = .finite false m := by
  rw [ofMagnitude, value_ofDecimal, toNumber_shortest]

end Literal

end Calculator
