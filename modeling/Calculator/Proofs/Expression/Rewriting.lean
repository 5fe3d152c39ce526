import Calculator.Proofs.Expression.Text

set_option autoImplicit false

namespace Calculator

/-- From the character before a text and the text to the text that takes its place. -/
abbrev Pass := Option Char → List Char → Except Fault (List Char)

/-- Whether a character is a token or one of a literal without an exponent. -/
def isPlain (c : Char) : Bool := isLiteralCharacter c || (Symbol.ofChar? c).isSome

theorem isDigit_or_mem_of_isPlain {c : Char} (h : isPlain c = true) :
    c.isDigit = true ∨ c ∈ ".+-×*÷/^()".toList := by
  by_cases hd : c.isDigit = true
  · exact .inl hd
  · simp only [isPlain, isLiteralCharacter, hd, Bool.false_or, Bool.or_eq_true, beq_iff_eq] at h
    rcases h with rfl | h
    · exact .inr (by simp)
    · unfold Symbol.ofChar? at h
      split at h <;> first | cases h; done | exact .inr (by simp)

theorem isPlain_char (op : Operator) : isPlain op.char = true := by
  cases op <;> rfl

theorem isPlain_of_isDigit {c : Char} (h : c.isDigit = true) : isPlain c = true := by
  simp [isPlain, isLiteralCharacter, h]

theorem Exponent.isPlain_of_mem {e : Exponent} {c : Char} (h : c ∈ e.sign.toList ++ e.digits) :
    isPlain c = true := by
  rcases List.mem_append.1 h with h | h
  · rcases (by simpa [Decimal.isSign] using e.isSign_of_mem h) with rfl | rfl <;> rfl
  · exact isPlain_of_isDigit (e.isDigit c h)

theorem Before.isLiteralCharacter {previous : Option Char} (h : Before previous) :
    previous.any Calculator.isLiteralCharacter = false := by
  cases h with
  | start => rfl
  | opening => rfl
  | operator op => exact isLiteralCharacter_char op

theorem marksExponent_of_previous {previous : Option Char}
    (h : previous.any isLiteralCharacter = false) (cs : List Char) :
    marksExponent previous cs = false := by
  cases cs with
  | nil => rfl
  | cons c cs => simp [marksExponent, h]

theorem Before.marksExponent {previous : Option Char} (h : Before previous) (cs : List Char) :
    marksExponent previous cs = false := marksExponent_of_previous h.isLiteralCharacter cs

theorem Literal.marksExponent_text (m : Mantissa) (e : Exponent) (previous : Option Char)
    (rest : List Char) :
    marksExponent (m.text.getLast?.or previous)
      (e.letter :: (e.sign.toList ++ (e.digits ++ rest))) = true := by
  have hne := m.text_ne_nil
  have hl := m.isLiteralCharacter_of_mem (List.getLast_mem hne)
  rw [List.getLast?_eq_some_getLast hne]
  simp [marksExponent, e.isExponentLetter_letter, e.startsExponent_text, hl]

theorem getLast?_cons_or (c : Char) (cs : List Char) (previous : Option Char) :
    (c :: cs).getLast?.or previous = cs.getLast?.or (some c) := by
  rw [List.getLast?_cons]
  cases cs.getLast? <;> rfl

structure Pass.Copies (F : Pass) : Prop where
  done : ∀ previous, F previous [] = .ok []
  plain : ∀ previous {c : Char} (after : List Char), isPlain c = true →
    F previous (c :: after) = (F (some c) after).map ([c] ++ ·)
  mark : ∀ previous {c : Char} {after : List Char}, marksExponent previous (c :: after) = true →
    F previous (c :: after) = (F (some c) after).map ([c] ++ ·)

/-- Whether the part of an expression with this text is rewritten so. -/
def Pass.Rewrites (F : Pass) (cs : List Char) (out : Except Fault (List Char)) : Prop :=
  ∀ ⦃previous : Option Char⦄ ⦃rest : List Char⦄, Before previous → Behind rest →
    F previous (cs ++ rest) = out >>= fun xs => (F none rest).map (xs ++ ·)

namespace Pass

open ReversePolish (map_map_append)

variable {F : Pass}

namespace Copies

theorem behind (hF : F.Copies) (previous : Option Char) {rest : List Char} (h : Behind rest) :
    F previous rest = F none rest := by
  cases h with
  | done => rw [hF.done, hF.done]
  | closing cs => rw [hF.plain _ _ rfl, hF.plain none _ rfl]
  | operator op cs => rw [hF.plain _ _ (isPlain_char op), hF.plain none _ (isPlain_char op)]

theorem copy_append (hF : F.Copies) {cs : List Char} (h : ∀ c ∈ cs, isPlain c = true)
    (previous : Option Char) (rest : List Char) :
    F previous (cs ++ rest) = (F (cs.getLast?.or previous) rest).map (cs ++ ·) := by
  induction cs generalizing previous with
  | nil =>
    show F previous rest = (F previous rest).map ([] ++ ·)
    cases F previous rest <;> rfl
  | cons c cs ih =>
    rw [List.cons_append, hF.plain _ _ (h c (by simp)), ih fun d hd => h d (by simp [hd]),
      map_map_append, getLast?_cons_or]
    rfl

theorem literal_append (hF : F.Copies) (l : Literal) (previous : Option Char)
    (rest : List Char) :
    F previous (l.text ++ rest) = (F (l.text.getLast?.or previous) rest).map (l.text ++ ·) := by
  have hm : ∀ c ∈ l.mantissa.text, isPlain c = true := fun c hc => by
    simp [isPlain, Mantissa.isLiteralCharacter_of_mem hc]
  rw [Literal.text]
  cases hx : l.exponent with
  | none => rw [Option.elim_none, List.append_nil, hF.copy_append hm]
  | some e =>
    have hmark := Literal.marksExponent_text l.mantissa e previous rest
    have htext : l.mantissa.text ++ e.text ++ rest =
        l.mantissa.text ++ e.letter :: (e.sign.toList ++ (e.digits ++ rest)) := by
      simp [Exponent.text]
    have hlast : (l.mantissa.text ++ e.text).getLast?.or previous =
        (e.sign.toList ++ e.digits).getLast?.or (some e.letter) := by
      rw [List.getLast?_append, Exponent.text, List.cons_append, List.getLast?_cons]
      cases (e.sign.toList ++ e.digits).getLast? <;> rfl
    rw [Option.elim_some, htext, hF.copy_append hm, hF.mark _ hmark, ← List.append_assoc,
      hF.copy_append (fun c => e.isPlain_of_mem), hlast, map_map_append, map_map_append]
    simp [Exponent.text]

theorem rewrites_whole (hF : F.Copies) {cs : List Char} {out : Except Fault (List Char)}
    (h : F.Rewrites cs out) : F none cs = out := by
  have hwhole := h .start .done
  rw [List.append_nil, hF.done] at hwhole
  rw [hwhole]
  cases out with
  | error e => rfl
  | ok xs => simp [Except.map]

end Copies

namespace Rewrites

theorem literal (hF : F.Copies) (l : Literal) : F.Rewrites l.text (.ok l.text) := by
  intro previous rest _ hr
  rw [hF.literal_append, hF.behind _ hr]
  rfl

theorem parenthesized (hF : F.Copies) {cs : List Char} {out : Except Fault (List Char)}
    (h : F.Rewrites cs out) (previous : Option Char) {rest : List Char} (hr : Behind rest) :
    F previous ('(' :: cs ++ [')'] ++ rest) =
      (out.map fun xs => '(' :: xs ++ [')']) >>= fun xs => (F none rest).map (xs ++ ·) := by
  rw [List.cons_append, List.cons_append, hF.plain _ _ rfl, List.append_assoc,
    List.singleton_append, h .opening (.closing rest), hF.plain _ _ rfl, hF.behind _ hr]
  cases out with
  | error e => rfl
  | ok xs =>
    show (((F none rest).map _).map _).map _ = (F none rest).map _
    rw [map_map_append, map_map_append]
    simp

theorem group (hF : F.Copies) {cs : List Char} {out : Except Fault (List Char)}
    (h : F.Rewrites cs out) :
    F.Rewrites ('(' :: cs ++ [')']) (out.map fun xs => '(' :: xs ++ [')']) :=
  fun previous _ _ hr => h.parenthesized hF previous hr

theorem prefixed (hF : F.Copies) {cs : List Char} {out : Except Fault (List Char)}
    (op : Operator) (h : F.Rewrites cs out) :
    F.Rewrites (op.char :: cs) (out.map (op.char :: ·)) := by
  intro previous rest hp hr
  rw [List.cons_append, hF.plain _ _ (isPlain_char op), h (.operator op) hr]
  cases out with
  | error e => rfl
  | ok xs =>
    show ((F none rest).map _).map _ = (F none rest).map _
    rw [map_map_append]
    rfl

theorem combine (hF : F.Copies) {cs ds : List Char} {out out' : Except Fault (List Char)}
    (op : Operator) (hc : F.Rewrites cs out) (hd : F.Rewrites ds out') :
    F.Rewrites (cs ++ op.char :: ds) (do
      let xs ← out
      let ys ← out'
      pure (xs ++ op.char :: ys)) := by
  intro previous rest hp hr
  have hd' := hd.prefixed hF op .start hr
  rw [List.append_assoc, List.cons_append, hc hp (.operator op _), ← List.cons_append, hd']
  cases out with
  | error e => rfl
  | ok xs =>
    cases out' with
    | error e => rfl
    | ok ys =>
      show ((F none rest).map _).map _ = (F none rest).map _
      rw [map_map_append]

end Rewrites

end Pass

end Calculator
