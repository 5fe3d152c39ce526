import Calculator.Token.Lexer
import Calculator.Proofs.Cursor.Basic

set_option autoImplicit false

namespace Calculator

namespace Cursor

/-- Whether the character at a position is the mark of an exponent. The places
before and behind it need not exist. -/
def isMark (cs : List Char) (i : Nat) : Except Stop Bool :=
  if !cs[i]?.any Decimal.isExponentLetter || i == 0 then .ok false
  else do
    let k ← decrement i
    let previous ← read cs k
    if !isLiteralCharacter previous then .ok false
    else
      match cs[i + 1]? with
      | none => .ok false
      | some c =>
        if c.isDigit then .ok true
        else if Decimal.isSign c then .ok (cs[i + 2]?.any Char.isDigit)
        else .ok false

theorem startsExponent_drop (cs : List Char) (i : Nat) :
    startsExponent (cs.drop i) =
      cs[i]?.any fun c => c.isDigit || (Decimal.isSign c && cs[i + 1]?.any Char.isDigit) := by
  cases h : cs.drop i with
  | nil =>
    rw [List.getElem?_eq_none (List.drop_eq_nil_iff.1 h)]
    rfl
  | cons c rest =>
    have hnext : cs[i + 1]? = rest.head? := by
      rw [← List.head?_drop, drop_succ_of_drop h]
    rw [getElem?_of_drop h, hnext]
    cases rest with
    | nil => simp [startsExponent]
    | cons d rest => rfl

theorem isMark_eq (cs : List Char) (i : Nat) : isMark cs i = .ok (marksExponentAt cs i) := by
  cases i with
  | zero => simp [isMark, marksExponentAt_zero]
  | succ k =>
    show _ = Except.ok (marksExponent cs[k]? (cs.drop (k + 1)))
    cases hc : cs.drop (k + 1) with
    | nil =>
      rw [isMark, List.getElem?_eq_none (List.drop_eq_nil_iff.1 hc)]
      rfl
    | cons c after =>
      have hmark := getElem?_of_drop hc
      have hafter := startsExponent_drop cs (k + 2)
      have hk : k < cs.length := by
        have := (List.getElem?_eq_some_iff.1 hmark).1
        omega
      rw [drop_succ_of_drop hc] at hafter
      rw [isMark, hmark, marksExponent, hafter, List.getElem?_eq_getElem hk]
      cases hletter : Decimal.isExponentLetter c with
      | false => simp [hletter]
      | true =>
        cases hprevious : isLiteralCharacter cs[k] with
        | false => simp [hletter, hprevious, decrement, read_of_lt hk]
        | true =>
          simp only [hletter, hprevious, decrement, read_of_lt hk, Option.any_some, Stop.ok_bind]
          cases hnext : cs[k + 2]? with
          | none => rfl
          | some d =>
            cases hd : d.isDigit with
            | true => simp [hd]
            | false => cases hs : Decimal.isSign d <;> simp [hd, hs]

def exponentEnd (cs : List Char) (i : Nat) : Except Stop Nat := do
  let c ← read cs i
  skipWhile Char.isDigit cs (if Decimal.isSign c then i + 1 else i)

theorem exponentEnd_eq {cs : List Char} {i : Nat} (h : startsExponent (cs.drop i) = true) :
    exponentEnd cs i = .ok (i + (splitExponent (cs.drop i)).1.length) := by
  cases hdrop : cs.drop i with
  | nil =>
    rw [hdrop] at h
    cases h
  | cons c rest =>
    rw [exponentEnd, read_eq_ok_iff.2 (getElem?_of_drop hdrop), splitExponent]
    show skipWhile _ _ _ = _
    split
    · rw [skipWhile_eq, drop_succ_of_drop hdrop, List.length_cons]
      congr 1
      omega
    · rw [skipWhile_eq, hdrop]

example : exponentEnd "1e".toList 2 = .error (.panic .position) := by cbv

/-- The position behind the literal that starts at `start`. -/
def literalEnd (cs : List Char) (start : Nat) : Except Stop Nat := do
  let i ← skipWhile isLiteralCharacter cs start
  if ← isMark cs i then exponentEnd cs (i + 1) else .ok i

section

variable {cs : List Char} {i : Nat}

theorem marksExponentAt_takeWhile (h : i < cs.length) (hc : isLiteralCharacter cs[i] = true) :
    marksExponentAt cs (i + ((cs.drop i).takeWhile isLiteralCharacter).length) =
      match (cs.drop i).dropWhile isLiteralCharacter with
      | [] => false
      | c :: after => Decimal.isExponentLetter c && startsExponent after := by
  obtain ⟨previous, hprevious, hbefore⟩ := before_takeWhile h hc
  show marksExponent (before cs _) (cs.drop _) = _
  rw [hbefore, drop_takeWhile]
  cases (cs.drop i).dropWhile isLiteralCharacter with
  | nil => rfl
  | cons c after => simp [marksExponent, hprevious]

theorem literalEnd_eq (h : i < cs.length) (hc : isLiteralCharacter cs[i] = true) :
    literalEnd cs i = .ok (i + (splitLiteral (cs.drop i)).1.length) := by
  have hbehind := drop_takeWhile isLiteralCharacter cs i
  rw [literalEnd, skipWhile_eq, Stop.ok_bind, isMark_eq, marksExponentAt_takeWhile h hc,
    splitLiteral]
  cases hrest : (cs.drop i).dropWhile isLiteralCharacter with
  | nil => rfl
  | cons c after =>
    rw [hrest] at hbehind
    have hafter := drop_succ_of_drop hbehind
    show (if (Decimal.isExponentLetter c && startsExponent after) = true then _ else _) = _
    dsimp only
    split
    · rename_i hmark
      have hstarts := (Bool.and_eq_true_iff.1 hmark).2
      rw [exponentEnd_eq (by rwa [hafter]), hafter, List.length_append, List.length_cons]
      congr 1
      omega
    · rfl

theorem length_splitLiteral_pos (h : i < cs.length) (hc : isLiteralCharacter cs[i] = true) :
    0 < (splitLiteral (cs.drop i)).1.length := by
  have hsplit := congrArg List.length (splitLiteral_append (cs.drop i))
  have hrest := splitLiteral_length hc (cs.drop (i + 1))
  rw [← drop_of_lt h] at hrest
  rw [List.length_append, List.length_drop] at hsplit
  rw [List.length_drop] at hrest
  omega

end

def tokenAt (cs : List Char) (i : Nat) : Except Stop (Token × Nat) := do
  let c ← read cs i
  if isLiteralCharacter c then
    let j ← literalEnd cs i
    let literal ← slice cs i j
    let x ← ofResult (Token.readLiteral literal)
    pure (.number x, j)
  else
    match Symbol.ofChar? c with
    | none => .error (.fault (.unexpectedCharacter c))
    | some s => pure (.symbol s, i + 1)

section

variable {cs : List Char} {i : Nat}

theorem tokenAt_literal (h : i < cs.length) (hc : isLiteralCharacter cs[i] = true) :
    tokenAt cs i = ofResult ((Token.readLiteral (splitLiteral (cs.drop i)).1).map fun x =>
      (.number x, i + (splitLiteral (cs.drop i)).1.length)) := by
  have hsplit := (splitLiteral_append (cs.drop i)).symm
  rw [tokenAt, read_of_lt h, Stop.ok_bind, if_pos hc, literalEnd_eq h hc, Stop.ok_bind,
    slice_of_drop_append (Nat.le_of_lt h) hsplit, Stop.ok_bind]
  cases Token.readLiteral (splitLiteral (cs.drop i)).1 <;> rfl

theorem tokenAt_symbol (h : i < cs.length) (hc : ¬ isLiteralCharacter cs[i] = true) :
    tokenAt cs i =
      match Symbol.ofChar? cs[i] with
      | none => .error (.fault (.unexpectedCharacter cs[i]))
      | some s => .ok (.symbol s, i + 1) := by
  rw [tokenAt, read_of_lt h, Stop.ok_bind, if_neg hc]
  rfl

theorem ofResult_scan_drop (h : i < cs.length) (previous : Option Token) :
    ofResult (Token.scan previous (cs.drop i)) = tokenAt cs i >>= fun (t, j) =>
      ofResult ((Token.scan (some t) (cs.drop j)).map
        (Token.impliedProduct previous t ++ t :: ·)) := by
  rw [drop_of_lt h, Token.scan]
  by_cases hc : isLiteralCharacter cs[i] = true
  · have hbehind := drop_of_drop_append (splitLiteral_append (cs.drop i)).symm
    rw [dif_pos hc, tokenAt_literal h hc, ← drop_of_lt h]
    cases Token.readLiteral (splitLiteral (cs.drop i)).1 with
    | error f => rfl
    | ok x =>
      show _ = ofResult ((Token.scan _ (cs.drop _)).map _)
      rw [hbehind]
      rfl
  · rw [dif_neg hc, tokenAt_symbol h hc]
    cases Symbol.ofChar? cs[i] <;> rfl

theorem lt_of_tokenAt {t : Token} {j : Nat} (h : i < cs.length) (ht : tokenAt cs i = .ok (t, j)) :
    i < j := by
  by_cases hc : isLiteralCharacter cs[i] = true
  · have hpos := length_splitLiteral_pos h hc
    rw [tokenAt_literal h hc] at ht
    cases hx : Token.readLiteral (splitLiteral (cs.drop i)).1 with
    | error f =>
      rw [hx] at ht
      cases ht
    | ok x =>
      rw [hx] at ht
      cases ht
      omega
  · rw [tokenAt_symbol h hc] at ht
    split at ht
    · cases ht
    · cases ht
      omega

end

/-- The tokens from a position on, behind the tokens `out`. -/
def scanFrom (cs : List Char) (i : Nat) (out : List Token) : Except Stop (List Token) :=
  if _ : i < cs.length then
    match _ : tokenAt cs i with
    | .error s => .error s
    | .ok (t, j) => scanFrom cs j (out ++ Token.impliedProduct out.getLast? t ++ [t])
  else .ok out
termination_by cs.length - i
decreasing_by
  have := lt_of_tokenAt (by assumption) (by assumption)
  omega

theorem scanFrom_eq (cs : List Char) (i : Nat) (out : List Token) :
    scanFrom cs i out = (ofResult (Token.scan out.getLast? (cs.drop i))).map (out ++ ·) := by
  fun_induction scanFrom cs i out with
  | case1 i out h s hs =>
    rw [ofResult_scan_drop h, hs]
    rfl
  | case2 i out h t j ht ih =>
    rw [ih, List.getLast?_concat, ofResult_scan_drop h, ht, Stop.ok_bind]
    show _ = (ofResult ((Token.scan (some t) (cs.drop j)).map _)).map _
    cases Token.scan (some t) (cs.drop j) with
    | error f => rfl
    | ok ts => simp [Except.map]
  | case3 i out h =>
    rw [List.drop_eq_nil_of_le (by omega), Token.scan]
    exact congrArg Except.ok (List.append_nil out).symm

def tokens (cs : List Char) : Except Stop (List Token) := scanFrom (withoutBlanks cs) 0 []

theorem tokens_eq (cs : List Char) : tokens cs = ofResult (tokenize cs) := by
  rw [tokens, scanFrom_eq, tokenize]
  show (ofResult (Token.scan none (withoutBlanks cs))).map _ = _
  cases Token.scan none (withoutBlanks cs) <;> rfl

end Cursor

end Calculator
