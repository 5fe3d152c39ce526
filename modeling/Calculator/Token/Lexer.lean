import Calculator.Token
import Calculator.Text.Blank
import Calculator.Expression.ExponentMark

/-! From text to tokens. White space is dropped first, so it may stand inside a
literal. A multiplication that the text leaves out before or after a parenthesis
becomes a token of its own. -/

set_option autoImplicit false

namespace Calculator

def splitExponent : List Char → List Char × List Char
  | [] => ([], [])
  | c :: rest =>
    if Decimal.isSign c then (c :: rest.takeWhile Char.isDigit, rest.dropWhile Char.isDigit)
    else ((c :: rest).takeWhile Char.isDigit, (c :: rest).dropWhile Char.isDigit)

def splitLiteral (cs : List Char) : List Char × List Char :=
  let mantissa := cs.takeWhile isLiteralCharacter
  match cs.dropWhile isLiteralCharacter with
  | [] => (mantissa, [])
  | c :: after =>
    if Decimal.isExponentLetter c && startsExponent after then
      let (exponent, rest) := splitExponent after
      (mantissa ++ c :: exponent, rest)
    else (mantissa, c :: after)

theorem splitExponent_append (cs : List Char) :
    (splitExponent cs).1 ++ (splitExponent cs).2 = cs := by
  cases cs with
  | nil => rfl
  | cons c rest =>
    simp only [splitExponent]
    split
    · simp [List.takeWhile_append_dropWhile]
    · exact List.takeWhile_append_dropWhile

theorem splitLiteral_append (cs : List Char) :
    (splitLiteral cs).1 ++ (splitLiteral cs).2 = cs := by
  have h := List.takeWhile_append_dropWhile (p := isLiteralCharacter) (l := cs)
  simp only [splitLiteral]
  split
  · rename_i hd
    rw [hd] at h
    exact h
  · rename_i c after hd
    rw [hd] at h
    split
    · rw [List.append_assoc, List.cons_append, splitExponent_append]
      exact h
    · exact h

theorem splitLiteral_length {c : Char} (hc : isLiteralCharacter c = true) (cs : List Char) :
    (splitLiteral (c :: cs)).2.length ≤ cs.length := by
  have h := congrArg List.length (splitLiteral_append (c :: cs))
  have hne : 0 < (splitLiteral (c :: cs)).1.length := by
    simp only [splitLiteral, List.takeWhile_cons, hc, if_true]
    split
    · simp
    · split <;> simp
  simp only [List.length_append, List.length_cons] at h
  omega

namespace Token

def readLiteral (literal : List Char) : Except Fault Number :=
  match Decimal.ofLiteral? literal with
  | none => .error (.malformedLiteral literal)
  | some d => if d.toNumber.isFinite then .ok d.toNumber else .error (.literalTooLarge literal)

/-- The multiplication left out between two neighbours: `2(` and `)(` have one,
and `)2` too. -/
def impliedProduct (previous : Option Token) (next : Token) : List Token :=
  match previous, next with
  | some (.number _), .symbol .opening => [.symbol (.binary .times)]
  | some (.symbol .closing), .symbol .opening => [.symbol (.binary .times)]
  | some (.symbol .closing), .number _ => [.symbol (.binary .times)]
  | _, _ => []

/-- The tokens of a text without white space that follows the token `previous`. -/
def scan (previous : Option Token) (cs : List Char) : Except Fault (List Token) :=
  match cs with
  | [] => .ok []
  | c :: rest =>
    if _ : isLiteralCharacter c = true then do
      let x ← readLiteral (splitLiteral (c :: rest)).1
      let tokens ← scan (some (.number x)) (splitLiteral (c :: rest)).2
      pure (impliedProduct previous (.number x) ++ .number x :: tokens)
    else
      match Symbol.ofChar? c with
      | none => .error (.unexpectedCharacter c)
      | some s => do
        let tokens ← scan (some (.symbol s)) rest
        pure (impliedProduct previous (.symbol s) ++ .symbol s :: tokens)
termination_by cs.length
decreasing_by
  · rename_i h
    have := splitLiteral_length h rest
    simp only [List.length_cons]
    omega
  · simp

end Token

def tokenize (cs : List Char) : Except Fault (List Token) := Token.scan none (withoutBlanks cs)

end Calculator
