import Calculator.Text.Identifier
import Calculator.Text.Quoted

/-! Readers for structured text: lists in brackets and records in parentheses,
with commas between the parts, one more comma allowed at the end, and blanks and
comments anywhere between words. A text may begin with attributes that enable
extensions of the format. A reader takes a value off the front of the text. Loops
are bounded by the length of the text, since every round takes a character at
least. -/

set_option autoImplicit false

namespace Calculator

namespace Structured

/-- The blanks that the Unicode property Pattern_White_Space names. -/
def isSpacing (c : Char) : Bool :=
  ('\t' ≤ c && c ≤ '\r') || c == ' ' || c == '\x85' || c == '\u200e' || c == '\u200f' ||
    c == '\u2028' || c == '\u2029'

/-- Where the skipping of blanks stands: outside, in a comment to the end of the
line, or in so many nested block comments. -/
inductive Spacing
  | outside
  | line
  | block (depth : Nat)
  deriving DecidableEq, Repr

def skipSpacing? : Spacing → List Char → Option (List Char)
  | .block _, [] => none
  | _, [] => some []
  | .outside, '/' :: '/' :: rest => skipSpacing? .line rest
  | .outside, '/' :: '*' :: rest => skipSpacing? (.block 0) rest
  | .outside, c :: rest => if isSpacing c then skipSpacing? .outside rest else some (c :: rest)
  | .line, c :: rest => skipSpacing? (if c = '\n' then .outside else .line) rest
  | .block depth, '/' :: '*' :: rest => skipSpacing? (.block (depth + 1)) rest
  | .block 0, '*' :: '/' :: rest => skipSpacing? .outside rest
  | .block (depth + 1), '*' :: '/' :: rest => skipSpacing? (.block depth) rest
  | .block depth, _ :: rest => skipSpacing? (.block depth) rest

def skip? (cs : List Char) : Option (List Char) := skipSpacing? .outside cs

def expect? (c : Char) (cs : List Char) : Option (List Char) :=
  match skip? cs with
  | some (d :: rest) => if d = c then some rest else none
  | _ => none

/-- The text after a word that no character of an identifier follows. -/
def keyword? (word cs : List Char) : Option (List Char) :=
  match skip? cs with
  | some cs =>
    if word.isPrefixOf cs && !(cs.drop word.length).head?.any isIdentifierCharacter then
      some (cs.drop word.length)
    else none
  | none => none

def isMarkedCharacter (c : Char) : Bool :=
  isIdentifierCharacter c || c == '.' || c == '+' || c == '-'

def identifier? (cs : List Char) : Option (List Char × List Char) :=
  match skip? cs with
  | some ('r' :: '#' :: rest) =>
    match rest.takeWhile isMarkedCharacter with
    | [] => none
    | name => some (name, rest.dropWhile isMarkedCharacter)
  | some (c :: rest) =>
    if isIdentifierStart c then
      some (c :: rest.takeWhile isIdentifierCharacter, rest.dropWhile isIdentifierCharacter)
    else none
  | _ => none

def quoted? (cs : List Char) : Option (List Char × List Char) :=
  (skip? cs).bind Quoted.text?

def boolean? (cs : List Char) : Option (Bool × List Char) :=
  match keyword? "true".toList cs with
  | some rest => some (true, rest)
  | none => (keyword? "false".toList cs).map fun rest => (false, rest)

def items? {α : Type} (item : List Char → Option (α × List Char)) (closing : Char) :
    Nat → List Char → Option (List α × List Char)
  | 0, _ => none
  | bound + 1, cs =>
    match expect? closing cs with
    | some rest => some ([], rest)
    | none => do
      let (a, rest) ← item cs
      match expect? ',' rest with
      | some rest =>
        let (more, tail) ← items? item closing bound rest
        pure (a :: more, tail)
      | none =>
        let tail ← expect? closing rest
        pure ([a], tail)

def list? {α : Type} (item : List Char → Option (α × List Char)) (cs : List Char) :
    Option (List α × List Char) := do
  let rest ← expect? '[' cs
  items? item ']' (rest.length + 1) rest

/-- A field: a name, a colon and a value that is read into the draft of the record. -/
def field? {σ : Type} (value : List Char → σ → List Char → Option (σ × List Char))
    (draft : σ) (cs : List Char) : Option (σ × List Char) := do
  let (name, rest) ← identifier? cs
  let rest ← expect? ':' rest
  value name draft rest

def fields? {σ : Type} (value : List Char → σ → List Char → Option (σ × List Char)) :
    Nat → σ → List Char → Option (σ × List Char)
  | 0, _, _ => none
  | bound + 1, draft, cs =>
    match expect? ')' cs with
    | some rest => some (draft, rest)
    | none => do
      let (draft, rest) ← field? value draft cs
      match expect? ',' rest with
      | some rest => fields? value bound draft rest
      | none =>
        let tail ← expect? ')' rest
        pure (draft, tail)

/-- The extensions of the format that change what a text may hold. -/
structure Extensions where
  /-- Records have their names before the parenthesis. -/
  namedRecords : Bool
  /-- A present value may do without parentheses. -/
  bareSome : Bool
  /-- A present record or tuple may do without parentheses of its own. -/
  openSome : Bool
  deriving DecidableEq, Repr

namespace Extensions

def plain : Extensions := ⟨false, false, false⟩

def enable? (e : Extensions) (name : List Char) : Option Extensions :=
  if name = "explicit_struct_names".toList then some { e with namedRecords := true }
  else if name = "implicit_some".toList then some { e with bareSome := true }
  else if name = "unwrap_variant_newtypes".toList then some { e with openSome := true }
  else if name = "unwrap_newtypes".toList then some e
  else none

end Extensions

def attribute? (e : Extensions) (cs : List Char) : Option (Extensions × List Char) := do
  let rest ← expect? '#' cs
  let rest ← expect? '!' rest
  let rest ← expect? '[' rest
  let rest ← keyword? "enable".toList rest
  let rest ← expect? '(' rest
  let (names, rest) ← items? identifier? ')' (rest.length + 1) rest
  let rest ← expect? ']' rest
  let e ← names.foldlM Extensions.enable? e
  if names = [] then none else some (e, rest)

def attributes? : Nat → Extensions → List Char → Option (Extensions × List Char)
  | 0, _, _ => none
  | bound + 1, e, cs =>
    match expect? '#' cs with
    | none => some (e, cs)
    | some _ => do
      let (e, rest) ← attribute? e cs
      attributes? bound e rest

def header? (cs : List Char) : Option (Extensions × List Char) :=
  attributes? (cs.length + 1) .plain cs

/-- The text after the name of a record, which may be missing unless records are
named. -/
def recordName? (e : Extensions) (name cs : List Char) : Option (List Char) :=
  match identifier? cs with
  | some (found, rest) => if found = name then some rest else none
  | none => if e.namedRecords then none else some cs

def record? {σ : Type} (e : Extensions) (name : List Char)
    (value : List Char → σ → List Char → Option (σ × List Char))
    (empty : σ) (cs : List Char) : Option (σ × List Char) := do
  let rest ← recordName? e name cs
  let rest ← expect? '(' rest
  fields? value (rest.length + 1) empty rest

end Structured

end Calculator
