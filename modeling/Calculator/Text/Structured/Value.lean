import Calculator.Text.Numeral
import Calculator.Text.Structured

set_option autoImplicit false

namespace Calculator

namespace Structured

/-- The levels of nesting that a text may have. -/
def levels : Nat := 128

/-- Words that are whole values, so that no parenthesis may follow them. -/
def words : List (List Char) :=
  ["true".toList, "false".toList, "None".toList,
    "inf".toList, "inff32".toList, "inff64".toList,
    "NaN".toList, "NaNf32".toList, "NaNf64".toList]

/-- The text after a quoted text, a character, a string of bytes or one byte. The
bytes of a text encode its characters, a character has no byte above seven bits, and
one byte has no number in braces. -/
def skipQuoted? : List Char → Option (List Char)
  | '\'' :: rest => (Quoted.character? Escape.seven? rest).map (·.2)
  | 'b' :: '\'' :: '\\' :: 'u' :: _ => none
  | 'b' :: '\'' :: c :: rest =>
    if c.toNat < 0x80 then (Quoted.character? Escape.octet? (c :: rest)).map (·.2) else none
  | 'b' :: '"' :: rest => (Quoted.body Escape.octet? rest.length rest).map (·.2)
  | 'b' :: 'r' :: rest => (Quoted.raw? rest).map (·.2)
  | cs => (Quoted.text? cs).map (·.2)

/-- What may stand one level deeper: a value, and an item of a group. -/
structure Nested where
  value : List Char → Option (List Char)
  item : List Char → Option (List Char)

def skipItems? (item : List Char → Option (List Char)) (closing : Char) (cs : List Char) :
    Option (List Char) :=
  (items? (fun cs => (item cs).map fun rest => ((), rest)) closing (cs.length + 1) cs).map (·.2)

/-- The text after the content of parentheses: fields if the first is a name and a
colon, and items if not. -/
def skipContent? (item : List Char → Option (List Char)) (cs : List Char) :
    Option (List Char) :=
  match field? (fun _ _ rest => some ((), rest)) () cs with
  | some _ =>
    (fields? (fun _ _ rest => (item rest).map fun rest => ((), rest)) (cs.length + 1) () cs).map
      (·.2)
  | none => skipItems? item ')' cs

def skipPair? (item : List Char → Option (List Char)) (cs : List Char) : Option (List Char) := do
  let rest ← item cs
  let rest ← expect? ':' rest
  item rest

/-- The text after the one value in parentheses of a present value, or after the
content of an open one, which is that of any parentheses. -/
def skipSome? (e : Extensions) (value : List Char → Option (List Char)) (cs : List Char) :
    Option (List Char) :=
  match expect? '(' cs with
  | none => if e.bareSome then value cs else none
  | some rest =>
    if e.openSome then skipContent? value rest
    else do
      let rest ← value rest
      expect? ')' ((expect? ',' rest).getD rest)

def skipShape? (e : Extensions) (deeper : Option Nested) (cs : List Char) :
    Option (List Char) := do
  let cs ← skip? cs
  if let some rest := words.firstM (keyword? · cs) then some rest
  else if let some rest := keyword? "Some".toList cs then skipSome? e (← deeper).value rest
  else if let some rest := skipQuoted? cs then some rest
  else match cs with
    | '(' :: ')' :: rest => some rest
    | '(' :: rest => skipContent? (← deeper).item rest
    | '[' :: rest => skipItems? (← deeper).item ']' rest
    | '\x7b' :: rest => skipItems? (skipPair? (← deeper).item) '\x7d' rest
    | _ =>
      match identifier? cs with
      | none => Numeral.skip? cs
      | some (_, rest) =>
        match expect? '(' rest with
        | none => some rest
        | some rest => skipContent? (← deeper).item rest

mutual

def skipValue? (e : Extensions) : Nat → List Char → Option (List Char)
  | 0 => skipShape? e none
  | room + 1 => skipShape? e (some ⟨skipValue? e room, skipItem? e room⟩)

def skipItem? (e : Extensions) : Nat → List Char → Option (List Char)
  | 0 => fun _ => none
  | room + 1 => skipValue? e room

end

def value? (e : Extensions) (room : Nat) (cs : List Char) : Option (Unit × List Char) :=
  (skipValue? e room cs).map fun rest => ((), rest)

end Structured

end Calculator
