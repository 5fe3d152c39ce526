import Calculator.Decimal.Text
import Calculator.Text.Escape

set_option autoImplicit false

namespace Calculator

namespace Numeral

/-- A type of whole numbers: how many bits it has, and whether it has a sign. -/
structure Width where
  signed : Bool
  bits : Nat
  deriving DecidableEq, Repr

namespace Width

def ofText? : List Char → Option Width
  | [] => none
  | c :: digits => do
    let bits ← [8, 16, 32, 64, 128].find? fun bits => Nat.toDigits 10 bits == digits
    if c = 'i' then some ⟨true, bits⟩ else if c = 'u' then some ⟨false, bits⟩ else none

def holds (w : Width) (negative : Bool) (magnitude : Nat) : Bool :=
  match w.signed, negative with
  | false, false => magnitude < 2 ^ w.bits
  | false, true => magnitude == 0
  | true, false => magnitude < 2 ^ (w.bits - 1)
  | true, true => magnitude ≤ 2 ^ (w.bits - 1)

end Width

def isDigitPart (c : Char) : Bool := (Escape.hexDigit? c).isSome || c == '_'

def valueIn? (base : Nat) : List Char → Option Nat
  | [] => none
  | c :: cs =>
    if c = '_' then none
    else
      ((c :: cs).filter (· != '_')).foldlM (fun value c => do
        let d ← Escape.hexDigit? c
        if d < base then some (base * value + d) else none) 0

/-- A whole number without its sign. A type may follow decimal and binary digits;
a number without a type is of the widest one. -/
def isWhole (negative : Bool) (cs : List Char) : Bool :=
  let widest : Width := ⟨negative, 128⟩
  let fits := fun (width : Option Width) (value : Option Nat) =>
    match width, value with
    | some w, some n => w.holds negative n
    | _, _ => false
  match cs with
  | '0' :: 'x' :: digits => fits widest (valueIn? 16 digits)
  | '0' :: 'o' :: digits => fits widest (valueIn? 8 digits)
  | _ =>
    let width := match cs.dropWhile isDigitPart with
      | [] => some widest
      | type => Width.ofText? type
    match cs.takeWhile isDigitPart with
    | '0' :: 'b' :: digits => fits width (valueIn? 2 digits)
    | digits => fits width (valueIn? 10 digits)

def spacedByUnderscores : Bool → List Char → Bool
  | _, [] => true
  | allowed, c :: cs =>
    if c = '_' then allowed && spacedByUnderscores allowed cs
    else spacedByUnderscores (c != '.' && (allowed || !Decimal.isSign c)) cs

def realTypes : List (List Char) := ["".toList, "f32".toList, "f64".toList]

def isReal (cs : List Char) : Bool :=
  let literal := cs.takeWhile (· != 'f')
  let digits := literal.filter (· != '_')
  realTypes.any fun type =>
    cs == "inf".toList ++ type || cs == "NaN".toList ++ type ||
      (cs == literal ++ type && spacedByUnderscores false literal &&
        (Decimal.ofLiteral? digits).isSome)

def isWellFormed : List Char → Bool
  | '-' :: cs => isWhole true cs || isReal cs
  | '+' :: cs => isWhole false cs || isReal cs
  | cs => isWhole false cs || isReal cs

/-- The characters of numerals, of which none may follow a numeral. -/
def isPart (c : Char) : Bool := c.isAlphanum || c == '.' || Decimal.isSign c || c == '_'

def skip? (cs : List Char) : Option (List Char) :=
  if isWellFormed (cs.takeWhile isPart) then some (cs.dropWhile isPart) else none

end Numeral

end Calculator
