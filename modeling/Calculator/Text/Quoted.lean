import Calculator.Text.Escape

set_option autoImplicit false

namespace Calculator

namespace Quoted

def encode (cs : List Char) : List Char := '"' :: cs.flatMap Escape.encode ++ ['"']

def body (bytes : List Char → Option (Char × List Char)) :
    Nat → List Char → Option (List Char × List Char)
  | 0, _ => none
  | _ + 1, [] => none
  | bound + 1, c :: rest =>
    if c = '"' then some ([], rest)
    else if c = '\\' then do
      let (d, rest) ← Escape.decode? bytes rest
      (body bytes bound rest).map fun (cs, tail) => (d :: cs, tail)
    else (body bytes bound rest).map fun (cs, tail) => (c :: cs, tail)

def decode : List Char → Option (List Char × List Char)
  | '"' :: rest => body Escape.utf8? rest.length rest
  | _ => none

/-- The text up to the first place where `closing` stands, and what follows it. -/
def upTo? (closing : List Char) : List Char → Option (List Char × List Char)
  | [] => none
  | c :: rest =>
    if closing.isPrefixOf (c :: rest) then some ([], (c :: rest).drop closing.length)
    else (upTo? closing rest).map fun (cs, tail) => (c :: cs, tail)

/-- A raw text after its first letter: number signs, and the text in quotes with the
same number signs after it. -/
def raw? (cs : List Char) : Option (List Char × List Char) :=
  match cs.dropWhile (· == '#') with
  | '"' :: rest => upTo? ('"' :: cs.takeWhile (· == '#')) rest
  | _ => none

def text? : List Char → Option (List Char × List Char)
  | 'r' :: rest => raw? rest
  | cs => decode cs

def character? (bytes : List Char → Option (Char × List Char)) :
    List Char → Option (Char × List Char)
  | [] => none
  | c :: rest => do
    let (d, rest) ← if c = '\\' then Escape.decode? bytes rest else some (c, rest)
    match rest with
    | '\'' :: tail => some (d, tail)
    | _ => none

theorem body_escape (bytes : List Char → Option (Char × List Char)) (bound : Nat) (c : Char)
    (rest : List Char) :
    body bytes (bound + 1) (Escape.encode c ++ rest) =
      (body bytes bound rest).map fun (cs, tail) => (c :: cs, tail) := by
  unfold Escape.encode
  split
  · subst c; rfl
  split
  · subst c; rfl
  split
  · subst c; rfl
  split
  · subst c; rfl
  split
  · subst c; rfl
  split
  · subst c; rfl
  split
  · subst c; rfl
  split
  · rename_i hquote _ hslash _ _ _ _ _
    simp only [List.singleton_append, body, hquote, hslash, if_false]
  · have h := Escape.number?_char c rest
    simp only [List.cons_append, List.nil_append, List.append_assoc]
    simp [body, Escape.decode?, h]

theorem body_flatMap_escape (bytes : List Char → Option (Char × List Char)) {bound : Nat}
    {cs : List Char} (hb : cs.length < bound) (tail : List Char) :
    body bytes bound (cs.flatMap Escape.encode ++ '"' :: tail) = some (cs, tail) := by
  induction cs generalizing bound with
  | nil =>
    obtain ⟨n, rfl⟩ := Nat.exists_eq_succ_of_ne_zero (Nat.ne_of_gt hb)
    rfl
  | cons c cs ih =>
    obtain ⟨n, rfl⟩ := Nat.exists_eq_succ_of_ne_zero (Nat.ne_of_gt (Nat.zero_lt_of_lt hb))
    rw [List.flatMap_cons, List.append_assoc, body_escape,
      ih (Nat.lt_of_succ_lt_succ hb)]
    rfl

theorem length_le_flatMap_escape (cs : List Char) :
    cs.length ≤ (cs.flatMap Escape.encode).length := by
  induction cs with
  | nil => exact Nat.le_refl 0
  | cons c cs ih =>
    have h := List.length_pos_iff.2 (Escape.encode_ne_nil c)
    simp only [List.flatMap_cons, List.length_append, List.length_cons]
    omega

theorem decode_encode (cs tail : List Char) : decode (encode cs ++ tail) = some (cs, tail) := by
  have h := length_le_flatMap_escape cs
  simp only [encode, decode, List.cons_append, List.append_assoc, List.nil_append]
  exact body_flatMap_escape _ (by simp only [List.length_append, List.length_cons]; omega) tail

theorem text?_encode (cs tail : List Char) : text? (encode cs ++ tail) = some (cs, tail) :=
  decode_encode cs tail

end Quoted

end Calculator
