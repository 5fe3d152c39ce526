import Calculator.Text.Visible

set_option autoImplicit false

namespace Calculator

namespace Escape

def encode (c : Char) : List Char :=
  if c = '"' then ['\\', '"']
  else if c = '\'' then ['\\', '\'']
  else if c = '\\' then ['\\', '\\']
  else if c = '\n' then ['\\', 'n']
  else if c = '\t' then ['\\', 't']
  else if c = '\r' then ['\\', 'r']
  else if c = '\x00' then ['\\', '0']
  else if isVisible c then [c]
  else ['\\', 'u', '\x7b'] ++ Nat.toDigits 16 c.toNat ++ ['\x7d']

theorem encode_ne_nil (c : Char) : encode c ≠ [] := by
  unfold encode
  repeat' split
  all_goals simp

def letter? (c : Char) : Option Char :=
  if c = '"' ∨ c = '\'' ∨ c = '\\' then some c
  else if c = 'n' then some '\n'
  else if c = 't' then some '\t'
  else if c = 'r' then some '\r'
  else if c = '0' then some '\x00'
  else none

def hexDigit? (c : Char) : Option Nat :=
  if c.isDigit then some (c.toNat - '0'.toNat)
  else if 'a' ≤ c ∧ c ≤ 'f' then some (c.toNat - 'a'.toNat + 10)
  else if 'A' ≤ c ∧ c ≤ 'F' then some (c.toNat - 'A'.toNat + 10)
  else none

/-- The rest of a number in braces, of six digits at most, after `count` digits of
the value `value`. -/
def number? (count value : Nat) : List Char → Option (Char × List Char)
  | [] => none
  | c :: rest =>
    if c = '\x7d' then
      if 0 < count ∧ value.isValidChar then some (Char.ofNat value, rest) else none
    else
      match hexDigit? c with
      | some d => if count < 6 then number? (count + 1) (16 * value + d) rest else none
      | none => none

def byte? : List Char → Option (Nat × List Char)
  | c :: d :: rest => do
    let high ← hexDigit? c
    let low ← hexDigit? d
    pure (16 * high + low, rest)
  | _ => none

/-- A byte that stands for the character of its number. -/
def octet? (cs : List Char) : Option (Char × List Char) :=
  (byte? cs).map fun (b, rest) => (Char.ofNat b, rest)

def seven? (cs : List Char) : Option (Char × List Char) :=
  (octet? cs).filter fun (c, _) => c.toNat < 0x80

def continuation? : Nat → Nat → List Char → Option (Nat × List Char)
  | 0, value, cs => some (value, cs)
  | count + 1, value, '\\' :: 'x' :: cs => do
    let (b, rest) ← byte? cs
    if b / 0x40 = 2 then continuation? count (0x40 * value + b % 0x40) rest else none
  | _, _, _ => none

def leading? (b : Nat) : Option (Nat × Nat) :=
  if b < 0x80 then some (0, b)
  else if b / 0x20 = 6 then some (1, b % 0x20)
  else if b / 0x10 = 14 then some (2, b % 0x10)
  else if b / 0x08 = 30 then some (3, b % 0x08)
  else none

/-- A character given by its bytes, which are as few as they can be. -/
def utf8? (cs : List Char) : Option (Char × List Char) := do
  let (b, rest) ← byte? cs
  let (count, lead) ← leading? b
  let (value, rest) ← continuation? count lead rest
  if value.isValidChar ∧ (Char.ofNat value).utf8Size = count + 1 then
    some (Char.ofNat value, rest)
  else none

def decode? (bytes : List Char → Option (Char × List Char)) :
    List Char → Option (Char × List Char)
  | [] => none
  | 'u' :: '\x7b' :: rest => number? 0 0 rest
  | 'x' :: rest => bytes rest
  | c :: rest => (letter? c).map fun d => (d, rest)

theorem number?_digit {d : Nat} (hd : d < 16) {count value : Nat} (hc : count < 6)
    (rest : List Char) :
    number? count value (Nat.digitChar d :: rest) =
      number? (count + 1) (16 * value + d) rest := by
  have h : ∀ e : Fin 16, Nat.digitChar e.val ≠ '\x7d' ∧
      hexDigit? (Nat.digitChar e.val) = some e.val := by
    decide
  obtain ⟨h1, h2⟩ := h ⟨d, hd⟩
  simp only at h1 h2
  simp only [number?, h1, h2, hc, if_false, if_true]

theorem number?_toDigits (n : Nat) {count value : Nat}
    (hc : count + (Nat.toDigits 16 n).length ≤ 6) (rest : List Char) :
    number? count value (Nat.toDigits 16 n ++ rest) =
      number? (count + (Nat.toDigits 16 n).length)
        (16 ^ (Nat.toDigits 16 n).length * value + n) rest := by
  induction n using Nat.strongRecOn generalizing rest with
  | ind n ih =>
    rcases Nat.lt_or_ge n 16 with hlt | hge
    · rw [Nat.toDigits_of_lt_base hlt] at hc ⊢
      exact number?_digit hlt (by simp at hc; omega) rest
    · rw [Nat.toDigits_of_base_le (by decide) hge] at hc ⊢
      simp only [List.length_append, List.length_singleton] at hc ⊢
      rw [List.append_assoc, ih (n / 16) (by omega) (by omega), List.singleton_append,
        number?_digit (Nat.mod_lt n (by decide)) (by omega)]
      have hv : 16 * (16 ^ (Nat.toDigits 16 (n / 16)).length * value + n / 16) + n % 16 =
          16 ^ ((Nat.toDigits 16 (n / 16)).length + 1) * value + n := by
        rw [Nat.pow_succ, Nat.mul_add, Nat.add_assoc, Nat.div_add_mod, ← Nat.mul_assoc,
          Nat.mul_comm 16]
      rw [hv, Nat.add_assoc]

theorem number?_char (c : Char) (rest : List Char) :
    number? 0 0 (Nat.toDigits 16 c.toNat ++ '\x7d' :: rest) = some (c, rest) := by
  have hvalid : c.toNat.isValidChar := c.valid
  have hlt : c.toNat < 16 ^ (6 : Nat) := by
    rcases hvalid with h | ⟨_, h⟩ <;> omega
  have hlen := (Nat.length_toDigits_le_iff (b := 16) (by decide) (by decide : 0 < 6)).2 hlt
  have hpos := Nat.length_toDigits_pos (b := 16) (n := c.toNat)
  have hn := @number?_toDigits c.toNat 0 0 (by omega) ('\x7d' :: rest)
  simp only [Nat.zero_add, Nat.mul_zero] at hn
  rw [hn]
  simp only [number?, if_true, hpos, hvalid, and_self, Char.ofNat_toNat]

end Escape

end Calculator
