import Calculator.Decimal.Basic

set_option autoImplicit false

namespace Calculator

namespace Decimal

def padded (width n : Nat) : List Char :=
  List.replicate (width - (Nat.toDigits 10 n).length) '0' ++ Nat.toDigits 10 n

def text (d : Decimal) : List Char :=
  match d.exponent with
  | .ofNat k => Nat.toDigits 10 (d.coefficient * 10 ^ k)
  | .negSucc k =>
    Nat.toDigits 10 (d.coefficient / 10 ^ (k + 1)) ++
      '.' :: padded (k + 1) (d.coefficient % 10 ^ (k + 1))

/-- Digits with at most one point among them, and one digit at least. -/
def ofText? (cs : List Char) : Option Decimal :=
  let whole := cs.takeWhile Char.isDigit
  match cs.dropWhile Char.isDigit with
  | [] => if whole.isEmpty then none else some ⟨Nat.ofDigitChars 10 whole 0, 0⟩
  | c :: fraction =>
    if c = '.' ∧ fraction.all Char.isDigit ∧ (whole ++ fraction) ≠ [] then
      some ⟨Nat.ofDigitChars 10 (whole ++ fraction) 0, -(fraction.length : Int)⟩
    else none

def naturalOfText? (cs : List Char) : Option Nat :=
  if cs ≠ [] ∧ cs.all Char.isDigit then some (Nat.ofDigitChars 10 cs 0) else none

def exponentOfText? : List Char → Option Int
  | '-' :: digits => (naturalOfText? digits).map fun n => -(n : Int)
  | '+' :: digits => (naturalOfText? digits).map Int.ofNat
  | digits => (naturalOfText? digits).map Int.ofNat

def isSign (c : Char) : Bool := c == '+' || c == '-'

def isExponentLetter (c : Char) : Bool := c == 'e' || c == 'E'

def ofLiteral? (cs : List Char) : Option Decimal :=
  let mantissa := cs.takeWhile (!isExponentLetter ·)
  match cs.dropWhile (!isExponentLetter ·) with
  | [] => ofText? mantissa
  | _ :: exponent => do
    let d ← ofText? mantissa
    let shift ← exponentOfText? exponent
    pure (d.scale shift)

theorem isDigit_of_mem_toDigits {n : Nat} {c : Char} (h : c ∈ Nat.toDigits 10 n) :
    c.isDigit = true :=
  Nat.isDigit_of_mem_toDigits (by decide) (by decide) h

theorem toDigits_ne_nil (n : Nat) : Nat.toDigits 10 n ≠ [] := by
  have := Nat.length_toDigits_pos (b := 10) (n := n)
  intro h
  rw [h] at this
  simp at this

theorem isDigit_of_mem_padded {width n : Nat} {c : Char} (h : c ∈ padded width n) :
    c.isDigit = true := by
  rcases List.mem_append.1 h with hr | hd
  · rw [(List.mem_replicate.1 hr).2]
    rfl
  · exact isDigit_of_mem_toDigits hd

theorem padded_length {width n : Nat} (hw : 0 < width) (h : n < 10 ^ width) :
    (padded width n).length = width := by
  have hl := (Nat.length_toDigits_le_iff (b := 10) (by decide) hw).2 h
  simp only [padded, List.length_append, List.length_replicate]
  omega

theorem ofDigitChars_append (xs ys : List Char) (init : Nat) :
    Nat.ofDigitChars 10 (xs ++ ys) init = Nat.ofDigitChars 10 ys (Nat.ofDigitChars 10 xs init) := by
  simp [Nat.ofDigitChars, List.foldl_append]

theorem ofDigitChars_init (xs : List Char) (init : Nat) :
    Nat.ofDigitChars 10 xs init = init * 10 ^ xs.length + Nat.ofDigitChars 10 xs 0 := by
  induction xs generalizing init with
  | nil => simp [Nat.ofDigitChars]
  | cons c cs ih =>
    have h1 := ih (10 * init + (c.toNat - '0'.toNat))
    have h2 := ih (10 * 0 + (c.toNat - '0'.toNat))
    simp only [Nat.ofDigitChars, List.foldl_cons, List.length_cons, Nat.pow_succ] at *
    rw [h1, h2, Nat.mul_zero, Nat.zero_add, Nat.add_mul, Nat.add_assoc,
      Nat.mul_comm 10 init, Nat.mul_assoc, Nat.mul_comm 10 (10 ^ _)]

theorem ofDigitChars_padded (width n : Nat) : Nat.ofDigitChars 10 (padded width n) 0 = n := by
  have hz : ∀ k, Nat.ofDigitChars 10 (List.replicate k '0') 0 = 0 := by
    intro k
    induction k with
    | zero => rfl
    | succ k ih => simpa [Nat.ofDigitChars, List.replicate_succ] using ih
  rw [padded, ofDigitChars_append, hz, Nat.ofDigitChars_toDigits (by decide) (by decide)]

theorem takeWhile_isDigit {ds : List Char} (hd : ∀ c ∈ ds, c.isDigit = true) :
    ds.takeWhile Char.isDigit = ds := by
  induction ds with
  | nil => rfl
  | cons d ds ih =>
    rw [List.takeWhile_cons_of_pos (hd d (by simp)), ih fun c hc => hd c (by simp [hc])]

theorem dropWhile_isDigit {ds : List Char} (hd : ∀ c ∈ ds, c.isDigit = true) :
    ds.dropWhile Char.isDigit = [] := by
  induction ds with
  | nil => rfl
  | cons d ds ih =>
    rw [List.dropWhile_cons_of_pos (hd d (by simp)), ih fun c hc => hd c (by simp [hc])]

theorem takeWhile_isDigit_append {ds : List Char} (hd : ∀ c ∈ ds, c.isDigit = true)
    {c : Char} (hc : c.isDigit = false) (tail : List Char) :
    (ds ++ c :: tail).takeWhile Char.isDigit = ds ∧
      (ds ++ c :: tail).dropWhile Char.isDigit = c :: tail := by
  constructor
  · rw [List.takeWhile_append_of_pos hd, List.takeWhile_cons_of_neg (by simp [hc]),
      List.append_nil]
  · rw [List.dropWhile_append_of_pos hd, List.dropWhile_cons_of_neg (by simp [hc])]

/-- The decimal that the text of `d` spells out: no positive exponent is left. -/
def spelled (d : Decimal) : Decimal :=
  match d.exponent with
  | .ofNat k => ⟨d.coefficient * 10 ^ k, 0⟩
  | .negSucc _ => d

theorem ofText?_text (d : Decimal) : ofText? d.text = some d.spelled := by
  obtain ⟨c, e⟩ := d
  cases e with
  | ofNat k =>
    have hd : ∀ x ∈ Nat.toDigits 10 (c * 10 ^ k), x.isDigit = true :=
      fun _ => isDigit_of_mem_toDigits
    have ht := takeWhile_isDigit hd
    have hw := dropWhile_isDigit hd
    simp only [ofText?, text, spelled, ht, hw, List.isEmpty_iff, toDigits_ne_nil, if_false,
      Nat.ofDigitChars_toDigits (b := 10) (by decide) (by decide)]
  | negSucc k =>
    have hpos : 0 < 10 ^ (k + 1) := Nat.pow_pos (by decide)
    have hd : ∀ x ∈ Nat.toDigits 10 (c / 10 ^ (k + 1)), x.isDigit = true :=
      fun _ => isDigit_of_mem_toDigits
    obtain ⟨ht, hw⟩ := takeWhile_isDigit_append hd (c := '.') rfl
      (padded (k + 1) (c % 10 ^ (k + 1)))
    have hl := padded_length (Nat.succ_pos k) (Nat.mod_lt c hpos)
    have hall : (padded (k + 1) (c % 10 ^ (k + 1))).all Char.isDigit = true :=
      List.all_eq_true.2 fun _ => isDigit_of_mem_padded
    have hne : Nat.toDigits 10 (c / 10 ^ (k + 1)) ++ padded (k + 1) (c % 10 ^ (k + 1)) ≠ [] := by
      simp
    simp only [ofText?, text, spelled, ht, hw, hall, hne, and_self, ne_eq, not_false_eq_true,
      if_true, hl, ofDigitChars_append]
    rw [ofDigitChars_init, hl, Nat.ofDigitChars_toDigits (by decide) (by decide),
      ofDigitChars_padded, Nat.mul_comm, Nat.div_add_mod]
    rfl

theorem toMagnitude?_spelled (d : Decimal) : d.spelled.toMagnitude? = d.toMagnitude? := by
  obtain ⟨c, e⟩ := d
  cases e with
  | ofNat k => simp [toMagnitude?_eq, spelled, units]
  | negSucc k => rfl

end Decimal

end Calculator
