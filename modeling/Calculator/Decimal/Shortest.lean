import Calculator.Decimal.Text

set_option autoImplicit false

namespace Calculator

namespace Magnitude

/-- The value as a quotient whose whole part counts multiples of `10^grid`. -/
def onGrid (v : Magnitude) (grid : Int) : Nat × Nat :=
  match grid with
  | .ofNat k => (v.units, 10 ^ k * one)
  | .negSucc k => (v.units * 10 ^ (k + 1), one)

def leadingExponent (num den : Nat) : Int :=
  if den ≤ num then ((Nat.toDigits 10 (num / den)).length : Int) - 1
  else -((Nat.toDigits 10 ((den - 1) / num)).length : Int)

def order (v : Magnitude) : Int := leadingExponent v.units one

/-- All digits of the value, which has at most 1074 decimals. -/
def expansion (v : Magnitude) : Decimal :=
  ⟨v.units * 5 ^ fractionBits, -(fractionBits : Int)⟩

def neighbours (v : Magnitude) (grid : Int) : List Decimal :=
  let (num, den) := v.onGrid grid
  [⟨Tie.away.divide num den, grid⟩, ⟨num / den, grid⟩, ⟨num / den + 1, grid⟩]

def readsBack (v : Magnitude) (d : Decimal) : Bool := d.toMagnitude? == some v

/-- The first neighbour that reads back on `grids` grids, each ten times finer. -/
def shortestFrom (v : Magnitude) : (grids : Nat) → (grid : Int) → Decimal
  | 0, _ => v.expansion
  | grids + 1, grid =>
    match (v.neighbours grid).find? v.readsBack with
    | some d => d
    | none => v.shortestFrom grids (grid - 1)

/-- The first grid holds the power of ten above the value, each later one a digit
more, and seventeen digits tell any two magnitudes apart. -/
def shortest (v : Magnitude) : Decimal :=
  if v.units = 0 then ⟨0, 0⟩ else v.shortestFrom 18 (v.order + 1)

def text (v : Magnitude) : List Char := v.shortest.text

theorem rounded_mul_right (num den : Nat) {c : Nat} (hc : 0 < c) :
    rounded (num * c) (den * c) = rounded num den := by
  have hq : num * c / (den * c) = num / den := Nat.mul_div_mul_right num den hc
  have hd : ∀ tie : Tie, ∀ n d : Nat, tie.divide (n * c) (d * c) = tie.divide n d := by
    intro tie n d
    have h1 : n * c / (d * c) = n / d := Nat.mul_div_mul_right n d hc
    have h2 : n * c % (d * c) = n % d * c := Nat.mul_mod_mul_right c n d
    have h3 : 2 * (n % d * c) < d * c ↔ 2 * (n % d) < d := by
      rw [← Nat.mul_assoc]
      exact Nat.mul_lt_mul_right hc
    have h4 : d * c < 2 * (n % d * c) ↔ d < 2 * (n % d) := by
      rw [← Nat.mul_assoc]
      exact Nat.mul_lt_mul_right hc
    simp only [Tie.divide, h1, h2, h3, h4]
  simp only [rounded, hq]
  rw [show den * c * gap (num / den) = den * gap (num / den) * c by ac_rfl, hd]

theorem nearest?_mul_right (num den : Nat) {c : Nat} (hc : 0 < c) :
    nearest? (num * c) (den * c) = nearest? num den := by
  have h := rounded_mul_right num den hc
  simp only [nearest?, h]

theorem nearest?_expansion (v : Magnitude) (n : Nat) :
    nearest? (v.units * 5 ^ n * 2 ^ n) (10 ^ n) = some v := by
  have hten : 10 ^ n = 1 * (5 ^ n * 2 ^ n) := by
    rw [Nat.one_mul, ← Nat.mul_pow]
  have hp : 0 < 5 ^ n * 2 ^ n := Nat.mul_pos (Nat.pow_pos (by decide)) (Nat.two_pow_pos n)
  rw [Nat.mul_assoc, hten, nearest?_mul_right _ _ hp, nearest?_units]

theorem readsBack_expansion (v : Magnitude) : v.readsBack v.expansion = true := by
  rw [readsBack, beq_iff_eq, expansion, Decimal.toMagnitude?_neg]
  exact v.nearest?_expansion fractionBits

theorem readsBack_shortestFrom (v : Magnitude) (grids : Nat) (grid : Int) :
    v.readsBack (v.shortestFrom grids grid) = true := by
  induction grids generalizing grid with
  | zero => exact v.readsBack_expansion
  | succ grids ih =>
    simp only [shortestFrom]
    split
    · rename_i d hd
      exact List.find?_some hd
    · exact ih _

theorem readsBack_shortest (v : Magnitude) : v.readsBack v.shortest = true := by
  unfold shortest
  split
  · rename_i h
    rw [show v = zero from ext h]
    decide
  · exact v.readsBack_shortestFrom _ _

theorem ofText?_text (v : Magnitude) :
    (Decimal.ofText? v.text).bind Decimal.toMagnitude? = some v := by
  have h := v.readsBack_shortest
  rw [readsBack, beq_iff_eq] at h
  rw [text, Decimal.ofText?_text, Option.bind_some, Decimal.toMagnitude?_spelled, h]

end Magnitude

namespace Number

/-- A number in full, never with an exponent. -/
def text : Number → List Char
  | .nan => "NaN".toList
  | .infinite false => "inf".toList
  | .infinite true => "-inf".toList
  | .finite false m => m.text
  | .finite true m => '-' :: m.text

def ofText? (cs : List Char) : Option Number :=
  if cs = "NaN".toList then some .nan
  else if cs = "inf".toList then some (.infinite false)
  else if cs = "-inf".toList then some (.infinite true)
  else
    match cs with
    | '-' :: literal => (Decimal.ofLiteral? literal).map (·.toNumber.neg)
    | literal => (Decimal.ofLiteral? literal).map (·.toNumber)

end Number

end Calculator
