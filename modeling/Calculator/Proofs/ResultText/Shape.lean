import Calculator.Proofs.ResultText.Canonical

/-! The form of a displayed text. A result that is written in full is a decimal on the
grid of the tenth decimal, and the search for the shortest one does not go below the
coarsest grid that has one, so ten decimals are enough. Main statement: the text of a
result is positional with ten decimals at most, or seven digits with an exponent, after a
sign or none; it is one number for the calculator, and the opposite result has the other
sign. -/

set_option autoImplicit false

namespace Calculator

/-- Digits of a whole number, with no zero too much in front. -/
structure IsWhole (ds : List Char) : Prop where
  isDigit : ∀ c ∈ ds, c.isDigit = true
  ne_nil : ds ≠ []
  head : ds.head? = some '0' → ds = ['0']

/-- One to ten decimals, with no zero at the end. -/
structure IsFraction (ds : List Char) : Prop where
  isDigit : ∀ c ∈ ds, c.isDigit = true
  ne_nil : ds ≠ []
  length_le : ds.length ≤ 10
  last : ds.getLast? ≠ some '0'

def IsPositional (cs : List Char) : Prop :=
  ∃ whole, IsWhole whole ∧
    (cs = whole ∨ ∃ fraction, IsFraction fraction ∧ cs = whole ++ '.' :: fraction)

/-- One digit that is not zero, six decimals, and a whole exponent that has its sign. -/
def IsScientific (cs : List Char) : Prop :=
  ∃ (first : Char) (decimals : List Char) (sign : Char) (exponent : List Char),
    (first.isDigit = true ∧ first ≠ '0') ∧
    (decimals.length = 6 ∧ ∀ c ∈ decimals, c.isDigit = true) ∧
    (sign = '+' ∨ sign = '-') ∧ IsWhole exponent ∧
    cs = first :: '.' :: decimals ++ 'e' :: sign :: exponent

namespace Decimal

theorem eq_zero_of_head?_toDigits {n : Nat} (h : (Nat.toDigits 10 n).head? = some '0') :
    n = 0 := by
  induction n using Nat.strongRecOn with
  | ind n ih =>
    rw [Nat.toDigits_eq_if (by decide)] at h
    split at h
    next hlt => exact Nat.digitChar_eq_zero.1 (Option.some.inj h)
    next hge =>
      rw [List.head?_append_of_ne_nil _ Nat.toDigits_ne_nil] at h
      have hzero := ih (n / 10) (by omega) h
      omega

theorem getLast?_toDigits (n : Nat) :
    (Nat.toDigits 10 n).getLast? = some (Nat.digitChar (n % 10)) := by
  rw [Nat.toDigits_eq_if (by decide)]
  split
  next hlt => rw [Nat.mod_eq_of_lt hlt, List.getLast?_singleton]
  next => rw [List.getLast?_concat]

theorem isWhole_toDigits (n : Nat) : IsWhole (Nat.toDigits 10 n) where
  isDigit _ := isDigit_of_mem_toDigits
  ne_nil := Nat.toDigits_ne_nil
  head h := by rw [eq_zero_of_head?_toDigits h, Nat.toDigits_zero]

theorem getLast?_padded (width n : Nat) :
    (padded width n).getLast? = some (Nat.digitChar (n % 10)) := by
  rw [padded, List.getLast?_append, getLast?_toDigits, Option.some_or]

theorem isFraction_padded {width n : Nat} (hpos : 0 < width) (hle : width ≤ 10)
    (hn : n < 10 ^ width) (hlast : n % 10 ≠ 0) : IsFraction (padded width n) where
  isDigit _ := isDigit_of_mem_padded
  ne_nil h := by
    have hlength := padded_length hpos hn
    rw [h, List.length_nil] at hlength
    omega
  length_le := by rwa [padded_length hpos hn]
  last h := by
    rw [getLast?_padded] at h
    exact hlast (Nat.digitChar_eq_zero.1 (Option.some.inj h))

theorem isPositional_text {d : Decimal} (hgrid : -10 ≤ d.exponent)
    (hlast : d.coefficient % 10 ≠ 0 ∨ 0 ≤ d.exponent) : IsPositional d.text := by
  obtain ⟨c, e⟩ := d
  dsimp only at hgrid hlast
  cases e with
  | ofNat k => exact ⟨_, isWhole_toDigits (c * 10 ^ k), .inl rfl⟩
  | negSucc k =>
    refine ⟨_, isWhole_toDigits (c / 10 ^ (k + 1)), .inr ⟨_, ?_, rfl⟩⟩
    have hmod : c % 10 ^ (k + 1) % 10 = c % 10 :=
      Nat.mod_mod_of_dvd c (Dvd.intro_left (10 ^ k) rfl)
    refine isFraction_padded (Nat.succ_pos k) (by omega) (Nat.mod_lt _ (by positivity)) ?_
    rw [hmod]
    exact hlast.resolve_right (by omega)

end Decimal

namespace Magnitude

theorem isScientific_exponentText (e : Int) :
    ∃ sign exponent, (sign = '+' ∨ sign = '-') ∧ IsWhole exponent ∧
      exponentText e = sign :: exponent := by
  cases e with
  | ofNat k => exact ⟨'+', _, .inl rfl, Decimal.isWhole_toDigits k, rfl⟩
  | negSucc k => exact ⟨'-', _, .inr rfl, Decimal.isWhole_toDigits (k + 1), rfl⟩

theorem isScientific_scientificText {v : Magnitude} (hv : v.units ≠ 0) :
    IsScientific (v.scientificText 6) := by
  obtain ⟨hlow, hhigh⟩ := scientific_digits 6 hv
  unfold scientificText
  generalize v.scientific 6 = p at *
  obtain ⟨n, e⟩ := p
  dsimp only at hlow hhigh ⊢
  obtain ⟨sign, exponent, hsign, hexponent, htext⟩ := isScientific_exponentText e
  have hfirst : n / 10 ^ 6 < 10 := by omega
  have hdigits : Nat.toDigits 10 (n / 10 ^ 6) = [Nat.digitChar (n / 10 ^ 6)] :=
    Nat.toDigits_of_lt_base hfirst
  refine ⟨Nat.digitChar (n / 10 ^ 6), Decimal.padded 6 (n % 10 ^ 6), sign, exponent,
    ⟨?_, ?_⟩, ⟨?_, fun _ => Decimal.isDigit_of_mem_padded⟩, hsign, hexponent, ?_⟩
  · exact Decimal.isDigit_of_mem_toDigits (by rw [hdigits]; exact List.mem_singleton_self _)
  · rw [ne_eq, Nat.digitChar_eq_zero]
    omega
  · exact Decimal.padded_length (by decide) (Nat.mod_lt _ (by decide))
  · have hplain : (⟨n, -((6 : Nat) : Int)⟩ : Decimal).text =
        Nat.toDigits 10 (n / 10 ^ 6) ++ '.' :: Decimal.padded 6 (n % 10 ^ 6) := rfl
    rw [hplain, hdigits, htext]
    rfl

theorem order_of_not_isExtreme {v : Magnitude} (hv : v.units ≠ 0) (h : ¬ v.IsExtreme) :
    -7 ≤ v.order ∧ v.order ≤ 10 := by
  obtain ⟨hlow, hhigh⟩ := ten_zpow_order hv
  have hsmallest := smallestPlain_units.1
  unfold IsExtreme at h
  constructor
  · by_contra hlt
    have hstep : (10 : ℚ) ^ (v.order + 1) ≤ 10 ^ (-7 : Int) :=
      zpow_le_zpow_right₀ (by norm_num) (by omega)
    have hone : (0 : ℚ) < one := Nat.cast_pos.2 one_pos
    have hplain : smallestPlain.units ≤ v.units := by omega
    have hleast : one ≤ v.units * 10 ^ (7 : Nat) := by
      generalize smallestPlain.units = least at *
      generalize v.units = units at *
      generalize one = unit at *
      omega
    have hleast' : (10 : ℚ) ^ (-7 : Int) ≤ v.toRat := by
      rw [toRat, le_div_iff₀ hone]
      have hcast : (one : ℚ) ≤ v.units * 10 ^ 7 := by exact_mod_cast hleast
      generalize (one : ℚ) = unit at *
      norm_num
      linarith
    linarith
  · by_contra hgt
    have hstep : (10 : ℚ) ^ (11 : Int) ≤ 10 ^ v.order :=
      zpow_le_zpow_right₀ (by norm_num) (by omega)
    have hplain : v.toRat ≤ 10 ^ 10 := by
      rw [← toRat_largestPlain, toRat_le_iff]
      omega
    norm_num at hstep hplain
    linarith

theorem isPositional_text {r : Magnitude} (hfix : r.toTenDecimals = r) (h : ¬ r.IsExtreme) :
    IsPositional r.text := by
  by_cases hr : r.units = 0
  · have hzero : r.shortest = ⟨0, 0⟩ := if_pos hr
    rw [text, hzero]
    exact Decimal.isPositional_text (by decide) (.inr (le_refl _))
  · obtain ⟨hlow, hhigh⟩ := order_of_not_isExtreme hr h
    have hshortest := coarsest_shortest hr (by omega)
    have hplain : r.units ≤ largestPlain.units := by
      unfold IsExtreme at h
      omega
    have hread := toMagnitude?_tenDecimals hplain
    rw [hfix] at hread
    have hhits : r.Hits (-10) :=
      ⟨r.tenDecimals, r.roundedTo_mem_neighbours (-10), readsBack_iff.2 hread⟩
    exact Decimal.isPositional_text (hshortest.le_exponent (by omega) hhits)
      (.inl (hshortest.coefficient_mod_ten hr))

theorem resultText_shape {r : Magnitude} (hfix : r.toTenDecimals = r) :
    IsPositional r.resultText ∨ IsScientific r.resultText := by
  by_cases h : r.IsExtreme
  · rw [resultText_of_isExtreme h]
    exact .inr (isScientific_scientificText h.units_ne_zero)
  · rw [resultText_of_not_isExtreme h]
    exact .inl (isPositional_text hfix h)

theorem resultText_eq_zero_iff {r : Magnitude} (hfix : r.toTenDecimals = r) :
    r.resultText = "0".toList ↔ r.units = 0 := by
  constructor
  · intro hzero
    obtain ⟨l, htext, hvalue⟩ := r.exists_literal_reread
    have hread := l.readLiteral_text
    have hnumber : Token.readLiteral "0".toList = .ok (.finite false .zero) := rfl
    rw [htext, hzero, hnumber, hvalue] at hread
    rw [Except.ok.injEq, Number.finite.injEq] at hread
    rw [← units_reread_eq_zero_iff hfix, ← hread.2, zero]
  · intro hr
    have hplain : ¬ r.IsExtreme := fun h => h.units_ne_zero hr
    have hzero : r.shortest = ⟨0, 0⟩ := if_pos hr
    rw [resultText_of_not_isExtreme hplain, text, hzero]
    rfl

end Magnitude

theorem Literal.ne_minus_cons (l : Literal) (cs : List Char) : l.text ≠ '-' :: cs := by
  intro h
  obtain ⟨c, rest, hcs, hc⟩ := l.exists_text_eq_cons
  rw [h] at hcs
  rw [← (List.cons.inj hcs).1] at hc
  cases hc

theorem tokenize_literal (l : Literal) : tokenize l.text = .ok [.number l.value] :=
  tokenize_spell (.ofAtom (.leaf l))

theorem tokenize_negative (l : Literal) :
    tokenize ('-' :: l.text) = .ok [.symbol (.binary .minus), .number l.value] :=
  tokenize_spell (.ofUnary (.negative (.unsigned (.atom (.leaf l)))))

/-- The text of a finite result has one of two forms behind its sign, and never is the
zero with a sign. The calculator reads it as one number behind its sign, and the
opposite result has the other sign, unless it is zero. -/
theorem resultText_form {x : Number} (hx : x.isFinite = true) :
    ∃ (unsigned : List Char) (y : Number),
      (IsPositional unsigned ∨ IsScientific unsigned) ∧ y.isFinite = true ∧
      x.resultText ≠ "-0".toList ∧
      (x.resultText = unsigned ∧ tokenize x.resultText = .ok [.number y] ∧
          x.neg.resultText =
            (if unsigned = "0".toList then unsigned else '-' :: unsigned) ∨
        x.resultText = '-' :: unsigned ∧ unsigned ≠ "0".toList ∧
          tokenize x.resultText = .ok [.symbol (.binary .minus), .number y] ∧
          x.neg.resultText = unsigned) := by
  cases x with
  | nan => cases hx
  | infinite s => cases hx
  | finite s m =>
    have hfix := m.toTenDecimals_toTenDecimals
    have hform := Magnitude.resultText_shape hfix
    have hzero := Magnitude.resultText_eq_zero_iff hfix
    obtain ⟨l, htext, -⟩ := m.toTenDecimals.exists_literal_reread
    have hplain := tokenize_literal l
    have hsigned := tokenize_negative l
    have hhead := l.ne_minus_cons
    have hopposite : (Number.finite s m).neg = .finite (!s) m := rfl
    rw [hopposite, Number.resultText_finite, Number.resultText_finite]
    rw [htext] at hplain hsigned hhead
    generalize m.toTenDecimals.resultText = unsigned at *
    refine ⟨unsigned, l.value, hform, l.isFinite, ?_⟩
    by_cases hr : m.toTenDecimals.units = 0
    · rw [if_neg (fun h => h.2 hr), if_neg (fun h => h.2 hr), if_pos (hzero.2 hr)]
      exact ⟨hhead _, .inl ⟨rfl, hplain, rfl⟩⟩
    · have hne : unsigned ≠ "0".toList := fun h => hr (hzero.1 h)
      cases s with
      | true =>
        rw [if_pos ⟨rfl, hr⟩, if_neg (fun h => nomatch h.1)]
        exact ⟨fun h => hne (List.cons.inj h).2, .inr ⟨rfl, hne, hsigned, rfl⟩⟩
      | false =>
        rw [if_neg (fun h => nomatch h.1), if_pos ⟨rfl, hr⟩, if_neg hne]
        exact ⟨hhead _, .inl ⟨rfl, hplain, rfl⟩⟩

theorem resultText_form_small :
    ∃ unsigned : List Char, (IsPositional unsigned ∨ IsScientific unsigned) ∧
      ("-1.230000e-8".toList = unsigned ∨ "-1.230000e-8".toList = '-' :: unsigned) := by
  have htext : (Decimal.toNumber ⟨123456789, -16⟩).neg.resultText = "-1.230000e-8".toList := by
    decide +kernel
  have hfinite : (Decimal.toNumber ⟨123456789, -16⟩).neg.isFinite = true := by decide +kernel
  obtain ⟨unsigned, y, hform, -, -, hsign⟩ := resultText_form hfinite
  rw [htext] at hsign
  exact ⟨unsigned, hform, hsign.imp And.left And.left⟩

end Calculator
