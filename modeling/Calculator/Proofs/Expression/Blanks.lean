import Mathlib.Data.List.Infix
import Calculator.Proofs.Expression.Stable

/-! White space in an expression. It is dropped only after constants and calls have been
replaced, and these are told from the characters directly next to them: an `e` that white
space keeps from a digit is the constant. Main statement: two texts that differ in white
space alone have the same value if both have one, unless dropping the white space makes
such an `e` the mark of an exponent. -/

set_option autoImplicit false

namespace Calculator

theorem isAlphabetic_of_isBlank {c : Char} (h : isBlank c = true) : isAlphabetic c = false := by
  have hdisjoint : ∀ r ∈ blankRanges, ∀ r' ∈ alphabeticRanges, r.2 < r'.1 ∨ r'.2 < r.1 := by
    decide +kernel
  refine Bool.eq_false_iff.2 fun halphabetic => ?_
  obtain ⟨r, hr, hlow, hhigh⟩ := exists_of_inRanges h
  obtain ⟨r', hr', hlow', hhigh'⟩ := exists_of_inRanges halphabetic
  have := hdisjoint r hr r' hr'
  omega

theorem isBlank_of_isNameLetter {c : Char} (h : Constants.isNameLetter c = true) :
    isBlank c = false := by
  refine Bool.eq_false_iff.2 fun hblank => ?_
  simp [Constants.isNameLetter, isAlphabetic_of_isBlank hblank] at h

theorem any_head?_withoutBlanks {p : Char → Bool} (hp : ∀ c, p c = true → isBlank c = false)
    {cs : List Char} (h : cs.head?.any p = true) : (withoutBlanks cs).head?.any p = true := by
  obtain ⟨c, hc, hpc⟩ := (Option.any_eq_true _ _).1 h
  exact (Option.any_eq_true _ _).2 ⟨c, head?_withoutBlanks hc (hp c hpc), hpc⟩

theorem any_getLast?_withoutBlanks {p : Char → Bool} (hp : ∀ c, p c = true → isBlank c = false)
    {cs : List Char} (h : cs.getLast?.any p = true) :
    (withoutBlanks cs).getLast?.any p = true := by
  obtain ⟨c, hc, hpc⟩ := (Option.any_eq_true _ _).1 h
  exact (Option.any_eq_true _ _).2 ⟨c, getLast?_withoutBlanks hc (hp c hpc), hpc⟩

theorem leaves_withoutBlanks {m n : Nat} {cs : List Char} (h : Leaves m n cs) :
    Leaves m n (withoutBlanks cs) := by
  induction cs generalizing m with
  | nil => exact h
  | cons c cs ih =>
    by_cases hblank : isBlank c = true
    · have hne : c ≠ '(' ∧ c ≠ ')' := by
        constructor <;> rintro rfl <;> cases hblank
      rw [withoutBlanks_skip hblank]
      exact ih ((Leaves.cons_iff_of_ne hne.1 hne.2).1 h)
    · obtain ⟨k, hk, hrest⟩ := Leaves.cons_iff.1 h
      rw [withoutBlanks_keep (by simpa using hblank)]
      exact Leaves.cons_iff.2 ⟨k, hk, ih hrest⟩

/-- Whether an `e` of a text marks an exponent only once white space is dropped. -/
def GainsMark (cs : List Char) : Prop :=
  ∃ front back, cs = front ++ 'e' :: back ∧ marksExponent front.getLast? ('e' :: back) = false ∧
    marksExponent (withoutBlanks front).getLast? ('e' :: withoutBlanks back) = true

instance (cs : List Char) : Decidable (GainsMark cs) :=
  decidable_of_iff (∃ front ∈ cs.inits, ∃ back ∈ cs.tails, cs = front ++ 'e' :: back ∧
    marksExponent front.getLast? ('e' :: back) = false ∧
    marksExponent (withoutBlanks front).getLast? ('e' :: withoutBlanks back) = true) (by
      constructor
      · rintro ⟨front, _, back, _, h⟩
        exact ⟨front, back, h⟩
      · rintro ⟨front, back, rfl, h⟩
        exact ⟨front, by simp, back, by simp, rfl, h⟩)

namespace Constants

/-- With a letter or the digits of an exponent next to it, an `e` is no constant without
white space either. -/
theorem isEuler_withoutBlanks {front back : List Char} (h : isEuler front.getLast? back = false) :
    isEuler (withoutBlanks front).getLast? (withoutBlanks back) = false := by
  have hname : ∀ c, isNameLetter c = true → isBlank c = false := fun _ => isBlank_of_isNameLetter
  have hliteral : front.getLast?.any isLiteralCharacter = true →
      (withoutBlanks front).getLast?.any isLiteralCharacter = true :=
    any_getLast?_withoutBlanks fun _ => isBlank_of_isLiteralCharacter
  refine Bool.eq_false_iff.2 fun heuler => ?_
  simp only [isEuler, Bool.and_eq_true, Bool.not_eq_true'] at heuler
  obtain ⟨⟨hbefore, hbehind⟩, hmark⟩ := heuler
  have hbefore' : front.getLast?.any isNameLetter = false :=
    Bool.eq_false_iff.2 fun hletter => by simp [any_getLast?_withoutBlanks hname hletter] at hbefore
  have hbehind' : back.head?.any isNameLetter = false :=
    Bool.eq_false_iff.2 fun hletter => by simp [any_head?_withoutBlanks hname hletter] at hbehind
  have hmark' : marksExponent front.getLast? ('e' :: back) = false :=
    Bool.eq_false_iff.2 fun hm => by simp [marksExponent_withoutBlanks hliteral hm] at hmark
  simp [isEuler, hbefore', hbehind', hmark'] at h

theorem withoutBlanks_expandAfter {previous previous' : Option Char} {cs : List Char}
    (h : ∀ front back, cs = front ++ 'e' :: back →
      isEuler (front.getLast?.or previous) back =
        isEuler ((withoutBlanks front).getLast?.or previous') (withoutBlanks back)) :
    withoutBlanks (expandAfter previous cs) = expandAfter previous' (withoutBlanks cs) := by
  induction cs generalizing previous previous' with
  | nil => rfl
  | cons c after ih =>
    by_cases hblank : isBlank c = true
    · have hne : c ≠ 'π' ∧ c ≠ 'e' := by
        constructor <;> rintro rfl <;> cases hblank
      rw [expandAfter_copy hne.1 fun he => absurd he hne.2, withoutBlanks_skip hblank,
        withoutBlanks_skip hblank]
      refine ih fun front back hafter => ?_
      have hfront := h (c :: front) back (by rw [hafter]; rfl)
      rwa [getLast?_cons_or, withoutBlanks_skip hblank] at hfront
    · have hkeep : isBlank c = false := by simpa using hblank
      have hafter : withoutBlanks (expandAfter (some c) after) =
          expandAfter (some c) (withoutBlanks after) := by
        refine ih fun front back hafter => ?_
        have hfront := h (c :: front) back (by rw [hafter]; rfl)
        rwa [getLast?_cons_or, withoutBlanks_keep hkeep, getLast?_cons_or] at hfront
      have heuler : c = 'e' ∧ isEuler previous after = true ↔
          c = 'e' ∧ isEuler previous' (withoutBlanks after) = true := by
        refine and_congr_right fun hc => ?_
        have hhead : isEuler previous after = isEuler previous' (withoutBlanks after) :=
          h [] after (by rw [hc]; rfl)
        rw [hhead]
      have hpi : withoutBlanks pi = pi := withoutBlanks_of_isPlain fun _ => isPlain_of_mem_pi
      have he : withoutBlanks euler = euler :=
        withoutBlanks_of_isPlain fun _ => isPlain_of_mem_euler
      rw [withoutBlanks_keep hkeep]
      simp only [expandAfter, ← heuler, withoutBlanks_append, hafter]
      congr 1
      split
      · exact hpi
      · split
        · exact he
        · exact withoutBlanks_keep hkeep []

theorem exists_expandAfter_append (previous : Option Char) (cs ds : List Char) :
    ∃ written, expandAfter previous (cs ++ ds) =
        written ++ expandAfter (cs.getLast?.or previous) ds ∧
      ∀ previous' : Option Char,
        previous'.any isLiteralCharacter = previous.any isLiteralCharacter →
        (written.getLast?.or previous').any isLiteralCharacter =
          (cs.getLast?.or previous).any isLiteralCharacter := by
  induction cs generalizing previous with
  | nil => exact ⟨[], rfl, fun _ h => h⟩
  | cons c cs ih =>
    obtain ⟨written, hwritten, hlast⟩ := ih (some c)
    rw [List.cons_append, expandAfter, hwritten, getLast?_cons_or, ← List.append_assoc]
    refine ⟨_, rfl, fun previous' _ => ?_⟩
    rw [List.getLast?_append, Option.or_assoc]
    refine hlast _ ?_
    split
    · subst c
      rfl
    · split
      · rename_i hconstant
        rw [hconstant.1]
        rfl
      · rfl

theorem isDigit_head_expandAfter (previous : Option Char) (cs : List Char) :
    (expandAfter previous cs).head?.any Char.isDigit = cs.head?.any Char.isDigit := by
  cases cs with
  | nil => rfl
  | cons c after =>
    rw [expandAfter]
    split
    · subst c
      rfl
    · split
      · rename_i hconstant
        rw [hconstant.1]
        rfl
      · rfl

theorem startsExponent_of_expandAfter {previous : Option Char} {cs : List Char}
    (h : startsExponent (expandAfter previous cs) = true) : startsExponent cs = true := by
  have hcons : ∀ (c : Char) (after : List Char), startsExponent (c :: after) =
      (c.isDigit || Decimal.isSign c && after.head?.any Char.isDigit) := by
    intro c after
    cases after <;> simp [startsExponent]
  cases cs with
  | nil => exact h
  | cons c after =>
    rw [expandAfter] at h
    split at h
    · cases h
    · split at h
      · cases h
      · rwa [List.singleton_append, hcons, isDigit_head_expandAfter, ← hcons] at h

end Constants

namespace Calls

variable {A : Arithmetic} {depth : Nat} {previous : Option Char} {cs out : List Char}

theorem not_mem_heading (h : Heading) {c : Char} (hc : Decimal.isExponentLetter c = true) :
    c ∉ h.text := by
  intro hmem
  simp only [Heading.text, List.mem_append, List.mem_singleton] at hmem
  rcases hmem with hname | hblank | rfl
  · rw [h.isExponentLetter_of_mem hname] at hc
    cases hc
  · have := h.isBlank c hblank
    rcases eq_of_isExponentLetter hc with rfl | rfl <;> cases this
  · cases hc

/-- A text whose calls can be replaced has an `e`, small or capital, only for the mark of
an exponent, since no function has one in its name. -/
theorem marksExponent_of_expandAfter (h : expandAfter A depth previous cs = .ok out)
    {front back : List Char} {c : Char} (hcs : cs = front ++ c :: back)
    (hc : Decimal.isExponentLetter c = true) :
    marksExponent (front.getLast?.or previous) (c :: back) = true := by
  have halpha' : c.isAlpha = true := by
    rcases eq_of_isExponentLetter hc with rfl | rfl <;> rfl
  induction depth, previous, cs using text_induction generalizing out front back with
  | done depth previous => simp at hcs
  | copy depth previous d after hcopy ih =>
    cases front with
    | nil =>
      obtain ⟨rfl, rfl⟩ := List.cons.inj hcs
      exact hcopy.resolve_left (by simp [halpha'])
    | cons d' front =>
      obtain ⟨rfl, hafter⟩ := List.cons.inj hcs
      obtain ⟨rest, hrest, _⟩ := (expandAfter_copy_eq_ok hcopy).1 h
      rw [getLast?_cons_or]
      exact ih hrest hafter
  | call depth previous d after halpha hmark ih =>
    obtain ⟨f, inside, behind, value, rest, hsplit, hvalue, hrest, _⟩ :=
      (expandAfter_splitCall_eq_ok halpha hmark).1 h
    obtain ⟨_, _, heading, _, hcall⟩ := splitCall_eq_ok_iff.1 hsplit
    obtain ⟨hinside, hbehind⟩ := ih f inside behind hsplit
    rw [hcall] at hcs
    obtain ⟨middle, rfl, hargument⟩ := exists_append_of_not_mem hcs (not_mem_heading heading hc)
    have hne : c ≠ ')' := by
      rintro rfl
      cases hc
    rw [List.getLast?_append, Option.or_assoc]
    rcases List.append_eq_append_iff.1 hargument with ⟨tail, rfl, htail⟩ | ⟨tail, rfl, htail⟩
    · -- The letter is behind the call.
      cases tail with
      | nil => exact absurd (List.cons.inj htail).1.symm hne
      | cons d' tail =>
        obtain ⟨rfl, rfl⟩ := List.cons.inj htail
        rw [List.getLast?_append, Option.or_assoc, getLast?_cons_or]
        exact hbehind hrest rfl
    · -- It is in the argument, where nothing behind the parenthesis matters.
      cases tail with
      | nil => exact absurd (List.cons.inj htail).1 hne
      | cons d' tail =>
        rw [List.cons_append] at htail
        obtain ⟨rfl, rfl⟩ := List.cons.inj htail
        obtain ⟨expanded, hexpanded, _⟩ := Fault.bind_eq_ok.1 hvalue
        have hmark' := hinside hexpanded rfl
        rw [marksExponent_append _ _ _ (endsExponent_closing behind)]
        cases hlast : middle.getLast? with
        | none => simp [hlast, marksExponent] at hmark'
        | some b => rwa [hlast] at hmark'

theorem exists_heading_withoutBlanks (h : Heading) :
    ∃ h' : Heading, h'.function = h.function ∧ withoutBlanks h.text = h'.text := by
  refine ⟨⟨h.name, [], h.function, h.isAlpha, h.name_eq, by simp⟩, rfl, ?_⟩
  have hname : withoutBlanks h.name = h.name :=
    withoutBlanks_eq_self fun c hc => isBlank_of_isAlpha (h.isAlpha c hc)
  have hblanks : withoutBlanks h.blanks = [] :=
    List.filter_eq_nil_iff.2 fun c hc => by simp [h.isBlank c hc]
  simp only [Heading.text, withoutBlanks_append, hname, hblanks]
  rfl

end Calls

theorem infixValue_withoutBlanks (A : Arithmetic) (cs : List Char) :
    infixValue A (withoutBlanks cs) = infixValue A cs := by
  rw [infixValue, infixValue, tokenize, tokenize, withoutBlanks_withoutBlanks]

namespace Calls

variable {A : Arithmetic} {depth : Nat} {previous previous' : Option Char} {cs out : List Char}

theorem expandAfter_withoutBlanks (h : expandAfter A depth previous cs = .ok out)
    (hprevious : previous.any isLiteralCharacter = true →
      previous'.any isLiteralCharacter = true) :
    expandAfter A depth previous' (withoutBlanks cs) = .ok (withoutBlanks out) := by
  induction depth, previous, cs using text_induction generalizing previous' out with
  | done depth previous =>
    rw [expandAfter] at h
    cases h
    rw [withoutBlanks, List.filter_nil, expandAfter]
  | copy depth previous c after hcopy ih =>
    obtain ⟨rest, hrest, rfl⟩ := (expandAfter_copy_eq_ok hcopy).1 h
    by_cases hblank : isBlank c = true
    · rw [withoutBlanks_skip hblank, withoutBlanks_skip hblank]
      refine ih hrest fun hliteral => ?_
      rw [isBlank_of_isLiteralCharacter hliteral] at hblank
      cases hblank
    · have hkeep : isBlank c = false := by simpa using hblank
      rw [withoutBlanks_keep hkeep, withoutBlanks_keep hkeep]
      have hcopy' := hcopy.imp_right (marksExponent_withoutBlanks hprevious)
      exact (expandAfter_copy_eq_ok hcopy').2 ⟨_, ih hrest id, rfl⟩
  | call depth previous c after halpha hmark ih =>
    obtain ⟨f, inside, behind, value, rest, hsplit, hvalue, hrest, rfl⟩ :=
      (expandAfter_splitCall_eq_ok halpha hmark).1 h
    obtain ⟨hdepth, hmatched, heading, rfl, hcall⟩ := splitCall_eq_ok_iff.1 hsplit
    obtain ⟨hinside, hbehind⟩ := ih _ inside behind hsplit
    obtain ⟨heading', hfunction, htext⟩ := exists_heading_withoutBlanks heading
    have hcs : withoutBlanks (c :: after) =
        heading'.text ++ (withoutBlanks inside ++ ')' :: withoutBlanks behind) := by
      rw [hcall, withoutBlanks_append, withoutBlanks_append, htext,
        withoutBlanks_keep (by rfl)]
    have hmatched' : Matched (withoutBlanks inside) :=
      matched_iff.2 (leaves_withoutBlanks (matched_iff.1 hmatched))
    have hvalue' : callValue A (depth + 1) heading'.function (withoutBlanks inside) = .ok value := by
      obtain ⟨expanded, hexpanded, happly⟩ := Fault.bind_eq_ok.1 hvalue
      rw [callValue, hinside hexpanded id, Fault.ok_bind, infixValue_withoutBlanks, hfunction]
      exact happly
    have hrest' : expandAfter A depth none (withoutBlanks behind) = .ok (withoutBlanks rest) :=
      expandAfter_parenthesis A depth _ ▸ hbehind hrest id
    have hwritten : withoutBlanks ('(' :: value.text ++ [')']) = '(' :: value.text ++ [')'] :=
      withoutBlanks_of_isPlain fun _ => isPlain_of_mem_value (isFinite_of_callValue hvalue)
    rw [hcs, expandAfter_heading A hdepth previous' heading' hmatched', hvalue', hrest',
      withoutBlanks_append, hwritten]
    simp [Fault.ok_bind, Except.map]

end Calls

theorem isEuler_or_marksExponent {A : Arithmetic} {cs out : List Char}
    (h : Calls.expand A (Constants.expand cs) = .ok out) {front back : List Char}
    (hcs : cs = front ++ 'e' :: back) :
    Constants.isEuler front.getLast? back = true ∨
      marksExponent front.getLast? ('e' :: back) = true := by
  by_cases heuler : Constants.isEuler front.getLast? back = true
  · exact .inl heuler
  · obtain ⟨written, hwritten, hlast⟩ :=
      Constants.exists_expandAfter_append none front ('e' :: back)
    rw [Option.or_none, Constants.expandAfter_copy (by decide) fun _ => by simpa using heuler,
      ← hcs] at hwritten
    have hmark := Calls.marksExponent_of_expandAfter h hwritten rfl
    have hbefore := hlast none rfl
    simp only [Option.or_none] at hmark hbefore
    simp only [marksExponent, Bool.and_eq_true, hbefore] at hmark ⊢
    exact .inr ⟨hmark.1, Constants.startsExponent_of_expandAfter hmark.2⟩

/-- Dropping the white space of a text leaves its value, if a value is left and no `e` gains
the digits of an exponent. -/
theorem evaluateWith_withoutBlanks {A : Arithmetic} {cs : List Char} {x y : Number}
    (hx : evaluateWith A cs = .ok x) (hy : evaluateWith A (withoutBlanks cs) = .ok y)
    (hmarks : ¬GainsMark cs) : x = y := by
  obtain ⟨out, hout, _⟩ := Fault.bind_eq_ok.1 hx
  obtain ⟨out', hout', _⟩ := Fault.bind_eq_ok.1 hy
  have heuler : ∀ front back, cs = front ++ 'e' :: back →
      Constants.isEuler front.getLast? back =
        Constants.isEuler (withoutBlanks front).getLast? (withoutBlanks back) := by
    intro front back hcs
    have hblanks : withoutBlanks cs = withoutBlanks front ++ 'e' :: withoutBlanks back := by
      rw [hcs, withoutBlanks_append, withoutBlanks_keep rfl]
    cases hraw : Constants.isEuler front.getLast? back with
    | false => exact (Constants.isEuler_withoutBlanks hraw).symm
    | true =>
      rcases isEuler_or_marksExponent hout' hblanks with h | hmark
      · exact h.symm
      · have hnone : marksExponent front.getLast? ('e' :: back) = false := by
          simp only [Constants.isEuler, Bool.and_eq_true, Bool.not_eq_true'] at hraw
          exact hraw.2
        exact absurd ⟨front, back, hcs, hnone, hmark⟩ hmarks
  have hconstants : withoutBlanks (Constants.expand cs) = Constants.expand (withoutBlanks cs) :=
    Constants.withoutBlanks_expandAfter fun front back hcs => by
      simpa only [Option.or_none] using heuler front back hcs
  have hcalls : Calls.expand A (Constants.expand (withoutBlanks cs)) = .ok (withoutBlanks out) :=
    hconstants ▸ Calls.expandAfter_withoutBlanks hout id
  rw [evaluateWith, hcalls, Fault.ok_bind, infixValue_withoutBlanks] at hy
  rw [evaluateWith, hout, Fault.ok_bind] at hx
  exact Except.ok.inj (hx.symm.trans hy)

theorem evaluateWith_withoutBlanks_sqrt :
    ∃ x y, evaluate "2 e × sqrt ( 1 6 )".toList = .ok x ∧ evaluate "2e×sqrt(16)".toList = .ok y ∧
      x = y := by
  have hspaced : evaluate "2 e × sqrt ( 1 6 )".toList =
      .ok (Decimal.toNumber ⟨2174625462767236, -14⟩) := eq_ok_of_toOption (by decide +kernel)
  have hdense : evaluate "2e×sqrt(16)".toList =
      .ok (Decimal.toNumber ⟨2174625462767236, -14⟩) := eq_ok_of_toOption (by decide +kernel)
  exact ⟨_, _, hspaced, hdense, evaluateWith_withoutBlanks hspaced hdense (by decide +kernel)⟩

/-- The `e` of `1 e5` is the constant, and the one of `1e5` marks an exponent. -/
theorem evaluate_constant_between_digits :
    evaluate "1 e5".toList = .ok (Decimal.toNumber ⟨13591409142295225, -15⟩) ∧
      evaluate (withoutBlanks "1 e5".toList) = .ok (Decimal.toNumber ⟨1, 5⟩) ∧
      Decimal.toNumber ⟨13591409142295225, -15⟩ ≠ Decimal.toNumber ⟨1, 5⟩ := by
  refine ⟨eq_ok_of_toOption (by decide +kernel), eq_ok_of_toOption (by decide +kernel), ?_⟩
  decide +kernel

end Calculator
