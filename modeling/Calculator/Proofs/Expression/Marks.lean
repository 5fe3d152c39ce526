import Calculator.Proofs.Expression.Boundary
import Calculator.Proofs.Token.Point

set_option autoImplicit false

namespace Calculator

theorem Fault.map_eq_ok {α β : Type} {x : Except Fault α} {f : α → β} {b : β} :
    x.map f = .ok b ↔ ∃ a, x = .ok a ∧ f a = b := by
  cases x <;> simp [Except.map]

/-- An exponent can start for the sake of its first characters, a sign perhaps and a
digit. -/
theorem exists_lead {cs : List Char} (h : startsExponent cs = true) :
    ∃ lead rest, cs = lead ++ rest ∧ (∀ c ∈ lead, isPlain c = true) ∧
      ∀ xs, startsExponent (lead ++ xs) = true := by
  have hletter : Decimal.isExponentLetter 'e' = true := rfl
  obtain ⟨e, tail, _, rfl, _⟩ := exists_exponent hletter h
  refine ⟨e.sign.toList ++ e.digits, tail, by simp, fun c => e.isPlain_of_mem, fun xs => ?_⟩
  rw [List.append_assoc]
  exact e.startsExponent_text xs

theorem isBlank_of_isPlain {c : Char} (h : isPlain c = true) : isBlank c = false := by
  rcases isDigit_or_mem_of_isPlain h with hd | hc
  · exact isBlank_of_isDigit hd
  · have hall : ∀ c ∈ ".+-×*÷/^()".toList, (!isBlank c) = true := List.all_eq_true.1 rfl
    simpa using hall c hc

theorem isBlank_of_isLiteralCharacter {c : Char} (h : isLiteralCharacter c = true) :
    isBlank c = false := isBlank_of_isPlain (by simp [isPlain, h])

theorem withoutBlanks_of_isPlain {cs : List Char} (h : ∀ c ∈ cs, isPlain c = true) :
    withoutBlanks cs = cs := withoutBlanks_eq_self fun c hc => isBlank_of_isPlain (h c hc)

theorem startsExponent_withoutBlanks {cs : List Char} (h : startsExponent cs = true) :
    startsExponent (withoutBlanks cs) = true := by
  obtain ⟨lead, rest, rfl, hplain, hstarts⟩ := exists_lead h
  rw [withoutBlanks_append, withoutBlanks_of_isPlain hplain]
  exact hstarts _

theorem marksExponent_withoutBlanks {previous previous' : Option Char} {c : Char}
    {after : List Char} (hprevious : previous.any isLiteralCharacter = true →
      previous'.any isLiteralCharacter = true)
    (h : marksExponent previous (c :: after) = true) :
    marksExponent previous' (c :: withoutBlanks after) = true := by
  simp only [marksExponent, Bool.and_eq_true] at h ⊢
  exact ⟨⟨h.1.1, hprevious h.1.2⟩, startsExponent_withoutBlanks h.2⟩

theorem Pass.Copies.startsExponent {F : Pass} (hF : F.Copies) {previous : Option Char}
    {cs out : List Char} (hout : F previous cs = .ok out) (h : startsExponent cs = true) :
    startsExponent out = true := by
  obtain ⟨lead, rest, rfl, hplain, hstarts⟩ := exists_lead h
  rw [hF.copy_append hplain, Fault.map_eq_ok] at hout
  obtain ⟨rest', _, rfl⟩ := hout
  exact hstarts rest'

/-- Whether each letter of a text behind the character `previous` marks an exponent. -/
def OnlyMarks (previous : Option Char) : List Char → Prop
  | [] => True
  | c :: after =>
    (c.isAlpha = true → marksExponent previous (c :: after) = true) ∧ OnlyMarks (some c) after

namespace OnlyMarks

theorem append {cs ds : List Char} (hcs : ∀ c ∈ cs, c.isAlpha = false) (previous : Option Char)
    (hds : OnlyMarks (cs.getLast?.or previous) ds) : OnlyMarks previous (cs ++ ds) := by
  induction cs generalizing previous with
  | nil => exact hds
  | cons c cs ih =>
    refine ⟨fun halpha => ?_, ih (fun d hd => hcs d (by simp [hd])) (some c) ?_⟩
    · rw [hcs c (by simp)] at halpha
      cases halpha
    · rwa [getLast?_cons_or] at hds

theorem of_append {cs ds : List Char} {previous : Option Char}
    (h : OnlyMarks previous (cs ++ ds)) : OnlyMarks (cs.getLast?.or previous) ds := by
  induction cs generalizing previous with
  | nil => exact h
  | cons c cs ih =>
    rw [getLast?_cons_or]
    exact ih h.2

theorem copied {previous : Option Char} {c : Char} {after : List Char}
    (h : OnlyMarks previous (c :: after)) :
    c.isAlpha = false ∨ marksExponent previous (c :: after) = true := by
  by_cases halpha : c.isAlpha = true
  · exact .inr (h.1 halpha)
  · exact .inl (by simpa using halpha)

theorem withoutBlanks {previous previous' : Option Char} {cs : List Char}
    (h : OnlyMarks previous cs)
    (hprevious : previous.any isLiteralCharacter = true →
      previous'.any isLiteralCharacter = true) :
    OnlyMarks previous' (withoutBlanks cs) := by
  induction cs generalizing previous previous' with
  | nil => trivial
  | cons c after ih =>
    by_cases hblank : isBlank c = true
    · rw [withoutBlanks_skip hblank]
      refine ih h.2 fun hliteral => ?_
      rw [isBlank_of_isLiteralCharacter hliteral] at hblank
      cases hblank
    · rw [withoutBlanks_keep (by simpa using hblank)]
      exact ⟨fun halpha => marksExponent_withoutBlanks hprevious (h.1 halpha), ih h.2 id⟩

end OnlyMarks

theorem Number.isPlain_of_mem {x : Number} (hx : x.isFinite = true) {c : Char} (h : c ∈ x.text) :
    isPlain c = true := by
  have hmagnitude : ∀ m : Magnitude, c ∈ m.text → isPlain c = true := by
    intro m hm
    have hmantissa : c ∈ (Mantissa.ofDecimal m.shortest).text := by
      rwa [Mantissa.text_ofDecimal]
    simp [isPlain, Mantissa.isLiteralCharacter_of_mem hmantissa]
  cases x with
  | nan => cases hx
  | infinite s => cases hx
  | finite s m =>
    cases s with
    | false => exact hmagnitude m h
    | true =>
      rcases List.mem_cons.1 h with rfl | h
      · rfl
      · exact hmagnitude m h

namespace Constants

theorem expandAfter_of_onlyMarks {previous : Option Char} {cs : List Char}
    (h : OnlyMarks previous cs) (hpi : 'π' ∉ cs) : expandAfter previous cs = cs := by
  induction cs generalizing previous with
  | nil => rfl
  | cons c after ih =>
    have hc : c ≠ 'π' := by
      rintro rfl
      simp at hpi
    have heuler : c = 'e' → isEuler previous after = false := by
      rintro rfl
      simp [isEuler, h.1 rfl]
    rw [expandAfter_copy hc heuler, ih h.2 fun hmem => hpi (by simp [hmem])]

end Constants

namespace Calls

variable {A : Arithmetic} {depth : Nat} {previous : Option Char} {cs out : List Char}

theorem expandAfter_of_onlyMarks (h : OnlyMarks previous cs) :
    expandAfter A depth previous cs = .ok cs := by
  induction cs generalizing previous with
  | nil => rw [expandAfter]
  | cons c after ih =>
    rw [expandAfter_copy h.copied, ih h.2]
    rfl

theorem expandAfter_copy_eq_ok {c : Char} {after : List Char}
    (hc : c.isAlpha = false ∨ marksExponent previous (c :: after) = true) :
    expandAfter A depth previous (c :: after) = .ok out ↔
      ∃ rest, expandAfter A depth (some c) after = .ok rest ∧ c :: rest = out := by
  rw [expandAfter_copy hc, Fault.map_eq_ok]
  rfl

theorem expandAfter_splitCall_eq_ok {c : Char} {after : List Char} (hc : c.isAlpha = true)
    (hmark : marksExponent previous (c :: after) = false) :
    expandAfter A depth previous (c :: after) = .ok out ↔
      ∃ f inside behind value rest, splitCall depth (c :: after) = .ok (f, inside, behind) ∧
        callValue A (depth + 1) f inside = .ok value ∧
        expandAfter A depth (some ')') behind = .ok rest ∧
        '(' :: value.text ++ [')'] ++ rest = out := by
  simp only [expandAfter_splitCall hc hmark, Fault.bind_eq_ok, Fault.map_eq_ok, Prod.exists,
    List.append_assoc, List.singleton_append]
  constructor
  · rintro ⟨f, inside, behind, hsplit, value, hvalue, rest, hrest, hout⟩
    exact ⟨f, inside, behind, value, rest, hsplit, hvalue, hrest, hout⟩
  · rintro ⟨f, inside, behind, value, rest, hsplit, hvalue, hrest, hout⟩
    exact ⟨f, inside, behind, hsplit, value, hvalue, rest, hrest, hout⟩

theorem isPlain_of_mem_value {value : Number} (hvalue : value.isFinite = true) {c : Char}
    (h : c ∈ '(' :: value.text ++ [')']) : isPlain c = true := by
  simp only [List.cons_append, List.mem_cons, List.mem_append, List.not_mem_nil, or_false] at h
  rcases h with rfl | h | rfl
  · rfl
  · exact Number.isPlain_of_mem hvalue h
  · rfl

/-- A text with its calls replaced has no letters but marks. -/
theorem onlyMarks_expandAfter (h : expandAfter A depth previous cs = .ok out) :
    OnlyMarks previous out := by
  induction depth, previous, cs using text_induction generalizing out with
  | done depth previous =>
    rw [expandAfter] at h
    cases h
    trivial
  | copy depth previous c after hc ih =>
    obtain ⟨rest, hrest, rfl⟩ := (expandAfter_copy_eq_ok hc).1 h
    refine ⟨fun halpha => ?_, ih hrest⟩
    rcases hc with hc | hmark
    · rw [hc] at halpha
      cases halpha
    · simp only [marksExponent, Bool.and_eq_true] at hmark ⊢
      exact ⟨hmark.1, (copies_expandAfter A depth).startsExponent hrest hmark.2⟩
  | call depth previous c after halpha hmark ih =>
    obtain ⟨f, inside, behind, value, rest, hsplit, hvalue, hrest, rfl⟩ :=
      (expandAfter_splitCall_eq_ok halpha hmark).1 h
    have hbehind := (ih f inside behind hsplit).2 hrest
    have hplain : ∀ c ∈ '(' :: value.text ++ [')'], c.isAlpha = false := fun c hc =>
      isAlpha_of_isPlain (isPlain_of_mem_value (isFinite_of_callValue hvalue) hc)
    refine .append hplain previous ?_
    rw [List.getLast?_concat, Option.some_or]
    exact hbehind

theorem mem_expandAfter (h : expandAfter A depth previous cs = .ok out) {c : Char}
    (hc : c ∈ out) : c ∈ cs ∨ isPlain c = true := by
  induction depth, previous, cs using text_induction generalizing out with
  | done depth previous =>
    rw [expandAfter] at h
    cases h
    cases hc
  | copy depth previous d after hcopy ih =>
    obtain ⟨rest, hrest, rfl⟩ := (expandAfter_copy_eq_ok hcopy).1 h
    rcases List.mem_cons.1 hc with rfl | hc
    · exact .inl (by simp)
    · exact (ih hrest hc).imp_left (List.mem_cons_of_mem d)
  | call depth previous d after halpha hmark ih =>
    obtain ⟨f, inside, behind, value, rest, hsplit, hvalue, hrest, rfl⟩ :=
      (expandAfter_splitCall_eq_ok halpha hmark).1 h
    rcases List.mem_append.1 hc with hc | hc
    · exact .inr (isPlain_of_mem_value (isFinite_of_callValue hvalue) hc)
    · obtain ⟨_, _, heading, _, hcall⟩ := splitCall_eq_ok_iff.1 hsplit
      refine ((ih f inside behind hsplit).2 hrest hc).imp_left fun hbehind => ?_
      rw [hcall]
      simp [hbehind]

end Calls

end Calculator
