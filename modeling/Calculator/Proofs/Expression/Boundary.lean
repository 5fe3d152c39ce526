import Calculator.Proofs.Expression.Heading

set_option autoImplicit false

namespace Calculator

theorem eq_of_isExponentLetter {c : Char} (h : Decimal.isExponentLetter c = true) :
    c = 'e' ∨ c = 'E' := by
  simpa [Decimal.isExponentLetter] using h

theorem isExponentLetter_of_isPlain {c : Char} (h : isPlain c = true) :
    Decimal.isExponentLetter c = false := by
  refine Bool.eq_false_iff.2 fun hletter => ?_
  have halpha := Calls.isAlpha_of_isPlain h
  rcases eq_of_isExponentLetter hletter with rfl | rfl <;> cases halpha

theorem span_closing {p : Char → Bool} (hp : p ')' = false) (cs rest : List Char) :
    (cs ++ ')' :: rest).takeWhile p = cs.takeWhile p ∧
      (cs ++ ')' :: rest).dropWhile p = cs.dropWhile p ++ ')' :: rest := by
  induction cs with
  | nil => simp [hp]
  | cons c cs ih => by_cases hc : p c = true <;> simp [hc, ih]

def endsExponent (c : Char) : Bool := !c.isDigit && !Decimal.isSign c

theorem endsExponent_of_isAlpha {c : Char} (h : c.isAlpha = true) : endsExponent c = true := by
  have hdigit : c.isDigit = false := by
    refine Bool.eq_false_iff.2 fun hd => ?_
    simp [Calls.isAlpha_of_isDigit hd] at h
  have hsign : Decimal.isSign c = false := by
    refine Bool.eq_false_iff.2 fun hs => ?_
    rcases (by simpa [Decimal.isSign] using hs) with rfl | rfl <;> cases h
  simp [endsExponent, hdigit, hsign]

theorem endsExponent_closing (rest : List Char) :
    ∀ d ∈ (')' :: rest).head?, endsExponent d = true := by
  rintro _ ⟨⟩
  rfl

theorem startsExponent_append (cs : List Char) {ds : List Char}
    (h : ∀ d ∈ ds.head?, endsExponent d = true) :
    startsExponent (cs ++ ds) = startsExponent cs := by
  cases ds with
  | nil => rw [List.append_nil]
  | cons d ds =>
    obtain ⟨hdigit, hsign⟩ : d.isDigit = false ∧ Decimal.isSign d = false := by
      simpa [endsExponent] using h d rfl
    match cs with
    | [] => cases ds <;> simp [startsExponent, hdigit, hsign]
    | [c] => simp [startsExponent, hdigit]
    | c :: c' :: cs => rfl

theorem marksExponent_append (previous : Option Char) (c : Char) (cs : List Char)
    {ds : List Char} (h : ∀ d ∈ ds.head?, endsExponent d = true) :
    marksExponent previous (c :: (cs ++ ds)) = marksExponent previous (c :: cs) := by
  rw [marksExponent, marksExponent, startsExponent_append cs h]

theorem not_isAlpha_of_startsExponent {c : Char} {cs : List Char}
    (h : startsExponent (c :: cs) = true) : c.isAlpha = false := by
  refine Bool.eq_false_iff.2 fun halpha => ?_
  obtain ⟨hdigit, hsign⟩ : c.isDigit = false ∧ Decimal.isSign c = false := by
    simpa [endsExponent] using endsExponent_of_isAlpha halpha
  cases cs <;> simp [startsExponent, hdigit, hsign] at h

namespace Heading

theorem isExponentLetter_of_mem (h : Heading) {c : Char} (hc : c ∈ h.name) :
    Decimal.isExponentLetter c = false := by
  have hname : ∀ d ∈ h.function.name, d ≠ 'e' := by
    cases h.function <;> simp [Elementary.name]
  have hlower : c.toLower ≠ 'e' := by
    refine hname _ ?_
    rw [← h.name_eq]
    exact List.mem_map_of_mem hc
  refine Bool.eq_false_iff.2 fun hletter => ?_
  rcases eq_of_isExponentLetter hletter with rfl | rfl <;> exact hlower rfl

theorem marksExponent_text (h : Heading) (previous : Option Char) (rest : List Char) :
    marksExponent previous (h.text ++ rest) = false := by
  obtain ⟨c, cs, hname, _⟩ := h.exists_name_eq_cons
  have hc := h.isExponentLetter_of_mem (c := c) (by simp [hname])
  simp [text, hname, marksExponent, hc]

end Heading

namespace Constants

theorem isNameLetter_of_isAlpha {c : Char} (h : c.isAlpha = true) : isNameLetter c = true := by
  have hc := toNat_of_isAlpha h
  have hpi : c ≠ 'π' := by
    rintro rfl
    cases h
  have halphabetic : isAlphabetic c = true := by
    show inRanges c.toNat ((0x41, 0x5a) :: (0x61, 0x7a) :: alphabeticRanges.drop 2) = true
    rw [inRanges, inRanges]
    rcases hc with ⟨hge, hle⟩ | ⟨hge, hle⟩
    · rw [if_neg (by omega)]
      simp [hle]
    · rw [if_neg (by omega), if_neg (by omega)]
      simp [hle]
  simp [isNameLetter, halphabetic, hpi]

theorem isEuler_append (previous : Option Char) {cs ds : List Char}
    (h : ∀ d ∈ ds.head?, endsExponent d = true ∧ (cs = [] → isNameLetter d = false)) :
    isEuler previous (cs ++ ds) = isEuler previous cs := by
  have hhead : (cs ++ ds).head?.any isNameLetter = cs.head?.any isNameLetter := by
    cases cs with
    | cons c cs => rfl
    | nil =>
      cases ds with
      | nil => rfl
      | cons d ds => simpa using (h d rfl).2 rfl
  rw [isEuler, isEuler, hhead, marksExponent_append _ _ _ fun d hd => (h d hd).1]

/-- Constants are written out on the two sides of a cut by themselves, unless an `e`
before it has a letter behind it. -/
theorem expandAfter_cut {cs ds : List Char}
    (h : ∀ d ∈ ds.head?, endsExponent d = true ∧
      (cs.getLast? = some 'e' → isNameLetter d = false)) (previous : Option Char) :
    expandAfter previous (cs ++ ds) =
      expandAfter previous cs ++ expandAfter (cs.getLast?.or previous) ds := by
  induction cs generalizing previous with
  | nil => rfl
  | cons c cs ih =>
    have hlast : cs ≠ [] → (c :: cs).getLast? = cs.getLast? := fun hne => by
      cases cs with
      | nil => exact absurd rfl hne
      | cons d cs => exact List.getLast?_cons_cons
    have hrest : ∀ d ∈ ds.head?, endsExponent d = true ∧
        (cs.getLast? = some 'e' → isNameLetter d = false) := by
      refine fun d hd => ⟨(h d hd).1, fun he => (h d hd).2 ?_⟩
      rwa [hlast (by rintro rfl; cases he)]
    have heuler : c = 'e' → isEuler previous (cs ++ ds) = isEuler previous cs := by
      rintro rfl
      refine isEuler_append previous fun d hd => ⟨(h d hd).1, fun hnil => (h d hd).2 ?_⟩
      rw [hnil]
      rfl
    have hiff : c = 'e' ∧ isEuler previous (cs ++ ds) = true ↔
        c = 'e' ∧ isEuler previous cs = true := and_congr_right fun hc => by rw [heuler hc]
    simp only [List.cons_append, expandAfter, hiff, ih hrest, getLast?_cons_or,
      List.append_assoc]

theorem expandAfter_of_head {cs : List Char} (h : ∀ c ∈ cs.head?, c ≠ 'e')
    (previous : Option Char) : expandAfter previous cs = expandAfter none cs := by
  cases cs with
  | nil => rfl
  | cons c cs => simp only [expandAfter, h c rfl, false_and]

theorem expandAfter_of_previous {previous : Option Char}
    (hname : previous.any isNameLetter = false)
    (hliteral : previous.any isLiteralCharacter = false) (cs : List Char) :
    expandAfter previous cs = expandAfter none cs := by
  cases cs with
  | nil => rfl
  | cons c cs =>
    have heuler : isEuler previous cs = isEuler none cs := by
      simp [isEuler, marksExponent, hname, hliteral]
    rw [expandAfter, expandAfter, heuler]

theorem expandAfter_closing (previous : Option Char) (cs rest : List Char) :
    expandAfter previous (cs ++ ')' :: rest) =
      expandAfter previous cs ++ ')' :: expandAfter none rest := by
  have hname : isNameLetter ')' = false := isNameLetter_behind (.closing rest)
  have hcut : ∀ d ∈ (')' :: rest).head?, endsExponent d = true ∧
      (cs.getLast? = some 'e' → isNameLetter d = false) := by
    rintro _ ⟨⟩
    exact ⟨rfl, fun _ => hname⟩
  have hrest : expandAfter (some ')') rest = expandAfter none rest :=
    expandAfter_of_previous (isNameLetter_behind (.closing rest)) rfl rest
  rw [expandAfter_cut hcut, expandAfter_copy (by decide) fun h => absurd h (by decide), hrest]

theorem heading_ne {h : Heading} {c : Char} (hc : c ∈ h.text) : c ≠ 'π' ∧ c ≠ 'e' := by
  rcases List.mem_append.1 hc with hc | hc
  · constructor
    · rintro rfl
      cases h.isAlpha _ hc
    · rintro rfl
      cases h.isExponentLetter_of_mem hc
  · rcases List.mem_append.1 hc with hc | hc
    · have hb := h.isBlank c hc
      constructor <;> rintro rfl <;> cases hb
    · obtain rfl := List.mem_singleton.1 hc
      decide

theorem getLast?_heading (h : Heading) : h.text.getLast? = some '(' := by
  simp [Heading.text]

theorem expandAfter_call (previous : Option Char) (h : Heading) (cs rest : List Char) :
    expandAfter previous (h.text ++ (cs ++ ')' :: rest)) =
      h.text ++ (expand cs ++ ')' :: expandAfter none rest) := by
  have hprevious : expandAfter (some '(') cs = expand cs :=
    expandAfter_of_previous (isNameLetter_before .opening) rfl cs
  rw [expandAfter_append fun c => heading_ne, getLast?_heading, Option.some_or,
    expandAfter_closing, hprevious]

end Constants

namespace Calls

theorem expandAfter_of_marksExponent {previous : Option Char} {cs : List Char}
    (h : marksExponent previous cs = false) (A : Arithmetic) (depth : Nat) :
    expandAfter A depth previous cs = expandAfter A depth none cs := by
  cases cs with
  | nil => rw [expandAfter, expandAfter]
  | cons c cs =>
    have hnone : marksExponent none (c :: cs) = false := by simp [marksExponent]
    by_cases hc : c.isAlpha = true
    · rw [expandAfter_splitCall hc h, expandAfter_splitCall hc hnone]
    · rw [expandAfter_copy (.inl (by simpa using hc)), expandAfter_copy (.inl (by simpa using hc))]

theorem expandAfter_parenthesis (A : Arithmetic) (depth : Nat) (cs : List Char) :
    expandAfter A depth (some ')') cs = expandAfter A depth none cs := by
  have hclosing : (some ')').any isLiteralCharacter = false := rfl
  exact expandAfter_of_marksExponent (marksExponent_of_previous hclosing cs) A depth

theorem expandAfter_heading (A : Arithmetic) {depth : Nat} (hdepth : depth < Fault.maxCallDepth)
    (previous : Option Char) (h : Heading) {cs : List Char} (hcs : Matched cs)
    (rest : List Char) : expandAfter A depth previous (h.text ++ (cs ++ ')' :: rest)) =
      callValue A (depth + 1) h.function cs >>= fun value =>
        (expandAfter A depth none rest).map ('(' :: value.text ++ ')' :: ·) := by
  have hmark := h.marksExponent_text previous (cs ++ ')' :: rest)
  have hsplit := splitCall_text h hdepth hcs rest
  obtain ⟨c, name, hname, hc⟩ := h.exists_name_eq_cons
  rw [Heading.text, hname, List.cons_append, List.cons_append] at hmark hsplit ⊢
  rw [expandAfter_splitCall hc hmark, hsplit, Fault.ok_bind]
  simp only [expandAfter_parenthesis]

theorem callee_closing (cs rest : List Char) : callee (cs ++ ')' :: rest) =
    (callee cs).map fun (f, inside) => (f, inside ++ ')' :: rest) := by
  obtain ⟨hname, hbehind⟩ := span_closing (p := Char.isAlpha) rfl cs rest
  obtain ⟨_, hblanks⟩ := span_closing (p := isBlank) rfl (cs.dropWhile Char.isAlpha) rest
  simp only [callee, splitName, hname, hbehind, hblanks]
  cases Elementary.ofName? ((cs.takeWhile Char.isAlpha).map Char.toLower) with
  | none => rfl
  | some f =>
    cases (cs.dropWhile Char.isAlpha).dropWhile isBlank with
    | nil => rfl
    | cons c inside =>
      by_cases hc : c = '('
      · subst hc
        rfl
      · dsimp only [List.cons_append]
        split
        · rename_i hcons
          cases hcons
          exact absurd rfl hc
        · split
          · rename_i hcons
            cases hcons
            exact absurd rfl hc
          · rfl

theorem leaves_heading (h : Heading) (n : Nat) : Leaves n (n + 1) h.text := by
  have hname : Leaves n n h.name := .of_forall_ne fun c hc => by
    have halpha := h.isAlpha c hc
    constructor <;> rintro rfl <;> cases halpha
  have hblanks : Leaves n n h.blanks := .of_forall_ne fun c hc => by
    have hblank := h.isBlank c hc
    constructor <;> rintro rfl <;> cases hblank
  exact hname.append (hblanks.append (Leaves.opening_iff.2 (Leaves.nil_iff.2 rfl)))

theorem leaves_splitCall {depth n : Nat} {cs inside behind : List Char} {f : Elementary}
    (hsplit : splitCall depth cs = .ok (f, inside, behind)) (h : Leaves n 0 cs) :
    Leaves n 0 behind := by
  obtain ⟨_, hinside, heading, _, rfl⟩ := splitCall_eq_ok_iff.1 hsplit
  have hargument := (leaves_heading heading n).of_append h
  obtain ⟨k, hk, hbehind⟩ := Leaves.closing_iff.1 ((hinside.leaves (n + 1)).of_append hargument)
  obtain rfl : k = n := by omega
  exact hbehind

/-- A text that leaves no parenthesis open has no call, or a whole one, at its front. -/
theorem callee_error_or {n : Nat} {cs : List Char} (h : Leaves n 0 cs) :
    (∃ f, callee cs = .error f) ∨ ∃ (heading : Heading) (inside behind : List Char),
      Matched inside ∧ cs = heading.text ++ (inside ++ ')' :: behind) := by
  cases hcallee : callee cs with
  | error f => exact .inl ⟨f, rfl⟩
  | ok parts =>
    obtain ⟨f, argument⟩ := parts
    obtain ⟨heading, _, rfl⟩ := callee_eq_ok_iff.1 hcallee
    have hargument : Leaves (0 + 1 + n) 0 argument := by
      rw [Nat.zero_add, Nat.add_comm]
      exact (leaves_heading heading n).of_append h
    obtain ⟨inside, behind, hclosing⟩ := exists_closing? hargument
    exact .inr ⟨heading, inside, behind, matched_iff.2 (leaves_of_closing? hclosing),
      by rw [closing?_eq hclosing]⟩

theorem splitCall_closing {depth n : Nat} {cs : List Char} (h : Leaves n 0 cs)
    (rest : List Char) : splitCall depth (cs ++ ')' :: rest) =
      (splitCall depth cs).map fun (f, inside, behind) => (f, inside, behind ++ ')' :: rest) := by
  rcases callee_error_or h with ⟨f, hcallee⟩ | ⟨heading, inside, behind, hinside, rfl⟩
  · rw [splitCall, splitCall, callee_closing, hcallee]
    rfl
  · have htext : heading.text ++ (inside ++ ')' :: behind) ++ ')' :: rest =
        heading.text ++ (inside ++ ')' :: (behind ++ ')' :: rest)) := by simp
    rw [htext]
    by_cases hdepth : depth < Fault.maxCallDepth
    · rw [splitCall_text heading hdepth hinside, splitCall_text heading hdepth hinside]
      rfl
    · have hdeep : Fault.maxCallDepth ≤ depth := by omega
      simp only [splitCall, callee_text, Fault.ok_bind, if_pos hdeep]
      rfl

theorem expandAfter_closing {A : Arithmetic} {depth n : Nat} {previous : Option Char}
    {cs : List Char} (h : Leaves n 0 cs) (rest : List Char) :
    expandAfter A depth previous (cs ++ ')' :: rest) =
      expandAfter A depth previous cs >>= fun xs =>
        (expandAfter A depth none rest).map (xs ++ ')' :: ·) := by
  have hclosing := endsExponent_closing rest
  induction depth, previous, cs using text_induction generalizing n with
  | done depth previous =>
    rw [List.nil_append, expandAfter_copy (.inl rfl), expandAfter_parenthesis, expandAfter,
      Fault.ok_bind]
    rfl
  | copy depth previous c after hc ih =>
    obtain ⟨k, _, hafter⟩ := Leaves.cons_iff.1 h
    have hcopy : c.isAlpha = false ∨
        marksExponent previous (c :: (after ++ ')' :: rest)) = true := by
      rwa [marksExponent_append previous c after hclosing]
    rw [List.cons_append, expandAfter_copy hcopy, ih hafter, expandAfter_copy hc]
    cases expandAfter A depth (some c) after with
    | error f => rfl
    | ok xs => cases expandAfter A depth none rest <;> rfl
  | call depth previous c after halpha hmark ih =>
    have hcall : splitCall depth _ = _ := splitCall_closing h rest
    have hmark' : marksExponent previous (c :: (after ++ ')' :: rest)) = false := by
      rwa [marksExponent_append previous c after hclosing]
    rw [List.cons_append] at hcall ⊢
    rw [expandAfter_splitCall halpha hmark', expandAfter_splitCall halpha hmark, hcall]
    cases hsplit : splitCall depth (c :: after) with
    | error f => rfl
    | ok parts =>
      obtain ⟨f, inside, behind⟩ := parts
      have hbehind := (ih f inside behind hsplit).2 (leaves_splitCall hsplit h)
      simp only [Except.map, Fault.ok_bind]
      cases callValue A (depth + 1) f inside with
      | error g => rfl
      | ok value =>
        rw [Fault.ok_bind, Fault.ok_bind, hbehind]
        cases expandAfter A depth (some ')') behind with
        | error g => rfl
        | ok xs => cases expandAfter A depth none rest <;> simp [Except.map]

end Calls

end Calculator
