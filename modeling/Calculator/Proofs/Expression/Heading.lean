import Mathlib.Data.List.TakeWhile
import Calculator.Proofs.Expression.Parenthesis

set_option autoImplicit false

namespace Calculator

theorem toNat_of_isAlpha {c : Char} (h : c.isAlpha = true) :
    65 ≤ c.toNat ∧ c.toNat ≤ 90 ∨ 97 ≤ c.toNat ∧ c.toNat ≤ 122 := by
  rcases Bool.or_eq_true_iff.1 h with hupper | hlower
  · exact .inl (of_decide_eq_true hupper)
  · obtain ⟨hge, hle⟩ := Bool.and_eq_true_iff.1 hlower
    exact .inr ⟨of_decide_eq_true hge, of_decide_eq_true hle⟩

theorem isBlank_of_isAlpha {c : Char} (h : c.isAlpha = true) : isBlank c = false := by
  have hc := toNat_of_isAlpha h
  have hrest : inRanges c.toNat ((0x85, 0x85) :: blankRanges.drop 3) = false :=
    inRanges_of_lt _ (by omega)
  have hsecond : inRanges c.toNat ((0x20, 0x20) :: (0x85, 0x85) :: blankRanges.drop 3) = false := by
    rw [inRanges, hrest]
    split
    · rfl
    · simp
      omega
  show inRanges c.toNat ((0x9, 0xd) :: (0x20, 0x20) :: (0x85, 0x85) :: blankRanges.drop 3) = false
  rw [inRanges, hsecond]
  split
  · rfl
  · simp
    omega

theorem isAlpha_of_isBlank {c : Char} (h : isBlank c = true) : c.isAlpha = false :=
  Bool.eq_false_iff.2 fun halpha => by simp [isBlank_of_isAlpha halpha] at h

/-- What a call starts with: the name of a function, in letters of either case, and
blanks before the opening parenthesis. -/
structure Heading where
  name : List Char
  blanks : List Char
  function : Elementary
  isAlpha : ∀ c ∈ name, c.isAlpha = true
  name_eq : name.map Char.toLower = function.name
  isBlank : ∀ c ∈ blanks, isBlank c = true

namespace Heading

def text (h : Heading) : List Char := h.name ++ (h.blanks ++ ['('])

theorem exists_name_eq_cons (h : Heading) : ∃ c cs, h.name = c :: cs ∧ c.isAlpha = true := by
  have hne : h.function.name ≠ [] := by cases h.function <;> simp [Elementary.name]
  cases hname : h.name with
  | nil => exact absurd (by rw [← h.name_eq, hname]; rfl) hne
  | cons c cs => exact ⟨c, cs, rfl, h.isAlpha c (by simp [hname])⟩

end Heading

def Elementary.heading (f : Elementary) : Heading where
  name := f.name
  blanks := []
  function := f
  isAlpha := by cases f <;> exact List.all_eq_true.1 rfl
  name_eq := by cases f <;> rfl
  isBlank := by simp

theorem Elementary.call_eq (f : Elementary) (inside : List Char) :
    f.name ++ '(' :: inside ++ [')'] = f.heading.text ++ (inside ++ ')' :: []) := by
  simp [Heading.text, heading]

namespace Calls

theorem callee_text (h : Heading) (rest : List Char) :
    callee (h.text ++ rest) = .ok (h.function, rest) := by
  have htext : h.text ++ rest = h.name ++ (h.blanks ++ '(' :: rest) := by simp [Heading.text]
  have hbehind : ∀ c ∈ (h.blanks ++ '(' :: rest).head?, c.isAlpha = false := by
    intro c hc
    cases hblanks : h.blanks with
    | nil =>
      obtain rfl : c = '(' := by simpa [hblanks, eq_comm] using hc
      rfl
    | cons b bs =>
      obtain rfl : c = b := by simpa [hblanks, eq_comm] using hc
      exact isAlpha_of_isBlank (h.isBlank c (by simp [hblanks]))
  have hparenthesis : ∀ c ∈ ('(' :: rest).head?, isBlank c = false := by
    rintro _ ⟨⟩
    rfl
  obtain ⟨hname, hafter⟩ := span_append h.isAlpha hbehind
  obtain ⟨_, hopening⟩ := span_append h.isBlank hparenthesis
  simp only [callee, splitName, htext, hname, hafter, h.name_eq, h.function.ofName?_name,
    hopening]

theorem callee_eq_ok_iff {cs rest : List Char} {f : Elementary} :
    callee cs = .ok (f, rest) ↔ ∃ h : Heading, h.function = f ∧ cs = h.text ++ rest := by
  constructor
  · intro hcallee
    have hsplit := List.takeWhile_append_dropWhile (p := Char.isAlpha) (l := cs)
    have hblanks := List.takeWhile_append_dropWhile (p := isBlank) (l := cs.dropWhile Char.isAlpha)
    simp only [callee, splitName] at hcallee
    split at hcallee
    · cases hcallee
    · rename_i g hname
      split at hcallee
      · rename_i hopening
        cases hcallee
        let h : Heading := ⟨cs.takeWhile Char.isAlpha,
          (cs.dropWhile Char.isAlpha).takeWhile isBlank, f, fun _ => List.mem_takeWhile_imp,
          Elementary.eq_name_of_ofName? hname, fun _ => List.mem_takeWhile_imp⟩
        refine ⟨h, rfl, ?_⟩
        rw [hopening] at hblanks
        simp only [h, Heading.text, List.append_assoc, List.singleton_append, hblanks, hsplit]
      · cases hcallee
  · rintro ⟨h, rfl, rfl⟩
    exact callee_text h rest

/-- The call at the front of a text in a call of depth `depth`: its function, its
argument and the text behind it. -/
def splitCall (depth : Nat) (cs : List Char) :
    Except Fault (Elementary × List Char × List Char) := do
  let (f, rest) ← callee cs
  if Fault.maxCallDepth ≤ depth then .error .callsTooDeep
  else
    match closing? 0 rest with
    | none => .error (.unclosedCall f)
    | some (inside, behind) => .ok (f, inside, behind)

theorem splitCall_text (h : Heading) {depth : Nat} (hdepth : depth < Fault.maxCallDepth)
    {cs : List Char} (hcs : Matched cs) (rest : List Char) :
    splitCall depth (h.text ++ (cs ++ ')' :: rest)) = .ok (h.function, cs, rest) := by
  rw [splitCall, callee_text, Fault.ok_bind]
  dsimp only
  rw [if_neg (by omega), closing?_matched hcs]

theorem splitCall_eq_ok_iff {depth : Nat} {cs inside behind : List Char} {f : Elementary} :
    splitCall depth cs = .ok (f, inside, behind) ↔
      depth < Fault.maxCallDepth ∧ Matched inside ∧
        ∃ h : Heading, h.function = f ∧ cs = h.text ++ (inside ++ ')' :: behind) := by
  constructor
  · intro hsplit
    obtain ⟨⟨g, rest⟩, hcallee, hclose⟩ := Fault.bind_eq_ok.1 hsplit
    obtain ⟨h, rfl, rfl⟩ := callee_eq_ok_iff.1 hcallee
    dsimp only at hclose
    split at hclose
    · cases hclose
    · rename_i hdepth
      split at hclose
      · cases hclose
      · rename_i hclosing
        cases hclose
        rw [closing?_eq hclosing]
        exact ⟨by omega, matched_iff.2 (leaves_of_closing? hclosing), h, rfl, rfl⟩
  · rintro ⟨hdepth, hinside, h, rfl, rfl⟩
    exact splitCall_text h hdepth hinside behind

def callValue (A : Arithmetic) (depth : Nat) (f : Elementary) (argument : List Char) :
    Except Fault Number := do
  let expanded ← expandAfter A depth none argument
  let x ← infixValue A expanded
  f.apply A x

theorem isFinite_of_callValue {A : Arithmetic} {depth : Nat} {f : Elementary}
    {argument : List Char} {value : Number}
    (h : callValue A depth f argument = .ok value) : value.isFinite = true := by
  obtain ⟨_, _, h⟩ := Fault.bind_eq_ok.1 h
  obtain ⟨_, _, h⟩ := Fault.bind_eq_ok.1 h
  exact Elementary.isFinite_of_apply h

theorem expandAfter_splitCall {A : Arithmetic} {depth : Nat} {previous : Option Char} {c : Char}
    {after : List Char} (hc : c.isAlpha = true)
    (hmark : marksExponent previous (c :: after) = false) :
    expandAfter A depth previous (c :: after) =
      splitCall depth (c :: after) >>= fun (f, inside, behind) =>
        callValue A (depth + 1) f inside >>= fun value =>
          (expandAfter A depth (some ')') behind).map ('(' :: value.text ++ ')' :: ·) := by
  have hcopy : ¬(!c.isAlpha || marksExponent previous (c :: after)) = true := by
    simp [hc, hmark]
  rw [expandAfter, if_neg hcopy, splitCall]
  split
  · rename_i f hf
    rw [hf]
    rfl
  · rename_i f rest hf
    rw [hf, Fault.ok_bind]
    dsimp only
    split
    · rfl
    · split <;> rename_i hclosing <;> rw [hclosing]
      · rfl
      · simp only [callValue, bind_assoc, Fault.ok_bind]
        rfl

/-- A property of texts, with their depth and the character before them, holds of all
when it passes from the text behind a character to be copied, and from the argument and
the text behind a call, to the whole. -/
@[elab_as_elim]
theorem text_induction {motive : Nat → Option Char → List Char → Prop}
    (done : ∀ depth previous, motive depth previous [])
    (copy : ∀ depth previous c after,
      c.isAlpha = false ∨ marksExponent previous (c :: after) = true →
      motive depth (some c) after → motive depth previous (c :: after))
    (call : ∀ depth previous c after, c.isAlpha = true →
      marksExponent previous (c :: after) = false →
      (∀ f inside behind, splitCall depth (c :: after) = .ok (f, inside, behind) →
        motive (depth + 1) none inside ∧ motive depth (some ')') behind) →
      motive depth previous (c :: after))
    (depth : Nat) (previous : Option Char) (cs : List Char) : motive depth previous cs := by
  induction hn : cs.length using Nat.strong_induction_on generalizing depth previous cs with
  | h n ih =>
    cases cs with
    | nil => exact done depth previous
    | cons c after =>
      rw [List.length_cons] at hn
      have hafter : motive depth (some c) after := ih after.length (by omega) depth _ after rfl
      by_cases halpha : c.isAlpha = true
      · by_cases hmark : marksExponent previous (c :: after) = true
        · exact copy depth previous c after (.inr hmark) hafter
        · refine call depth previous c after halpha (by simpa using hmark) ?_
          intro f inside behind hsplit
          obtain ⟨_, _, h, _, htext⟩ := splitCall_eq_ok_iff.1 hsplit
          have hlength := congrArg List.length htext
          simp only [List.length_append, List.length_cons] at hlength
          have hinside := ih inside.length (by omega) (depth + 1) none inside rfl
          have hbehind := ih behind.length (by omega) depth (some ')') behind rfl
          exact ⟨hinside, hbehind⟩
      · exact copy depth previous c after (.inl (by simpa using halpha)) hafter

end Calls

end Calculator
