import Calculator.Evaluate
import Calculator.Proofs.Expression.Marks

/-! The text that a pass leaves is final. Main statement: neither pass finds anything to
do in a text that it has written, names keep their letters, and a text with its
constants and calls written out has the value of the one it was made from. -/

set_option autoImplicit false

namespace Calculator

namespace Constants

theorem ne_of_isPlain {c : Char} (h : isPlain c = true) : c ≠ 'π' ∧ c ≠ 'e' := by
  constructor <;> rintro rfl <;> cases h

theorem isPlain_of_mem_pi {c : Char} (h : c ∈ pi) : isPlain c = true :=
  List.all_eq_true.1 (show pi.all isPlain = true by decide) c h

theorem isPlain_of_mem_euler {c : Char} (h : c ∈ euler) : isPlain c = true :=
  List.all_eq_true.1 (show euler.all isPlain = true by decide) c h

/-- Whether no constant is left in a text behind the character `previous`. -/
def Done (previous : Option Char) : List Char → Prop
  | [] => True
  | c :: after =>
    c ≠ 'π' ∧ (c = 'e' → isEuler previous after = false) ∧ Done (some c) after

namespace Done

theorem expandAfter_eq {previous : Option Char} {cs : List Char} (h : Done previous cs) :
    expandAfter previous cs = cs := by
  induction cs generalizing previous with
  | nil => rfl
  | cons c after ih =>
    obtain ⟨hpi, he, hafter⟩ := h
    rw [expandAfter_copy hpi he, ih hafter]

theorem pi_not_mem {previous : Option Char} {cs : List Char} (h : Done previous cs) :
    'π' ∉ cs := by
  induction cs generalizing previous with
  | nil => simp
  | cons c after ih => simpa [eq_comm] using ⟨h.1, ih h.2.2⟩

theorem append {cs ds : List Char} (hcs : ∀ c ∈ cs, isPlain c = true) {previous : Option Char}
    (hds : Done (cs.getLast?.or previous) ds) : Done previous (cs ++ ds) := by
  induction cs generalizing previous with
  | nil => exact hds
  | cons c cs ih =>
    obtain ⟨hpi, he⟩ := ne_of_isPlain (hcs c (by simp))
    refine ⟨hpi, fun h => absurd h he, ih (fun d hd => hcs d (by simp [hd])) ?_⟩
    rwa [getLast?_cons_or] at hds

end Done

theorem isNameLetter_e : isNameLetter 'e' = true := isNameLetter_of_isAlpha rfl

theorem isNameLetter_head_expandAfter {cs : List Char} (h : cs.head?.any isNameLetter = true) :
    (expandAfter (some 'e') cs).head?.any isNameLetter = true := by
  cases cs with
  | nil => cases h
  | cons c after =>
    have hc : isNameLetter c = true := h
    have hpi : c ≠ 'π' := by
      rintro rfl
      simp [isNameLetter] at hc
    rw [expandAfter_copy hpi fun _ => by simp [isEuler, isNameLetter_e]]
    exact hc

/-- An `e` that was no constant is none in the text written out. -/
theorem isEuler_expandAfter {previous : Option Char} {after : List Char}
    (h : isEuler previous after = false) :
    isEuler previous (expandAfter (some 'e') after) = false := by
  refine Bool.eq_false_iff.2 fun heuler => ?_
  simp only [isEuler, Bool.and_eq_true, Bool.not_eq_true'] at heuler
  obtain ⟨⟨hprevious, hbehind⟩, hmark⟩ := heuler
  have hbehind' : after.head?.any isNameLetter = false := by
    refine Bool.eq_false_iff.2 fun hname => ?_
    simp [isNameLetter_head_expandAfter hname] at hbehind
  have hmark' : marksExponent previous ('e' :: after) = false := by
    refine Bool.eq_false_iff.2 fun hm => ?_
    simp only [marksExponent, Bool.and_eq_true] at hm
    simp [marksExponent, hm.1.1, hm.1.2, copies_pass.startsExponent rfl hm.2] at hmark
  simp [isEuler, hprevious, hbehind', hmark'] at h

theorem done_expandAfter {previous previous' : Option Char} {cs : List Char}
    (hliteral : previous.any isLiteralCharacter = previous'.any isLiteralCharacter)
    (hname : cs.head?.any isNameLetter = true →
      previous.any isNameLetter = previous'.any isNameLetter) :
    Done previous' (expandAfter previous cs) := by
  have hclosing : isNameLetter ')' = false := isNameLetter_behind (.closing [])
  induction cs generalizing previous previous' with
  | nil => trivial
  | cons c after ih =>
    rw [expandAfter]
    split
    · -- What follows stands behind the parenthesis now, which no name or literal has either.
      subst c
      refine .append (fun d => isPlain_of_mem_pi) (ih rfl fun _ => ?_)
      show isNameLetter 'π' = isNameLetter ')'
      rw [hclosing]
      simp [isNameLetter]
    · rename_i hpi
      split
      · rename_i heuler
        obtain ⟨rfl, heuler⟩ := heuler
        refine .append (fun d => isPlain_of_mem_euler) (ih rfl fun hbehind => ?_)
        simp [isEuler, hbehind] at heuler
      · rename_i heuler
        refine ⟨hpi, ?_, ih rfl fun _ => rfl⟩
        rintro rfl
        have hsame : isEuler previous' after = isEuler previous after := by
          rw [isEuler, isEuler, marksExponent, marksExponent, hliteral, hname isNameLetter_e]
        exact isEuler_expandAfter (hsame.trans (by simpa using heuler))

theorem done_expand (cs : List Char) : Done none (expand cs) := done_expandAfter rfl fun _ => rfl

theorem expandAfter_run {run : List Char} (hrun : ∀ c ∈ run, c.isAlpha = true)
    {previous : Option Char} (h : 2 ≤ run.length ∨ previous.any Char.isAlpha = true)
    (behind : List Char) :
    expandAfter previous (run ++ behind) =
      run ++ expandAfter (run.getLast?.or previous) behind := by
  induction run generalizing previous with
  | nil => rfl
  | cons c run ih =>
    have hc : c.isAlpha = true := hrun c (by simp)
    have hpi : c ≠ 'π' := by
      rintro rfl
      cases hc
    have heuler : isEuler previous (run ++ behind) = false := by
      rcases h with hlength | hprevious
      · cases run with
        | nil => simp at hlength
        | cons d run => simp [isEuler, isNameLetter_of_isAlpha (hrun d (by simp))]
      · cases previous with
        | none => cases hprevious
        | some d =>
          have hd : d.isAlpha = true := hprevious
          simp [isEuler, isNameLetter_of_isAlpha hd]
    have hletter : (some c).any Char.isAlpha = true := hc
    rw [List.cons_append, expandAfter_copy hpi fun _ => heuler,
      ih (fun d hd => hrun d (by simp [hd])) (.inr hletter), getLast?_cons_or]
    rfl

theorem expand_run {front run behind : List Char} (hlength : 2 ≤ run.length)
    (hrun : ∀ c ∈ run, c.isAlpha = true) (hfront : front.getLast?.any Char.isAlpha = false)
    (hbehind : behind.head?.any Char.isAlpha = false) :
    expand (front ++ run ++ behind) = expand front ++ run ++ expand behind := by
  have hcut : ∀ d ∈ (run ++ behind).head?, endsExponent d = true ∧
      (front.getLast? = some 'e' → isNameLetter d = false) := by
    intro d hd
    have halpha : d.isAlpha = true := by
      cases run with
      | nil => simp at hlength
      | cons c run =>
        obtain rfl : d = c := by simpa [eq_comm] using hd
        exact hrun d (by simp)
    refine ⟨endsExponent_of_isAlpha halpha, fun he => ?_⟩
    rw [he] at hfront
    cases hfront
  have hhead : ∀ c ∈ behind.head?, c ≠ 'e' := by
    rintro c hc rfl
    rw [hc] at hbehind
    cases hbehind
  rw [expand, List.append_assoc, expandAfter_cut hcut, expandAfter_run hrun (.inl hlength),
    expandAfter_of_head hhead, List.append_assoc]
  rfl

end Constants

/-- No pass reads anything new into the text of an earlier one, its own included. -/
theorem stable_expand (A : Arithmetic) (cs : List Char) :
    'π' ∉ Constants.expand cs ∧
      (∀ front run behind, cs = front ++ run ++ behind → 2 ≤ run.length →
        (∀ c ∈ run, c.isAlpha = true) → front.getLast?.any Char.isAlpha = false →
        behind.head?.any Char.isAlpha = false →
        Constants.expand cs = Constants.expand front ++ run ++ Constants.expand behind) ∧
      Constants.expand (Constants.expand cs) = Constants.expand cs ∧
      ∀ text, Calls.expand A (Constants.expand cs) = .ok text →
        Calls.expand A text = .ok text ∧ Constants.expand text = text ∧
          evaluateWith A text = evaluateWith A cs := by
  have hdone := Constants.done_expand cs
  refine ⟨hdone.pi_not_mem, ?_, hdone.expandAfter_eq, fun text htext => ?_⟩
  · rintro front run behind rfl hlength hrun hfront hbehind
    exact Constants.expand_run hlength hrun hfront hbehind
  · have hmarks : OnlyMarks none text := Calls.onlyMarks_expandAfter htext
    have hpi : 'π' ∉ text := by
      intro hmem
      rcases Calls.mem_expandAfter htext hmem with hmem | hplain
      · exact hdone.pi_not_mem hmem
      · cases hplain
    have hcalls : Calls.expand A text = .ok text := Calls.expandAfter_of_onlyMarks hmarks
    have hconstants : Constants.expand text = text :=
      Constants.expandAfter_of_onlyMarks hmarks hpi
    refine ⟨hcalls, hconstants, ?_⟩
    rw [evaluateWith, evaluateWith, hconstants, hcalls, htext]

/-- The `e` of an exponent stays, the constant does not, and a name keeps its letters. -/
theorem stable_expand_mark :
    Constants.expand "2e3+e×ln(4)".toList =
        Constants.expand "2e3+e×".toList ++ "ln".toList ++ Constants.expand "(4)".toList ∧
      evaluateWith ⟨Number.neg, fun _ x _ => x, fun _ x => x⟩
          "2e3+(2.718281828459045)×(4)".toList =
        evaluateWith ⟨Number.neg, fun _ x _ => x, fun _ x => x⟩ "2e3+e×ln(4)".toList := by
  obtain ⟨_, hrun, _, hcalls⟩ :=
    stable_expand ⟨Number.neg, fun _ x _ => x, fun _ x => x⟩ "2e3+e×ln(4)".toList
  have htext : Calls.expand ⟨Number.neg, fun _ x _ => x, fun _ x => x⟩
      (Constants.expand "2e3+e×ln(4)".toList) = .ok "2e3+(2.718281828459045)×(4)".toList :=
    eq_ok_of_toOption (by decide +kernel)
  exact ⟨hrun "2e3+e×".toList "ln".toList "(4)".toList rfl le_rfl (List.all_eq_true.1 rfl) rfl rfl,
    (hcalls _ htext).2.2⟩

end Calculator
