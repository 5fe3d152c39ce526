import Mathlib.Data.List.Basic
import Calculator.Window.Frame

set_option autoImplicit false

namespace Calculator

namespace Screen

def clearLabel (s : State) : List Char :=
  if s.clearArmed then "Confirmer le vidage ?".toList else "Vider l’historique".toList

def scientificLabels : List (List Char) :=
  ["sin", "cos", "tan", "log", "ln",
    "√", "x²", "x³", "x^y", "!",
    "π", "e", "%", "+/-"].map String.toList

def mainLabels : List (List Char) :=
  ["C", "DEL", "(", ")",
    "7", "8", "9", "÷",
    "4", "5", "6", "×",
    "1", "2", "3", "-",
    "0", ".", "=", "+"].map String.toList

/-- The labels on the screen of a state, in drawing order. -/
def shownLabels (s : State) : List (List Char) :=
  (if s.historyOpen then [clearLabel s] else []) ++
    [if s.preferences.theme = .dark then "Thème clair".toList else "Thème sombre".toList,
      "Scientifique".toList, "Son".toList, "Historique".toList,
      if s.copiedUntil.isSome then "Copié".toList else "Copier".toList,
      "MC".toList, "MR".toList, "M+".toList, "M-".toList] ++
    (if s.preferences.mode = .scientific then scientificLabels else []) ++ mainLabels

/-- An empty history is not to be cleared; every other button is in use. -/
def disabledLabels (s : State) : List (List Char) :=
  if s.historyOpen = true ∧ s.history = [] then [clearLabel s] else []

end Screen

def Key.keyboard : List (List Char × Key) :=
  [("Enter".toList, .equals), ("Escape".toList, .clear), ("Backspace".toList, .delete)]

namespace Button

def labelledWords : List (List Char × Operation) :=
  [("Vider l’historique".toList, .requestClear), ("Confirmer le vidage ?".toList, .requestClear),
    ("Thème clair".toList, .toggleTheme), ("Thème sombre".toList, .toggleTheme),
    ("Scientifique".toList, .toggleMode), ("Son".toList, .toggleSound),
    ("Historique".toList, .toggleHistory), ("Copier".toList, .copy), ("Copié".toList, .copy),
    ("MC".toList, .memory .clear), ("MR".toList, .memory .fetch), ("M+".toList, .memory .add),
    ("M-".toList, .memory .subtract),
    ("sin".toList, .press (.function (.elementary .sin))),
    ("cos".toList, .press (.function (.elementary .cos))),
    ("tan".toList, .press (.function (.elementary .tan))),
    ("log".toList, .press (.function (.elementary .log))),
    ("ln".toList, .press (.function (.elementary .ln))),
    ("√".toList, .press (.function (.elementary .sqrt))),
    ("x²".toList, .press (.function .square)), ("x³".toList, .press (.function .cube)),
    ("x^y".toList, .press .power), ("!".toList, .press (.function .factorial)),
    ("π".toList, .press .pi), ("e".toList, .press .euler),
    ("%".toList, .press (.function .percent)), ("+/-".toList, .press (.function .opposite)),
    ("C".toList, .press .clear), ("DEL".toList, .press .delete), ("(".toList, .press .opening),
    (")".toList, .press .closing), ("÷".toList, .press (.operator .divide)),
    ("×".toList, .press (.operator .times)), ("-".toList, .press (.operator .minus)),
    (".".toList, .press .point), ("=".toList, .press .equals),
    ("+".toList, .press (.operator .plus))]

/-- What is written on the buttons, and what a press then does. -/
def labelled : List (List Char × Operation) :=
  labelledWords ++ (List.finRange 10).map fun d => (Nat.toDigits 10 d.val, .press (.digit d))

/-- What is written on the buttons, and the state that a press then leaves. -/
def outcomes (now : Number) (s : State) : List (List Char × State) :=
  [("Vider l’historique".toList, s.requestClear), ("Confirmer le vidage ?".toList, s.requestClear),
    ("Thème clair".toList, s.toggleTheme), ("Thème sombre".toList, s.toggleTheme),
    ("Scientifique".toList, s.toggleMode), ("Son".toList, s.toggleSound),
    ("Historique".toList, s.toggleHistory), ("Copier".toList, s.copy now),
    ("Copié".toList, s.copy now),
    ("MC".toList, s.useMemory .clear now), ("MR".toList, s.useMemory .fetch now),
    ("M+".toList, s.useMemory .add now), ("M-".toList, s.useMemory .subtract now),
    ("sin".toList, s.enter "sin(".toList), ("cos".toList, s.enter "cos(".toList),
    ("tan".toList, s.enter "tan(".toList), ("log".toList, s.enter "log(".toList),
    ("ln".toList, s.enter "ln(".toList), ("√".toList, s.enter "sqrt(".toList),
    ("x²".toList, s.applyToTotal .square now), ("x³".toList, s.applyToTotal .cube now),
    ("x^y".toList, s.enter "^".toList), ("!".toList, s.applyToTotal .factorial now),
    ("π".toList, s.enterConstant "π".toList), ("e".toList, s.enterConstant "e".toList),
    ("%".toList, s.applyToTotal .percent now), ("+/-".toList, s.applyToTotal .opposite now),
    ("C".toList, s.clear), ("DEL".toList, s.delete), ("(".toList, s.enterOperator '('),
    (")".toList, s.enterOperator ')'), ("÷".toList, s.enterOperator '÷'),
    ("×".toList, s.enterOperator '×'), ("-".toList, s.enterOperator '-'),
    (".".toList, s.enter ".".toList), ("=".toList, s.calculate now),
    ("+".toList, s.enterOperator '+'),
    ("0".toList, s.enter "0".toList), ("1".toList, s.enter "1".toList),
    ("2".toList, s.enter "2".toList), ("3".toList, s.enter "3".toList),
    ("4".toList, s.enter "4".toList), ("5".toList, s.enter "5".toList),
    ("6".toList, s.enter "6".toList), ("7".toList, s.enter "7".toList),
    ("8".toList, s.enter "8".toList), ("9".toList, s.enter "9".toList)]

theorem map_perform_labelled (now : Number) (s : State) :
    labelled.map (fun x => (x.1, x.2.perform now s)) = outcomes now s :=
  rfl

end Button

def Key.outcomes (now : Number) (s : State) : List (List Char × State) :=
  [("Enter".toList, s.calculate now), ("Escape".toList, s.clear), ("Backspace".toList, s.delete)]

theorem Key.map_press_keyboard (now : Number) (s : State) :
    keyboard.map (fun x => (x.1, x.2.press now s)) = outcomes now s :=
  rfl

/-- The operations that an event stands for on the screen of a state: that of a label, if it
is shown and in use, that of a row of the open panel, and one for each typed character. -/
def Event.operations (s : State) : Event → List Operation
  | .click b =>
    if b.label s ∈ Screen.shownLabels s ∧ b.label s ∉ Screen.disabledLabels s then
      (Button.labelled.lookup (b.label s)).toList
    else []
  | .row index => if s.historyOpen = true ∧ index < s.history.length then [.reuse index] else []
  | .typed text => text.map .type
  | .key none => []
  | .key (some k) => [.press k]

namespace Button

/-- The sign of a power is on no button: the key of a power is labelled otherwise. -/
theorem lookup_label (s : State) (b : Button) :
    labelled.lookup (b.label s) =
      if b = .key (.operator .power) then none else some b.operation := by
  cases b with
  | clearHistory =>
    show labelled.lookup (if s.clearArmed then _ else _) = _
    split <;> rfl
  | theme =>
    unfold label
    cases s.preferences.theme <;> rfl
  | copy =>
    show labelled.lookup (if s.copiedUntil.isSome then _ else _) = _
    split <;> rfl
  | memory k => cases k <;> rfl
  | key k =>
    cases k with
    | digit d =>
      show labelled.lookup (Key.label (.digit d)) = some (.press (.digit d))
      revert d
      decide +kernel
    | operator op => cases op <;> rfl
    | function f =>
      cases f with
      | elementary f => cases f <;> rfl
      | _ => rfl
    | _ => rfl
  | _ => rfl

theorem operation_injective : Function.Injective operation := by
  intro b c h
  cases b <;> cases c <;> cases h <;> rfl

theorem label_injective (s : State) : Function.Injective (label s) := by
  intro b c h
  have hlookup := lookup_label s b
  rw [h, lookup_label] at hlookup
  split at hlookup <;> split at hlookup
  next hc hb => rw [hb, hc]
  · cases hlookup
  · cases hlookup
  · exact operation_injective (Option.some.inj hlookup).symm

theorem map_label_shown (s : State) : (shown s).map (·.label s) = Screen.shownLabels s := by
  have htheme : label s .theme =
      if s.preferences.theme = .dark then "Thème clair".toList else "Thème sombre".toList := by
    unfold label
    cases s.preferences.theme <;> rfl
  unfold shown Screen.shownLabels
  rw [← htheme]
  split <;> split <;> rfl

theorem exists_shown_eq (s : State) :
    ∃ rest, shown s = (if s.historyOpen then [clearHistory] else []) ++ rest ∧
      clearHistory ∉ rest := by
  refine ⟨topBar ++ ([copy] ++ (memoryRow ++
    ((if s.preferences.mode = .scientific then scientificPad else []) ++ mainPad))), ?_, ?_⟩
  · simp only [shown, List.append_assoc]
  · split <;> decide

theorem map_label_disabled (s : State) :
    ((shown s).filter (!·.enabled s)).map (·.label s) = Screen.disabledLabels s := by
  have hothers {bs : List Button} (h : .clearHistory ∉ bs) : bs.filter (!·.enabled s) = [] :=
    List.filter_eq_nil_iff.2 fun b hb => by
      rw [enabled_of_ne (fun hclear => h (hclear ▸ hb)) s]
      exact Bool.false_ne_true
  obtain ⟨rest, hshown, hrest⟩ := exists_shown_eq s
  rw [hshown, List.filter_append, hothers hrest, List.append_nil]
  unfold Screen.disabledLabels
  by_cases hopen : s.historyOpen = true
  · rw [if_pos hopen]
    by_cases hempty : s.history = []
    · have henabled : clearHistory.enabled s = false :=
        Bool.eq_false_iff.2 fun h => enabled_clearHistory_iff.1 h hempty
      rw [if_pos ⟨hopen, hempty⟩, List.filter_cons_of_pos (by rw [henabled]; rfl)]
      rfl
    · have henabled : clearHistory.enabled s = true := enabled_clearHistory_iff.2 hempty
      rw [if_neg fun h => hempty h.2, List.filter_cons_of_neg (by rw [henabled]; decide)]
      rfl
  · rw [if_neg hopen, if_neg fun h => hopen h.1]
    rfl

theorem mem_shownLabels_iff {s : State} {b : Button} :
    b.label s ∈ Screen.shownLabels s ↔ b ∈ shown s := by
  rw [← map_label_shown]
  exact List.mem_map_of_injective (label_injective s)

theorem mem_disabledLabels_iff {s : State} {b : Button} :
    b.label s ∈ Screen.disabledLabels s ↔ b ∈ shown s ∧ b.enabled s = false := by
  rw [← map_label_disabled, List.mem_map_of_injective (label_injective s), List.mem_filter,
    Bool.not_eq_true']

theorem not_mem_shown_power (s : State) : .key (.operator .power) ∉ shown s := by
  unfold shown
  split <;> split <;> decide

theorem operations_click (s : State) (b : Button) :
    (Event.click b).operations s =
      if b ∈ shown s ∧ b.enabled s = true then [b.operation] else [] := by
  have hiff : b.label s ∈ Screen.shownLabels s ∧ b.label s ∉ Screen.disabledLabels s ↔
      b ∈ shown s ∧ b.enabled s = true := by
    rw [mem_shownLabels_iff, mem_disabledLabels_iff, not_and, Bool.not_eq_false]
    exact and_congr_right fun hb => ⟨fun h => h hb, fun h _ => h⟩
  simp only [Event.operations, hiff]
  split
  next h =>
    have hpower : b ≠ .key (.operator .power) := by
      rintro rfl
      exact absurd h.1 (not_mem_shown_power s)
    rw [lookup_label, if_neg hpower]
    rfl
  next => rfl

end Button

namespace Frame

theorem keyNamed?_eq_lookup (name : List Char) :
    keyNamed? name = Key.keyboard.lookup name := by
  unfold keyNamed? Key.keyboard
  by_cases henter : name = "Enter".toList
  · rw [henter]
    rfl
  by_cases hescape : name = "Escape".toList
  · rw [hescape]
    rfl
  by_cases hbackspace : name = "Backspace".toList
  · rw [hbackspace]
    rfl
  rw [if_neg henter, if_neg hescape, if_neg hbackspace]
  simp only [List.lookup_cons, beq_eq_false_iff_ne.2 henter, beq_eq_false_iff_ne.2 hescape,
    beq_eq_false_iff_ne.2 hbackspace, List.lookup_nil]

end Frame

end Calculator
