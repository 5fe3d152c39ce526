import Calculator.Proofs.Window.Clearing

/-! The panel of the history and its armed clear button. A click on the button of the panel
switches the panel and disarms; a click on a row closes the panel and disarms nothing. Main
statement: after any frames an armed button stands in an open panel, unless a row was
clicked while the button was armed and the panel was not switched since. -/

set_option autoImplicit false

namespace Calculator

namespace Step

def switchesPanel (x : Step (List Event)) : Bool := .click .history ∈ x.event

/-- A row of the open panel was clicked while the clear button, drawn before it, was armed. -/
def ReusesArmed (x : Step (List Event)) : Prop :=
  let a := Frame.asked x.event (Frame.entered x.now x.event x.before)
  a.panel = ⟨true, true⟩ ∧ (Frame.clickedRow? x.event a).isSome = true

end Step

namespace State

theorem panel_reuse {index : Nat} {s : State} (h : index < s.history.length) :
    (s.reuse index).panel = ⟨false, s.clearArmed⟩ := by
  rw [reuse, List.getElem?_eq_getElem h]
  rfl

end State

namespace Frame

variable (now : Number) (events : List Event)

theorem panel_entered (s : State) : (entered now events s).panel = s.panel := by
  rw [entered_eq_foldl]
  exact State.panel_foldl (fun _ => leavesPanel_of_mem_keyed) now s

theorem lt_of_clickedRow? {s : State} {index : Nat} (h : clickedRow? events s = some index) :
    index < s.history.length :=
  List.mem_range.1 (List.mem_filter.1 (List.mem_of_getLast? h)).1

theorem panel_panelled (s : State) :
    (panelled now events s).panel =
      ⟨(asked events s).historyOpen && (clickedRow? events (asked events s)).isNone,
        (asked events s).clearArmed⟩ := by
  rw [panelled_eq, ← historyOpen_asked events s]
  generalize asked events s = a
  cases hopen : a.historyOpen with
  | false =>
    rw [if_neg Bool.false_ne_true, List.foldl_nil, State.panel, hopen, Bool.false_and]
  | true =>
    rw [if_pos rfl, reused, Bool.true_and]
    cases hrow : clickedRow? events a with
    | none => exact congrArg (Panel.mk · a.clearArmed) hopen
    | some index => exact State.panel_reuse (lt_of_clickedRow? events hrow)

end Frame

namespace State

open Calculator.Frame

/-- All that a frame does to the panel: the clear button and the rows are drawn before the
button that switches it. -/
theorem panel_refresh (now : Number) (events : List Event) (s : State) :
    let a := asked events (entered now events s)
    let stays := a.historyOpen && (clickedRow? events a).isNone
    (s.refresh now events).panel =
      if .click .history ∈ events then ⟨!stays, false⟩ else ⟨stays, a.clearArmed⟩ := by
  intro a stays
  obtain ⟨front, back, hops, hrefresh⟩ := exists_refresh_eq now events s
  have hfront := panel_foldl fun op hop => hops op (List.mem_append_left back hop)
  have hback := panel_foldl fun op hop => hops op (List.mem_append_right front hop)
  have ht : (front.foldl (Operation.perform now)
      (panelled now events (entered now events s))).panel = ⟨stays, a.clearArmed⟩ :=
    (hfront now _).trans (panel_panelled now events _)
  rw [hrefresh, hback]
  generalize front.foldl (Operation.perform now) _ = t at ht
  split
  · have hopen : t.historyOpen = stays := congrArg Panel.isOpen ht
    rw [panel, toggleHistory, hopen]
  · exact ht

theorem armed_closed_refresh_iff (now : Number) (events : List Event) (s : State) :
    (s.refresh now events).panel = ⟨false, true⟩ ↔
      .click .history ∉ events ∧
        (Step.ReusesArmed ⟨s, now, events⟩ ∨ s.panel = ⟨false, true⟩) := by
  have hentered := panel_entered now events s
  have hclosed (h : (asked events (entered now events s)).historyOpen = false) :
      (asked events (entered now events s)).panel = s.panel := by
    rw [historyOpen_asked] at h
    rw [asked, if_neg fun hasks => by simp [hasks.2.1] at h, hentered]
  have hopen : (asked events (entered now events s)).historyOpen = s.historyOpen :=
    (historyOpen_asked events _).trans (congrArg Panel.isOpen hentered)
  rw [panel_refresh, Step.ReusesArmed]
  dsimp only
  generalize asked events (entered now events s) = a at hclosed hopen
  by_cases hclick : .click .history ∈ events
  · simp [hclick]
  · rw [if_neg hclick]
    cases ha : a.historyOpen with
    | false =>
      have harmed : a.clearArmed = s.clearArmed := congrArg Panel.armed (hclosed ha)
      simp [hclick, panel, ha, harmed, ← hopen]
    | true => simp [hclick, panel, ha, ← hopen, and_comm]

theorem armed_closed_after_iff {s : State} (hs : s.clearArmed = false)
    (frames : List (Number × List Event)) :
    (after refresh s frames).panel = ⟨false, true⟩ ↔
      ∃ x ∈ since refresh Step.switchesPanel s frames, x.ReusesArmed := by
  induction frames using List.reverseRecOn with
  | nil => simp [after, since, steps, panel, hs]
  | append_singleton frames frame ih =>
    obtain ⟨now, events⟩ := frame
    rw [after_concat, armed_closed_refresh_iff, since_concat, Step.switchesPanel, ih]
    by_cases hclick : .click .history ∈ events <;> simp [hclick]

/-- After any frames from any stored text an armed clear button stands in an open panel just
if no row was clicked while it was armed since the panel was last switched. -/
theorem historyOpen_of_clearArmed_iff (stored : Option (List Char))
    (frames : List (Number × List Event)) :
    let s := after refresh (load stored) frames
    (s.clearArmed = true → s.historyOpen = true) ↔
      ∀ x ∈ since refresh Step.switchesPanel (load stored) frames, ¬x.ReusesArmed := by
  intro s
  have hiff := armed_closed_after_iff (clearArmed_load stored) frames
  have hpanel : s.panel = ⟨false, true⟩ ↔ ¬(s.clearArmed = true → s.historyOpen = true) := by
    simp [panel, and_comm]
  rw [← not_iff_not, ← hpanel, hiff]
  simp

/-- A calculation, and a click on its row in the open panel with an armed clear button. -/
def recallingFrames : List (Number × List Event) :=
  [(.zero, [.typed "1".toList]), (.zero, [.key (some .equals)]), (.zero, [.click .history]),
    (.zero, [.click .clearHistory]), (.zero, [.row 0])]

theorem armed_closed_recallingFrames :
    let s := after refresh (load none) recallingFrames
    s.clearArmed = true ∧ s.historyOpen = false := by
  decide +kernel

end State

end Calculator
