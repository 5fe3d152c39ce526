import Mathlib.Data.List.Induction
import Calculator.Proofs.State.History
import Calculator.Proofs.Window.Panel

/-! Clearing the history from the window. Only the clear button empties the history, and
only the button of the history opens its panel; whatever else happens in a frame adds
entries at most. Main statement: a history is cleared by a second click on the clear
button, and the panel has been open since before the first one. -/

set_option autoImplicit false

namespace Calculator

namespace Frame

/-- The clear button is shown, in use, and clicked, in a frame that is drawn from `s`. -/
def AsksToClear (events : List Event) (s : State) : Prop :=
  .click .clearHistory ∈ events ∧ s.historyOpen = true ∧ s.history ≠ []

instance (events : List Event) (s : State) : Decidable (AsksToClear events s) :=
  inferInstanceAs (Decidable (.click .clearHistory ∈ events ∧ s.historyOpen = true ∧ s.history ≠ []))

def asked (events : List Event) (s : State) : State :=
  if AsksToClear events s then s.requestClear else s

end Frame

namespace Step

def AsksToClear (x : Step (List Event)) : Prop :=
  Frame.AsksToClear x.event (Frame.entered x.now x.event x.before)

/-- The panel was closed when a frame began, or its button was clicked. -/
def interruptsPanel (x : Step (List Event)) : Bool :=
  !x.before.historyOpen || .click .history ∈ x.event

end Step

namespace State

/-- Entries were put in front, and those behind the limit dropped. -/
def EntriesGained (es fs : List Entry) : Prop :=
  ∃ added, fs.take historyLimit = (added ++ es).take historyLimit

theorem EntriesGained.refl (es : List Entry) : EntriesGained es es := ⟨[], rfl⟩

theorem EntriesGained.trans {es fs gs : List Entry} (h : EntriesGained es fs)
    (k : EntriesGained fs gs) : EntriesGained es gs := by
  obtain ⟨first, hfirst⟩ := h
  obtain ⟨second, hsecond⟩ := k
  refine ⟨second ++ first, ?_⟩
  rw [hsecond, ← take_append_take, hfirst, take_append_take, List.append_assoc]

theorem EntriesGained.ne_nil {es fs : List Entry} (h : EntriesGained es fs) (hes : es ≠ []) :
    fs ≠ [] := by
  rintro rfl
  obtain ⟨added, hadded⟩ := h
  rw [List.take_nil] at hadded
  rcases List.take_eq_nil_iff.1 hadded.symm with hlimit | hnil
  · cases hlimit
  · exact hes (List.append_eq_nil_iff.1 hnil).2

structure Gains (s t : State) : Prop where
  history : EntriesGained s.history t.history
  historyOpen : t.historyOpen = true → s.historyOpen = true
  clearArmed : t.clearArmed = s.clearArmed

theorem Gains.refl (s : State) : s.Gains s := ⟨.refl _, id, rfl⟩

theorem Gains.trans {s t u : State} (h : s.Gains t) (k : t.Gains u) : s.Gains u where
  history := h.history.trans k.history
  historyOpen hu := h.historyOpen (k.historyOpen hu)
  clearArmed := k.clearArmed.trans h.clearArmed

theorem gains_reuse (index : Nat) (s : State) : s.Gains (s.reuse index) := by
  unfold reuse
  split
  · exact ⟨.refl _, nofun, rfl⟩
  · exact .refl s

theorem gains_perform {op : Operation} (h : op.leavesPanel = true) (now : Number) (s : State) :
    s.Gains (op.perform now s) := by
  have hpanel := panel_perform h now s
  have hopen : (op.perform now s).historyOpen = s.historyOpen := congrArg Panel.isOpen hpanel
  have hclears : Step.clearsHistory ⟨s, now, .operation op⟩ = false := by
    refine Bool.eq_false_iff.2 fun hclears => ?_
    cases (Step.clearsHistory_iff.1 hclears).1
    cases h
  refine ⟨?_, fun ht => hopen ▸ ht, congrArg Panel.armed hpanel⟩
  cases hentry : Step.entry? ⟨s, now, .operation op⟩ with
  | none =>
    have hhistory : (op.perform now s).history = s.history :=
      history_perform_of_neither hclears hentry
    exact hhistory ▸ .refl _
  | some e =>
    have hhistory : (op.perform now s).history = (e :: s.history).take historyLimit :=
      history_perform_of_entry hentry
    refine ⟨[e], ?_⟩
    rw [hhistory, List.take_take]
    rfl

theorem gains_foldl {ops : List Operation} (h : ∀ op ∈ ops, op.leavesPanel = true) (now : Number)
    (s : State) : s.Gains (ops.foldl (Operation.perform now) s) :=
  List.foldlRecOn (motive := s.Gains) ops _ (.refl s) fun t ht op hop =>
    ht.trans (gains_perform (h op hop) now t)

end State

namespace Frame

variable (now : Number) (events : List Event)

theorem gains_entered (s : State) : s.Gains (entered now events s) := by
  rw [entered_eq_foldl]
  exact State.gains_foldl (fun _ => leavesPanel_of_mem_keyed) now s

theorem foldl_pressed_clearHistory {s : State} (hopen : s.historyOpen = true) :
    (pressed events .clearHistory s).foldl (Operation.perform now) s = asked events s := by
  by_cases hasks : AsksToClear events s
  · rw [pressed, if_pos ⟨hasks.1, Button.enabled_clearHistory_iff.2 hasks.2.2⟩, asked, if_pos hasks]
    rfl
  · rw [pressed, if_neg fun h => hasks ⟨h.1, hopen, Button.enabled_clearHistory_iff.1 h.2⟩, asked,
      if_neg hasks]
    rfl

theorem panelled_eq (s : State) :
    panelled now events s =
      (if s.historyOpen = true then reused events (asked events s) else []).foldl
        (Operation.perform now) (asked events s) := by
  unfold panelled ofPanel
  by_cases hopen : s.historyOpen = true
  · rw [if_pos hopen, if_pos hopen, follow, List.foldl_append,
      foldl_pressed_clearHistory now events hopen, follow, follow, List.append_nil]
  · rw [if_neg hopen, if_neg hopen, asked, if_neg fun h => hopen h.2.1]

theorem gains_panelled (s : State) : (asked events s).Gains (panelled now events s) := by
  rw [panelled_eq]
  refine List.foldlRecOn (motive := (asked events s).Gains) _ _ (.refl _) fun t ht op hop => ?_
  split at hop
  · obtain ⟨index, rfl⟩ := exists_row_of_mem_reused hop
    exact ht.trans (State.gains_reuse index t)
  · cases hop

/-- A frame gains at most, save in two places: at the clear button, which is drawn first,
and at the button of the panel. -/
theorem exists_gains_refresh (s : State) :
    ∃ t : State, (asked events (entered now events s)).Gains t ∧
      (if .click .history ∈ events then t.toggleHistory else t).Gains (s.refresh now events) := by
  obtain ⟨front, back, hops, hrefresh⟩ := exists_refresh_eq now events s
  have hfront := State.gains_foldl fun op hop => hops op (List.mem_append_left back hop)
  have hback := State.gains_foldl fun op hop => hops op (List.mem_append_right front hop)
  refine ⟨_, (gains_panelled now events _).trans (hfront now _), ?_⟩
  rw [hrefresh]
  exact hback now _

theorem historyOpen_asked (s : State) : (asked events s).historyOpen = s.historyOpen := by
  unfold asked
  split
  · unfold State.requestClear
    split
    · rfl
    · split <;> rfl
  · rfl

theorem history_asked_of_not_armed {s : State} (hs : s.clearArmed = false) :
    (asked events s).history = s.history := by
  unfold asked
  split
  · exact State.history_requestClear_of_not_armed hs
  · rfl

theorem clearArmed_asked {s : State} (hasks : AsksToClear events s)
    (h : (asked events s).clearArmed = true) : s.clearArmed = false := by
  rw [asked, if_pos hasks, State.requestClear] at h
  split at h
  · cases h
  · split at h
    · cases h
    · exact Bool.eq_false_iff.2 ‹_›

end Frame

namespace State

open Calculator.Frame

theorem entriesGained_refresh {now : Number} {events : List Event} {s : State}
    (h : AsksToClear events (entered now events s) → s.clearArmed = false) :
    EntriesGained s.history (s.refresh now events).history := by
  obtain ⟨t, hbefore, hbehind⟩ := exists_gains_refresh now events s
  have hentered := gains_entered now events s
  have hasked : (asked events (entered now events s)).history = (entered now events s).history := by
    by_cases hasks : AsksToClear events (entered now events s)
    · exact history_asked_of_not_armed events (hentered.clearArmed.trans (h hasks))
    · rw [asked, if_neg hasks]
  have hswitch : (if .click .history ∈ events then t.toggleHistory else t).history = t.history := by
    split <;> rfl
  exact hentered.history.trans (hasked ▸ hbefore.history) |>.trans (hswitch ▸ hbehind.history)

theorem gains_refresh_of_armed {now : Number} {events : List Event} {s : State}
    (h : (s.refresh now events).clearArmed = true) :
    .click .history ∉ events ∧ (asked events (entered now events s)).Gains (s.refresh now events) := by
  obtain ⟨t, hbefore, hbehind⟩ := exists_gains_refresh now events s
  by_cases hclick : .click .history ∈ events
  · rw [if_pos hclick] at hbehind
    rw [hbehind.clearArmed] at h
    cases h
  · rw [if_neg hclick] at hbehind
    exact ⟨hclick, hbefore.trans hbehind⟩

theorem armed_after {s : State} (hs : s.clearArmed = false) (frames : List (Number × List Event))
    (harmed : (after refresh s frames).clearArmed = true) :
    (after refresh s frames).history ≠ [] ∧
      ((after refresh s frames).historyOpen = true →
        ∃ x ∈ since refresh Step.interruptsPanel s frames, x.AsksToClear) := by
  induction frames using List.reverseRecOn with
  | nil =>
    rw [after, hs] at harmed
    cases harmed
  | append_singleton frames frame ih =>
    obtain ⟨now, events⟩ := frame
    rw [after_concat] at harmed ⊢
    rw [since_concat]
    generalize after refresh s frames = t at ih harmed ⊢
    obtain ⟨hclick, hgains⟩ := gains_refresh_of_armed harmed
    have hentered := gains_entered now events t
    have hcontinues (hopen : (t.refresh now events).historyOpen = true) :
        Step.interruptsPanel ⟨t, now, events⟩ = false := by
      have ht := hgains.historyOpen hopen
      rw [historyOpen_asked] at ht
      rw [Step.interruptsPanel, hentered.historyOpen ht, decide_eq_false hclick]
      rfl
    by_cases hasks : AsksToClear events (entered now events t)
    · refine ⟨hgains.history.ne_nil ?_, fun hopen => ?_⟩
      · rw [hgains.clearArmed] at harmed
        rw [history_asked_of_not_armed events (clearArmed_asked events hasks harmed)]
        exact hasks.2.2
      · rw [hcontinues hopen]
        exact ⟨_, List.mem_cons_self .., hasks⟩
    · rw [asked, if_neg hasks] at hgains
      have ht := hentered.trans hgains
      obtain ⟨hhistory, hpanel⟩ := ih (ht.clearArmed ▸ harmed)
      refine ⟨ht.history.ne_nil hhistory, fun hopen => ?_⟩
      obtain ⟨x, hx, hxasks⟩ := hpanel (ht.historyOpen hopen)
      rw [hcontinues hopen]
      exact ⟨x, List.mem_cons_of_mem _ hx, hxasks⟩

theorem clearArmed_load (stored : Option (List Char)) : (load stored).clearArmed = false := by
  unfold load
  split <;> rfl

theorem length_history_refresh_le {now : Number} {events : List Event} {s : State}
    (h : s.history.length ≤ historyLimit) :
    (s.refresh now events).history.length ≤ historyLimit :=
  refresh_invariant (P := fun s => s.history.length ≤ historyLimit)
    (fun op _ => length_history_perform_le (.operation op)) h events

/-- After any frames from any stored text an armed clear button has something to clear.
A frame that empties the history, or does more to it than put entries in front, clicks
that armed button in an open panel; an earlier frame clicked it too, and since then the
panel was neither closed nor switched. -/
theorem clearing_confirmed (stored : Option (List Char)) (frames : List (Number × List Event)) :
    let s := after refresh (load stored) frames
    (s.clearArmed = true → s.history ≠ []) ∧
      ∀ (now : Number) (events : List Event),
        let t := s.refresh now events
        let confirmed := Step.AsksToClear ⟨s, now, events⟩ ∧ s.clearArmed = true ∧
          s.historyOpen = true ∧
          ∃ x ∈ since refresh Step.interruptsPanel (load stored) frames, x.AsksToClear
        (confirmed ∨ ∃ added, t.history = (added ++ s.history).take historyLimit) ∧
          (s.history ≠ [] → t.history = [] → confirmed) := by
  intro s
  have harmed (h : s.clearArmed = true) := armed_after (clearArmed_load stored) frames h
  refine ⟨fun h => (harmed h).1, ?_⟩
  intro now events t confirmed
  have hlength : t.history.length ≤ historyLimit :=
    length_history_refresh_le <|
      after_invariant refresh (P := fun s => s.history.length ≤ historyLimit)
        (fun _ _ _ => length_history_refresh_le) (length_history_load_le stored) frames
  by_cases hasks : AsksToClear events (entered now events s) ∧ s.clearArmed = true
  · have hopen := (gains_entered now events s).historyOpen hasks.1.2.1
    have hconfirmed : confirmed := ⟨hasks.1, hasks.2, hopen, (harmed hasks.2).2 hopen⟩
    exact ⟨.inl hconfirmed, fun _ _ => hconfirmed⟩
  · have hgained : EntriesGained s.history t.history :=
      entriesGained_refresh fun h => Bool.eq_false_iff.2 fun harmed => hasks ⟨h, harmed⟩
    refine ⟨.inr ?_, fun hs ht => absurd ht (hgained.ne_nil hs)⟩
    obtain ⟨added, hadded⟩ := hgained
    exact ⟨added, List.take_of_length_le hlength ▸ hadded⟩

def armingFrames : List (Number × List Event) :=
  [(.zero, [.typed "1+1".toList, .key (some .equals)]), (.zero, [.click .history]),
    (.zero, [.click .clearHistory]), (.zero, [.click .theme, .typed "2".toList])]

theorem clearing_confirmed_armingFrames :
    let s := after refresh (load none) armingFrames
    let t := s.refresh .zero [.click .clearHistory]
    (s.clearArmed = true ∧ s.history ≠ []) ∧ t.history = [] ∧
      ∃ x ∈ since refresh Step.interruptsPanel (load none) armingFrames, x.AsksToClear := by
  intro s t
  have harmed : s.clearArmed = true := by decide +kernel
  have ht : t.history = [] := by decide +kernel
  obtain ⟨hhistory, hframe⟩ := clearing_confirmed none armingFrames
  obtain ⟨-, hempty⟩ := hframe .zero [.click .clearHistory]
  obtain ⟨-, -, -, hearlier⟩ := hempty (hhistory harmed) ht
  exact ⟨⟨harmed, hhistory harmed⟩, ht, hearlier⟩

end State

end Calculator
