import Calculator.Proofs.State.Deadline
import Calculator.Proofs.State.Kept
import Calculator.Proofs.Window.Label
import Calculator.Proofs.Window.Single
import Calculator.Saved.Text

/-! The window only passes on what happens to it. Main statement: a frame with one event at
most lets time pass and then carries out the operations of the event, which the labels on
the screen tell; a run of such frames is the run of their operations, and a further frame
at the same time changes nothing. -/

set_option autoImplicit false

namespace Calculator

def Frame.operations (s : State) (event : Option Event) : List Operation :=
  .tick :: event.elim [] (Event.operations s)

namespace State

theorem preferences_tick (now : Number) (s : State) : (s.tick now).preferences = s.preferences := by
  rw [tick_eq]

/-- Time changes one label, and not which buttons and rows there are. -/
theorem operations_tick (now : Number) (s : State) (event : Event) :
    event.operations (s.tick now) = event.operations s := by
  have hkeeps := keeps_tick now s
  cases event with
  | click b =>
    have hshown : Button.shown (s.tick now) = Button.shown s := by
      rw [Button.shown, Button.shown, hkeeps.historyOpen, preferences_tick]
    have henabled : b.enabled (s.tick now) = b.enabled s := by
      cases b <;> simp only [Button.enabled, hkeeps.history]
    rw [Button.operations_click, Button.operations_click, hshown, henabled]
  | row index => rw [Event.operations, Event.operations, hkeeps.historyOpen, hkeeps.history]
  | typed text => rfl
  | key k => cases k <;> rfl

theorem carried_eq_operations (now : Number) (event : Option Event) (s : State) :
    Frame.carried now event.toList s = Frame.operations s event := by
  cases event with
  | none => exact Frame.carried_keyboard (fun _ => List.not_mem_nil) (fun _ => List.not_mem_nil) s
  | some e =>
    rw [Option.toList_some, Frame.operations, Option.elim_some, ← operations_tick now s e]
    cases e with
    | click b => rw [Frame.carried_click, Button.operations_click]
    | row index => exact Frame.carried_row index s
    | typed text =>
      rw [Frame.carried_keyboard (fun b => by simp) (fun index => by simp),
        List.flatMap_singleton]
      rfl
    | key k =>
      rw [Frame.carried_keyboard (fun b => by simp) (fun index => by simp),
        List.flatMap_singleton]
      cases k <;> rfl

theorem update_eq_foldl (now : Number) (event : Option Event) (s : State) :
    s.update now event = (Frame.operations s event).foldl (Operation.perform now) s := by
  rw [← carried_eq_operations now]
  exact refresh_eq_foldl now event.toList s

theorem awaits_update {now : Number} (hahead : DeadlinesAhead now) (event : Option Event)
    (s : State) : Awaits now (s.update now event) := by
  rw [update_eq_foldl, Frame.operations, List.foldl_cons]
  exact (awaits_tick now s).foldl hahead _

def operationsOf (s : State) : List (Number × Option Event) → List (Number × Action)
  | [] => []
  | (now, event) :: frames =>
    (Frame.operations s event).map (fun op => (now, .operation op)) ++
      operationsOf (s.update now event) frames

theorem run_operations (now : Number) (ops : List Operation) (rest : List (Number × Action))
    (s : State) :
    s.run (ops.map (fun op => (now, .operation op)) ++ rest) =
      (ops.foldl (Operation.perform now) s).run rest := by
  induction ops generalizing s with
  | nil => rfl
  | cons op ops ih => exact ih (op.perform now s)

theorem after_update_eq_run (s : State) (frames : List (Number × Option Event)) :
    after (fun now t event => t.update now event) s frames = s.run (operationsOf s frames) := by
  induction frames generalizing s with
  | nil => rfl
  | cons frame frames ih =>
    obtain ⟨now, event⟩ := frame
    rw [operationsOf, run_operations, ← update_eq_foldl]
    exact ih (s.update now event)

theorem map_label_buttonAt? (s : State) (label : List Char) :
    (Frame.buttonAt? s label).map (·.label s) = (Screen.shownLabels s).find? (· == label) := by
  rw [← Button.map_label_shown, List.find?_map]
  rfl

/-- A run of frames with one event each at most is the run of the operations of the events,
and so is every further frame. The labels on the screen and three keys of the keyboard tell
the operations, each of them one function of the state; a frame without event at the same
time finds nothing left to do. -/
theorem frames_delegate (start : State) (frames : List (Number × Option Event)) :
    let s := after (fun now t event => t.update now event) start frames
    s = start.run (operationsOf start frames) ∧
      (Screen.ofState s).labels = Screen.shownLabels s ∧
      (Screen.ofState s).disabled = Screen.disabledLabels s ∧
      (∀ label, (Frame.buttonAt? s label).map (·.label s) =
        (Screen.shownLabels s).find? (· == label)) ∧
      (∀ name, Frame.keyNamed? name = Key.keyboard.lookup name) ∧
      (∀ now t, Button.labelled.map (fun x => (x.1, x.2.perform now t)) = Button.outcomes now t) ∧
      (∀ now t, Key.keyboard.map (fun x => (x.1, x.2.press now t)) = Key.outcomes now t) ∧
      ∀ (now : Number) (event : Option Event),
        s.update now event = (Frame.operations s event).foldl (Operation.perform now) s ∧
          (DeadlinesAhead now → (s.update now event).update now none = s.update now event) := by
  intro s
  refine ⟨after_update_eq_run start frames, Button.map_label_shown s, Button.map_label_disabled s,
    map_label_buttonAt? s, Frame.keyNamed?_eq_lookup, Button.map_perform_labelled,
    Key.map_press_keyboard, fun now event => ?_⟩
  refine ⟨update_eq_foldl now event s, fun hahead => ?_⟩
  rw [update_eq_foldl now none]
  exact (awaits_update hahead event s).tick_eq

/-- A product is calculated with the button of the result and taken back from its row in
the panel, and a division by zero is typed behind it. -/
def recalled : List (Number × Option Event) :=
  [(.ofNat 1, some (.typed "2*3".toList)), (.ofNat 1, some (.click (.key .equals))),
    (.ofNat 2, some (.click .history)), (.ofNat 3, some (.row 0)),
    (.ofNat 3, some (.typed "/0".toList))]

def recalledOperations : List (Number × Operation) :=
  [(.ofNat 1, .tick), (.ofNat 1, .type '2'), (.ofNat 1, .type '*'), (.ofNat 1, .type '3'),
    (.ofNat 1, .tick), (.ofNat 1, .press .equals), (.ofNat 2, .tick), (.ofNat 2, .toggleHistory),
    (.ofNat 3, .tick), (.ofNat 3, .reuse 0), (.ofNat 3, .tick), (.ofNat 3, .type '/'),
    (.ofNat 3, .type '0')]

/-- The error that the button of the result then raises at three seconds stands when the same
moment is drawn again. -/
theorem frames_delegate_recalled :
    let s := after (fun now t event => t.update now event) (load none) recalled
    let t := s.update (.ofNat 3) (some (.click (.key .equals)))
    s = (load none).run (recalledOperations.map fun x => (x.1, .operation x.2)) ∧
      s.expression = "2×3÷0".toList ∧ s.historyOpen = false ∧
      t.result = "Error".toList ∧ t.errorUntil = some (.ofNat 5) ∧
      t.update (.ofNat 3) none = t := by
  intro s t
  have hahead : DeadlinesAhead (.ofNat 3) := by
    refine deadlinesAhead_of_lt (by decide +kernel) ?_
    rw [Number.toRat_ofNat (by decide)]
    norm_num
  have hoperations : operationsOf (load none) recalled =
      recalledOperations.map fun x => (x.1, .operation x.2) := by
    decide +kernel
  obtain ⟨hrun, -, -, -, -, -, -, hframe⟩ := frames_delegate (load none) recalled
  have hagain := (hframe (.ofNat 3) (some (.click (.key .equals)))).2 hahead
  exact ⟨hrun.trans (congrArg (load none).run hoperations), by decide +kernel, by decide +kernel,
    by decide +kernel, by decide +kernel, hagain⟩

end State

end Calculator
