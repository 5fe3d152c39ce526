import Calculator.Proofs.State.Kept
import Calculator.Proofs.Window.Carried

set_option autoImplicit false

namespace Calculator

/-- Three operations have to do with the panel of the history. -/
def Operation.leavesPanel : Operation → Bool
  | .requestClear | .toggleHistory | .reuse _ => false
  | _ => true

structure Panel where
  isOpen : Bool
  armed : Bool
  deriving DecidableEq, Repr

namespace State

def panel (s : State) : Panel := ⟨s.historyOpen, s.clearArmed⟩

theorem panel_of_keeps {s t : State} (h : s.Keeps t) : t.panel = s.panel := by
  rw [panel, panel, h.historyOpen, h.clearArmed]

theorem panel_perform {op : Operation} (h : op.leavesPanel = true) (now : Number) (s : State) :
    (op.perform now s).panel = s.panel := by
  cases hquiet : Action.isQuiet (.operation op) with
  | true => exact panel_of_keeps (keeps_perform hquiet now s)
  | false =>
    unfold Action.isQuiet at hquiet
    split at hquiet
    next hop =>
      cases hop
      exact (panel_of_keeps (keeps_calculate_with_history now s)).trans rfl
    next key hop =>
      cases hop
      exact (panel_of_keeps (keeps_useMemory_with_memory key now s)).trans rfl
    next index hop =>
      cases hop
      cases h
    next hop =>
      cases hop
      cases h
    next hop =>
      cases hop
      cases h
    next => cases hquiet

theorem panel_foldl {ops : List Operation} (h : ∀ op ∈ ops, op.leavesPanel = true) (now : Number)
    (s : State) : (ops.foldl (Operation.perform now) s).panel = s.panel :=
  List.foldlRecOn (motive := fun t : State => t.panel = s.panel) ops _ rfl fun t ht op hop =>
    (panel_perform (h op hop) now t).trans ht

end State

namespace Frame

variable {now : Number}

theorem mem_follow {parts : List (State → List Operation)} {s : State} {op : Operation}
    (h : op ∈ follow now parts s) : ∃ part ∈ parts, ∃ t, op ∈ part t := by
  induction parts generalizing s with
  | nil => cases h
  | cons part parts ih =>
    rcases List.mem_append.1 h with h | h
    · exact ⟨part, List.mem_cons_self, s, h⟩
    · obtain ⟨p, hp, t, ht⟩ := ih h
      exact ⟨p, List.mem_cons_of_mem part hp, t, ht⟩

theorem follow_append (parts rest : List (State → List Operation)) (s : State) :
    follow now (parts ++ rest) s =
      follow now parts s ++
        follow now rest ((follow now parts s).foldl (Operation.perform now) s) := by
  induction parts generalizing s with
  | nil => rfl
  | cons part parts ih =>
    rw [List.cons_append, follow, ih, follow, List.append_assoc, List.foldl_append]

variable {events : List Event} {s : State} {op : Operation}

theorem eq_operation_of_mem_pressed {b : Button} (h : op ∈ pressed events b s) :
    op = b.operation := by
  unfold pressed at h
  split at h
  · exact List.mem_singleton.1 h
  · cases h

theorem exists_button_of_mem_pressedAll {bs : List Button}
    (h : op ∈ pressedAll now events bs s) : ∃ b ∈ bs, op = b.operation := by
  obtain ⟨part, hpart, t, ht⟩ := mem_follow h
  obtain ⟨b, hb, rfl⟩ := List.mem_map.1 hpart
  exact ⟨b, hb, eq_operation_of_mem_pressed ht⟩

theorem exists_row_of_mem_reused (h : op ∈ reused events s) : ∃ index, op = .reuse index := by
  unfold reused at h
  cases hrow : clickedRow? events s with
  | none =>
    rw [hrow] at h
    cases h
  | some index =>
    rw [hrow] at h
    exact ⟨index, List.mem_singleton.1 h⟩

theorem leavesPanel_of_mem_keyed (h : op ∈ .tick :: events.flatMap keyed) :
    op.leavesPanel = true := by
  rcases List.mem_cons.1 h with rfl | h
  · rfl
  · obtain ⟨event, -, h⟩ := List.mem_flatMap.1 h
    cases event with
    | typed text =>
      obtain ⟨c, -, rfl⟩ := List.mem_map.1 h
      rfl
    | key k =>
      cases k with
      | none => cases h
      | some k => rw [List.mem_singleton.1 h]; rfl
    | _ => cases h

theorem leavesPanel_of_mem_pressedAll {bs : List Button}
    (hbs : ∀ b ∈ bs, b.operation.leavesPanel = true) (h : op ∈ pressedAll now events bs s) :
    op.leavesPanel = true := by
  obtain ⟨b, hb, rfl⟩ := exists_button_of_mem_pressedAll h
  exact hbs b hb

theorem leavesPanel_of_mem_follow
    (h : op ∈ follow now [pressed events .copy, pressedAll now events Button.memoryRow,
      ofScientificPad now events, pressedAll now events Button.mainPad] s) :
    op.leavesPanel = true := by
  obtain ⟨part, hpart, t, ht⟩ := mem_follow h
  simp only [List.mem_cons, List.not_mem_nil, or_false] at hpart
  rcases hpart with rfl | rfl | rfl | rfl
  · rw [eq_operation_of_mem_pressed ht]
    rfl
  · exact leavesPanel_of_mem_pressedAll (by decide) ht
  · unfold ofScientificPad at ht
    split at ht
    · exact leavesPanel_of_mem_pressedAll (by decide) ht
    · cases ht
  · exact leavesPanel_of_mem_pressedAll (by decide) ht

variable (now) (events) (s)

def panelled : State := (ofPanel now events s).foldl (Operation.perform now) s

/-- A frame is the panel, and the button that switches it among operations that have
nothing to do with it. -/
theorem exists_refresh_eq :
    ∃ front back : List Operation, (∀ op ∈ front ++ back, op.leavesPanel = true) ∧
      let t := front.foldl (Operation.perform now) (panelled now events (entered now events s))
      s.refresh now events =
        back.foldl (Operation.perform now)
          (if .click .history ∈ events then t.toggleHistory else t) := by
  let u := panelled now events (entered now events s)
  let front := pressedAll now events [.theme, .mode, .sound] u
  let t := front.foldl (Operation.perform now) u
  let switched := (pressed events .history t).foldl (Operation.perform now) t
  let back := follow now [pressed events .copy, pressedAll now events Button.memoryRow,
    ofScientificPad now events, pressedAll now events Button.mainPad] switched
  have hswitched : switched = if .click .history ∈ events then t.toggleHistory else t := by
    show (pressed events .history t).foldl (Operation.perform now) t = _
    unfold pressed
    by_cases hclick : .click .history ∈ events
    · rw [if_pos ⟨hclick, rfl⟩, if_pos hclick]
      rfl
    · rw [if_neg fun h => hclick h.1, if_neg hclick]
      rfl
  refine ⟨front, back, fun op hop => ?_, ?_⟩
  · rcases List.mem_append.1 hop with hfront | hback
    · have hbuttons : ∀ b ∈ [Button.theme, .mode, .sound], b.operation.leavesPanel = true := by
        decide
      exact leavesPanel_of_mem_pressedAll hbuttons hfront
    · exact leavesPanel_of_mem_follow hback
  · have hbar : pressedAll now events Button.topBar u = front ++ pressed events .history t := by
      show follow now ([Button.theme, .mode, .sound].map (pressed events) ++
        [pressed events .history]) u = _
      rw [follow_append]
      exact congrArg (front ++ ·) (List.append_nil _)
    dsimp only
    rw [State.refresh_eq_foldl, carried, follow, List.foldl_append, ← entered_eq_foldl, follow,
      List.foldl_append, ← panelled, follow, hbar, List.foldl_append, List.foldl_append,
      ← hswitched]

end Frame

end Calculator
