import Mathlib.Data.List.Nodup
import Calculator.Proofs.Window.Carried

/-! What a frame with one event carries out. A button stands in one part of the window, so
that a click makes one part act, and each part finds the state that time has left. Main
statements: the operations of a frame for the keyboard, for a row, and for a click. -/

set_option autoImplicit false

namespace Calculator

theorem Button.nodup_shown (s : State) : (shown s).Nodup := by
  unfold shown
  split <;> split <;> decide

namespace Frame

variable {now : Number} {events : List Event}

def Silent (part : State → List Operation) : Prop := ∀ s, part s = []

theorem follow_of_silent {parts : List (State → List Operation)} (h : ∀ p ∈ parts, Silent p)
    (s : State) : follow now parts s = [] := by
  induction parts generalizing s with
  | nil => rfl
  | cons part parts ih =>
    rw [follow, h part List.mem_cons_self s]
    exact ih (fun p hp => h p (List.mem_cons_of_mem part hp)) s

/-- Where one part acts at most, each finds the state that the first one found. -/
theorem follow_eq_flatMap {parts : List (State → List Operation)}
    (h : parts.Pairwise fun p q => Silent p ∨ Silent q) (s : State) :
    follow now parts s = parts.flatMap (· s) := by
  induction parts generalizing s with
  | nil => rfl
  | cons part parts ih =>
    obtain ⟨hpart, hparts⟩ := List.pairwise_cons.1 h
    rw [follow, List.flatMap_cons]
    by_cases hsilent : Silent part
    · rw [hsilent s]
      exact ih hparts s
    · have hrest : ∀ p ∈ parts, Silent p := fun p hp => (hpart p hp).resolve_left hsilent
      rw [follow_of_silent hrest, List.flatMap_eq_nil_iff.2 fun p hp => hrest p hp s]

theorem silent_pressed {b : Button} (h : .click b ∉ events) : Silent (pressed events b) :=
  fun _ => if_neg fun hb => h hb.1

theorem silent_pressedAll {bs : List Button} (h : ∀ b ∈ bs, .click b ∉ events) :
    Silent (pressedAll now events bs) := by
  refine follow_of_silent fun p hp => ?_
  obtain ⟨b, hb, rfl⟩ := List.mem_map.1 hp
  exact silent_pressed (h b hb)

theorem silent_reused (h : ∀ index, .row index ∉ events) : Silent (reused events) := by
  intro s
  have hrows : ((List.range s.history.length).filter fun index => .row index ∈ events) = [] :=
    List.filter_eq_nil_iff.2 fun index _ => by simpa using h index
  rw [reused, clickedRow?, hrows]
  rfl

theorem clickedRow?_row (s : State) (index : Nat) :
    clickedRow? [.row index] s = if index < s.history.length then some index else none := by
  have hrows : ((List.range s.history.length).filter fun i => Event.row i ∈ [Event.row index]) =
      List.replicate ((List.range s.history.length).count index) index := by
    simp only [List.mem_singleton, Event.row.injEq]
    exact List.filter_eq index
  rw [clickedRow?, hrows, List.nodup_range.count]
  simp only [List.mem_range]
  split <;> rfl

theorem silent_ofPanel (hclear : .click .clearHistory ∉ events)
    (hrow : ∀ index, .row index ∉ events) : Silent (ofPanel now events) := by
  intro s
  unfold ofPanel
  split
  · rw [follow, silent_pressed hclear, follow, silent_reused hrow]
    rfl
  · rfl

def pads (now : Number) (events : List Event) : List (List Button × (State → List Operation)) :=
  [(Button.topBar, pressedAll now events Button.topBar), ([.copy], pressed events .copy),
    (Button.memoryRow, pressedAll now events Button.memoryRow),
    (Button.scientificPad, ofScientificPad now events),
    (Button.mainPad, pressedAll now events Button.mainPad)]

theorem silent_of_mem_pads {x : List Button × (State → List Operation)}
    (hx : x ∈ pads now events) (h : ∀ b ∈ x.1, .click b ∉ events) : Silent x.2 := by
  simp only [pads, List.mem_cons, List.not_mem_nil, or_false] at hx
  rcases hx with rfl | rfl | rfl | rfl | rfl
  · exact silent_pressedAll h
  · exact silent_pressed (h .copy List.mem_cons_self)
  · exact silent_pressedAll h
  · intro s
    dsimp only
    unfold ofScientificPad
    split
    · exact silent_pressedAll h s
    · rfl
  · exact silent_pressedAll h

theorem carried_eq (now : Number) (events : List Event) (s : State) :
    carried now events s =
      .tick :: events.flatMap keyed ++
        follow now (ofPanel now events :: (pads now events).map Prod.snd)
          (entered now events s) := by
  rw [carried, follow, ← entered_eq_foldl]
  rfl

theorem follow_pads_of_not_mem (h : ∀ b, .click b ∉ events) (s : State) :
    follow now ((pads now events).map Prod.snd) s = [] := by
  refine follow_of_silent (fun p hp => ?_) s
  obtain ⟨x, hx, rfl⟩ := List.mem_map.1 hp
  exact silent_of_mem_pads hx fun b _ => h b

theorem carried_keyboard (h : ∀ b, .click b ∉ events) (hrow : ∀ index, .row index ∉ events)
    (s : State) : carried now events s = .tick :: events.flatMap keyed := by
  rw [carried_eq, follow, silent_ofPanel (h .clearHistory) hrow, follow_pads_of_not_mem h,
    List.append_nil, List.append_nil]

theorem carried_row (index : Nat) (s : State) :
    carried now [.row index] s =
      .tick :: if (s.tick now).historyOpen = true ∧ index < (s.tick now).history.length then
        [.reuse index] else [] := by
  have hclick : ∀ b, Event.click b ∉ [Event.row index] := fun b => by simp
  have hpanel (t : State) : ofPanel now [.row index] t =
      if t.historyOpen = true ∧ index < t.history.length then [.reuse index] else [] := by
    unfold ofPanel
    split
    next hopen =>
      rw [follow, silent_pressed (hclick .clearHistory), follow, follow, reused]
      simp only [List.foldl_nil, clickedRow?_row, hopen, true_and]
      split <;> rfl
    next hclosed => rw [if_neg fun h => hclosed h.1]
  rw [carried_eq, follow, follow_pads_of_not_mem hclick, List.append_nil, hpanel]
  rfl

theorem not_mem_click {b c : Button} (h : c ≠ b) : Event.click c ∉ [Event.click b] := by
  rw [List.mem_singleton, Event.click.injEq]
  exact h

/-- No button stands in two parts, so that one part at most acts for a click. -/
theorem pairwise_parts (b : Button) :
    (ofPanel now [.click b] :: (pads now [.click b]).map Prod.snd).Pairwise
      fun p q => Silent p ∨ Silent q := by
  have hnodup : (Button.clearHistory :: [Button.topBar, [.copy], Button.memoryRow,
    Button.scientificPad, Button.mainPad].flatten).Nodup := by decide
  obtain ⟨hclear, hpads⟩ := List.nodup_cons.1 hnodup
  have hdisjoint : ((pads now [.click b]).map Prod.fst).Pairwise List.Disjoint :=
    (List.nodup_flatten.1 hpads).2
  refine List.pairwise_cons.2 ⟨fun p hp => ?_, List.pairwise_map.2 ?_⟩
  · obtain ⟨x, hx, rfl⟩ := List.mem_map.1 hp
    by_cases hb : b = .clearHistory
    · refine .inr (silent_of_mem_pads hx fun c hc => not_mem_click ?_)
      rintro rfl
      exact hclear (hb ▸ List.mem_flatten.2 ⟨x.1, List.mem_map_of_mem hx, hc⟩)
    · exact .inl (silent_ofPanel (not_mem_click (Ne.symm hb)) fun _ => by simp)
  · refine (List.pairwise_map.1 hdisjoint).imp_of_mem fun {x y} hx hy hxy => ?_
    by_cases hb : b ∈ x.1
    · refine .inr (silent_of_mem_pads hy fun c hc => not_mem_click ?_)
      rintro rfl
      exact hxy hb hc
    · refine .inl (silent_of_mem_pads hx fun c hc => not_mem_click ?_)
      rintro rfl
      exact hb hc

theorem pressedAll_eq_flatMap {bs : List Button} (hbs : bs.Nodup) (b : Button) (s : State) :
    pressedAll now [.click b] bs s = bs.flatMap (pressed [.click b] · s) := by
  have hpairwise : (bs.map (pressed [.click b])).Pairwise fun p q => Silent p ∨ Silent q := by
    refine List.pairwise_map.2 (hbs.imp fun {c d} hcd => ?_)
    by_cases hc : c = b
    · exact .inr (silent_pressed (not_mem_click fun hd => hcd (hc.trans hd.symm)))
    · exact .inl (silent_pressed (not_mem_click hc))
  rw [pressedAll, follow_eq_flatMap hpairwise, List.flatMap_map]

theorem flatMap_pressed {bs : List Button} (hbs : bs.Nodup) (b : Button) (s : State) :
    bs.flatMap (pressed [.click b] · s) =
      if b ∈ bs ∧ b.enabled s = true then [b.operation] else [] := by
  induction bs with
  | nil => simp
  | cons c bs ih =>
    obtain ⟨hc, hbs⟩ := List.nodup_cons.1 hbs
    rw [List.flatMap_cons, ih hbs]
    by_cases hcb : c = b
    · subst hcb
      rw [if_neg fun h => hc h.1, List.append_nil, pressed]
      simp
    · rw [silent_pressed (not_mem_click hcb), List.nil_append]
      simp [List.mem_cons, Ne.symm hcb]

theorem carried_click (b : Button) (s : State) :
    carried now [.click b] s =
      .tick :: if b ∈ Button.shown (s.tick now) ∧ b.enabled (s.tick now) = true then
        [b.operation] else [] := by
  have hpanel (t : State) : ofPanel now [.click b] t =
      (if t.historyOpen then [Button.clearHistory] else []).flatMap (pressed [.click b] · t) := by
    unfold ofPanel
    split
    · rw [follow, follow, silent_reused (fun _ => by simp)]
      rfl
    · rfl
  have hpad (t : State) : ofScientificPad now [.click b] t =
      (if t.preferences.mode = .scientific then Button.scientificPad else []).flatMap
        (pressed [.click b] · t) := by
    unfold ofScientificPad
    split
    · exact pressedAll_eq_flatMap (by decide) b t
    · rfl
  have hentered : entered now [.click b] s = s.tick now := rfl
  rw [carried_eq, hentered, ← flatMap_pressed (Button.nodup_shown _) b]
  generalize s.tick now = t
  rw [follow_eq_flatMap (pairwise_parts b), Button.shown]
  simp only [pads, List.map_cons, List.map_nil, List.flatMap_cons, List.flatMap_nil,
    List.flatMap_append, hpanel, hpad]
  rw [pressedAll_eq_flatMap (by decide), pressedAll_eq_flatMap (by decide),
    pressedAll_eq_flatMap (by decide)]
  simp only [List.append_assoc, List.append_nil]
  rfl

end Frame

end Calculator
