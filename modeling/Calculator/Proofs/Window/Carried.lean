import Calculator.Window.Frame

set_option autoImplicit false

namespace Calculator

namespace Frame

/-- The operations of parts that act one after the other. -/
def follow (now : Number) : List (State → List Operation) → State → List Operation
  | [], _ => []
  | part :: parts, s => part s ++ follow now parts ((part s).foldl (Operation.perform now) s)

def keyed : Event → List Operation
  | .typed text => text.map .type
  | .key (some k) => [.press k]
  | _ => []

def pressed (events : List Event) (b : Button) (s : State) : List Operation :=
  if .click b ∈ events ∧ b.enabled s = true then [b.operation] else []

def pressedAll (now : Number) (events : List Event) (bs : List Button) :
    State → List Operation :=
  follow now (bs.map (pressed events))

def reused (events : List Event) (s : State) : List Operation :=
  (clickedRow? events s).elim [] fun index => [.reuse index]

def ofPanel (now : Number) (events : List Event) (s : State) : List Operation :=
  if s.historyOpen then follow now [pressed events .clearHistory, reused events] s else []

def ofScientificPad (now : Number) (events : List Event) (s : State) : List Operation :=
  if s.preferences.mode = .scientific then pressedAll now events Button.scientificPad s else []

/-- All that a frame carries out, in order. -/
def carried (now : Number) (events : List Event) : State → List Operation :=
  follow now
    [fun _ => .tick :: events.flatMap keyed, ofPanel now events,
      pressedAll now events Button.topBar, pressed events .copy,
      pressedAll now events Button.memoryRow, ofScientificPad now events,
      pressedAll now events Button.mainPad]

def Carries (now : Number) (draw : Frame → Frame) (part : State → List Operation) : Prop :=
  ∀ f : Frame, (draw f).state = (part f.state).foldl (Operation.perform now) f.state

variable {now : Number}

theorem carries_nil : Carries now id (follow now []) := fun _ => rfl

theorem Carries.cons {draw rest : Frame → Frame} {part : State → List Operation}
    {parts : List (State → List Operation)} (h : Carries now draw part)
    (hrest : Carries now rest (follow now parts)) :
    Carries now (rest ∘ draw) (follow now (part :: parts)) := by
  intro f
  rw [follow, List.foldl_append, ← h f]
  exact hrest (draw f)

theorem carries_draw (events : List Event) (b : Button) :
    Carries now (draw now events · b) (pressed events b) := by
  intro f
  dsimp only
  unfold draw pressed
  split <;> rfl

theorem carries_drawAll (events : List Event) (bs : List Button) :
    Carries now (drawAll now events · bs) (pressedAll now events bs) := by
  induction bs with
  | nil => exact carries_nil
  | cons b bs ih => exact (carries_draw events b).cons ih

theorem carries_drawRows (events : List Event) :
    Carries now (drawRows events) (reused events) := by
  intro f
  unfold drawRows reused
  cases clickedRow? events f.state <;> rfl

theorem carries_drawPanel (events : List Event) :
    Carries now (drawPanel now events) (ofPanel now events) := by
  intro f
  unfold drawPanel ofPanel
  split
  · exact ((carries_draw events .clearHistory).cons ((carries_drawRows events).cons carries_nil)) f
  · rfl

theorem carries_drawScientificPad (events : List Event) :
    Carries now (drawScientificPad now events) (ofScientificPad now events) := by
  intro f
  unfold drawScientificPad ofScientificPad
  split
  · exact carries_drawAll events Button.scientificPad f
  · rfl

theorem type_eq_foldl (s : State) (event : Event) :
    type now s event = (keyed event).foldl (Operation.perform now) s := by
  cases event with
  | typed text =>
    rw [keyed, List.foldl_map]
    rfl
  | key k => cases k <;> rfl
  | _ => rfl

theorem carries_entered (events : List Event) :
    Carries now (fun f => { f with state := entered now events f.state })
      (fun _ => .tick :: events.flatMap keyed) := by
  intro f
  rw [List.foldl_cons, List.foldl_flatMap]
  exact congrArg (fun g => events.foldl g (f.state.tick now))
    (funext fun s => funext fun event => type_eq_foldl s event)

theorem entered_eq_foldl (now : Number) (events : List Event) (s : State) :
    entered now events s = (.tick :: events.flatMap keyed).foldl (Operation.perform now) s :=
  carries_entered events ⟨s, []⟩

theorem carries_drawWindow (events : List Event) :
    Carries now (fun f => drawWindow now events { f with state := entered now events f.state })
      (carried now events) := by
  have hmain : Carries now _ _ := (carries_drawAll events Button.mainPad).cons carries_nil
  have hscientific := (carries_drawScientificPad events).cons hmain
  have hmemory := (carries_drawAll events Button.memoryRow).cons hscientific
  have hcopy := (carries_draw events .copy).cons hmemory
  have htop := (carries_drawAll events Button.topBar).cons hcopy
  have hpanel := (carries_drawPanel events).cons htop
  exact (carries_entered events).cons hpanel

end Frame

namespace State

variable (now : Number) (events : List Event) (s : State)

theorem refresh_eq_foldl :
    s.refresh now events = (Frame.carried now events s).foldl (Operation.perform now) s :=
  Frame.carries_drawWindow events ⟨s, []⟩

theorem refresh_invariant {P : State → Prop} {now : Number}
    (hperform : ∀ (op : Operation) s, P s → P (op.perform now s)) {s : State} (hs : P s)
    (events : List Event) : P (s.refresh now events) := by
  rw [refresh_eq_foldl]
  exact List.foldlRecOn _ _ hs fun s hs op _ => hperform op s hs

end State

end Calculator
