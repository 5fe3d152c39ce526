import Calculator.Proofs.Number.Overflow
import Calculator.Proofs.ResultText
import Calculator.Proofs.State.Kept
import Calculator.Saved.Text

/-! The memory over a run. Its keys add a finite value to it or subtract one from it,
and what they store is not checked. Main statement: after a run the memory is finite
just if, since it was last cleared, no exact sum or difference has reached the limit of
the numbers; and just then the text that is fetched from it has a value. -/

set_option autoImplicit false

namespace Calculator

namespace Step

def clearsMemory (x : Step Action) : Bool := x.event = .operation (.memory .clear)

theorem clearsMemory_iff {x : Step Action} :
    x.clearsMemory = true ↔ x.event = .operation (.memory .clear) := decide_eq_true_iff

/-- An addition to the memory, or a subtraction from it, that leaves the range. -/
def Overflows (x : Step Action) : Prop :=
  ∃ y, x.before.memoryOperand = .ok y ∧
    (x.event = .operation (.memory .add) ∧ Number.limit ≤ |x.before.memory.toRat + y.toRat| ∨
      x.event = .operation (.memory .subtract) ∧
        Number.limit ≤ |x.before.memory.toRat - y.toRat|)

end Step

namespace State

theorem memory_perform_of_ne {a : Action} (ha : ∀ key, a ≠ .operation (.memory key))
    (now : Number) (s : State) : (a.perform now s).memory = s.memory := by
  cases hquiet : a.isQuiet with
  | true => exact (keeps_perform hquiet now s).memory
  | false =>
    unfold Action.isQuiet at hquiet
    split at hquiet
    · exact (keeps_calculate_with_history now s).memory
    · exact absurd rfl (ha _)
    · exact memory_reuse _ s
    · exact memory_requestClear s
    · rfl
    · cases hquiet

theorem isFinite_of_memoryOperand {s : State} {y : Number} (h : s.memoryOperand = .ok y) :
    y.isFinite = true := isFinite_of_evaluateWith h

theorem isFinite_add_iff {x y : Number} (hy : y.isFinite = true) :
    (x.add y).isFinite = true ↔ x.isFinite = true ∧ ¬ Number.limit ≤ |x.toRat + y.toRat| := by
  cases hx : x.isFinite with
  | true => rw [Number.isFinite_add hx hy, not_le, and_iff_right rfl]
  | false =>
    cases y with
    | finite t b => cases x <;> simp_all [Number.add, Number.isFinite]
    | _ => cases hy

theorem isFinite_sub_iff {x y : Number} (hy : y.isFinite = true) :
    (x.sub y).isFinite = true ↔ x.isFinite = true ∧ ¬ Number.limit ≤ |x.toRat - y.toRat| := by
  rw [Number.sub, isFinite_add_iff (by rw [Number.isFinite_neg, hy]), Number.toRat_neg,
    sub_eq_add_neg]

theorem overflows_add {s : State} {y : Number} (h : s.memoryOperand = .ok y) (now : Number) :
    Step.Overflows ⟨s, now, .operation (.memory .add)⟩ ↔
      Number.limit ≤ |s.memory.toRat + y.toRat| := by
  simp [Step.Overflows, h]

theorem overflows_subtract {s : State} {y : Number} (h : s.memoryOperand = .ok y) (now : Number) :
    Step.Overflows ⟨s, now, .operation (.memory .subtract)⟩ ↔
      Number.limit ≤ |s.memory.toRat - y.toRat| := by
  simp [Step.Overflows, h]

theorem not_overflows_of_error {s : State} {f : Fault} (h : s.memoryOperand = .error f)
    (now : Number) (a : Action) : ¬ Step.Overflows ⟨s, now, a⟩ := by
  simp [Step.Overflows, h]

theorem not_overflows_of_ne {a : Action} (hadd : a ≠ .operation (.memory .add))
    (hsubtract : a ≠ .operation (.memory .subtract)) (now : Number) (s : State) :
    ¬ Step.Overflows ⟨s, now, a⟩ := by
  simp [Step.Overflows, hadd, hsubtract]

theorem memory_useMemory_of_error {s : State} {f : Fault} (h : s.memoryOperand = .error f)
    {key : MemoryKey} (hkey : key ≠ .clear) (now : Number) :
    (s.useMemory key now).memory = s.memory := by
  cases key with
  | clear => exact absurd rfl hkey
  | fetch => rfl
  | add => rw [useMemory, h]; rfl
  | subtract => rw [useMemory, h]; rfl

theorem isFinite_memory_perform_of_ne {a : Action} (ha : a ≠ .operation (.memory .clear))
    (now : Number) (s : State) :
    (a.perform now s).memory.isFinite = true ↔
      s.memory.isFinite = true ∧ ¬ Step.Overflows ⟨s, now, a⟩ := by
  by_cases hkey : ∃ key, a = .operation (.memory key)
  · obtain ⟨key, rfl⟩ := hkey
    have hclear : key ≠ .clear := fun h => ha (h ▸ rfl)
    cases hy : s.memoryOperand with
    | error f =>
      have hsame : (s.useMemory key now).memory = s.memory := memory_useMemory_of_error hy hclear now
      rw [Action.perform, Operation.perform, hsame, and_iff_left (not_overflows_of_error hy now _)]
    | ok y =>
      have hfinite := isFinite_of_memoryOperand hy
      cases key with
      | clear => exact absurd rfl hclear
      | fetch => exact (and_iff_left (not_overflows_of_ne (by decide) (by decide) now s)).symm
      | add =>
        rw [overflows_add hy, ← isFinite_add_iff hfinite, Action.perform, Operation.perform,
          useMemory, hy]
      | subtract =>
        rw [overflows_subtract hy, ← isFinite_sub_iff hfinite, Action.perform, Operation.perform,
          useMemory, hy]
  · have hne (key : MemoryKey) : a ≠ .operation (.memory key) := fun h => hkey ⟨key, h⟩
    rw [memory_perform_of_ne hne, and_iff_left (not_overflows_of_ne (hne _) (hne _) now s)]

theorem isFinite_memory_after {s : State} (hs : s.memory.isFinite = true)
    (actions : List (Number × Action)) :
    (after Action.perform s actions).memory.isFinite = true ↔
      ∀ x ∈ since Action.perform Step.clearsMemory s actions, ¬ x.Overflows := by
  induction actions using List.reverseRecOn with
  | nil => simp [after, since, steps, hs]
  | append_singleton actions x ih =>
    obtain ⟨now, a⟩ := x
    rw [after_concat, since_concat]
    by_cases ha : a = .operation (.memory .clear)
    · rw [if_pos (Step.clearsMemory_iff.2 ha), ha]
      exact ⟨fun _ => List.forall_mem_nil _, fun _ => rfl⟩
    · rw [isFinite_memory_perform_of_ne ha, ih, if_neg (mt Step.clearsMemory_iff.1 ha),
        List.forall_mem_cons, and_comm]

theorem evaluate_resultText_of_not_isFinite {x : Number} (hx : x.isFinite = false) :
    ∃ f, evaluate x.resultText = .error f := by
  have hvalue : (evaluate x.resultText).toOption = none := by
    cases x with
    | nan => decide +kernel
    | infinite s => cases s <;> decide +kernel
    | finite s m => cases hx
  cases h : evaluate x.resultText with
  | error f => exact ⟨f, rfl⟩
  | ok y =>
    rw [h] at hvalue
    cases hvalue

theorem exists_evaluate_resultText_iff (x : Number) :
    (∃ y, evaluate x.resultText = .ok y) ↔ x.isFinite = true := by
  constructor
  · rintro ⟨y, hy⟩
    by_contra hx
    obtain ⟨f, hf⟩ := evaluate_resultText_of_not_isFinite (Bool.eq_false_iff.2 hx)
    rw [hf] at hy
    cases hy
  · intro hx
    cases x with
    | finite s m =>
      obtain ⟨t, w, hvalue, -⟩ := evaluate_resultText_finite s m
      exact ⟨_, hvalue⟩
    | _ => cases hx

theorem memory_load (stored : Option (List Char)) : (load stored).memory = .zero := by
  unfold load
  split <;> rfl

/-- After every run the memory is finite just if no sum or difference has left the range
since it was cleared, and just then the text that is fetched from it has a value. -/
theorem isFinite_memory_run_iff (stored : Option (List Char)) (actions : List (Number × Action)) :
    let s := (load stored).run actions
    (s.memory.isFinite = true ↔
      ∀ x ∈ since Action.perform Step.clearsMemory (load stored) actions, ¬ x.Overflows) ∧
    ∀ now, (∃ y, evaluate (s.useMemory .fetch now).expression = .ok y) ↔
      s.memory.isFinite = true := by
  intro s
  have hload : (load stored).memory.isFinite = true := by rw [memory_load]; rfl
  refine ⟨?_, fun now => exists_evaluate_resultText_iff s.memory⟩
  rw [← isFinite_memory_after hload, ← run_eq_after]

def sumOutOfRange : List (Number × Action) :=
  ('1' :: List.replicate 308 '0').map (fun c => (.zero, .operation (.type c))) ++
    [(.zero, .operation (.memory .add)), (.zero, .operation (.memory .add))]

set_option maxRecDepth 2000 in
theorem memory_sumOutOfRange : ((load none).run sumOutOfRange).memory = .infinite false := by
  decide +kernel

/-- The memory is infinite then, and nothing reads the text that is fetched from it. -/
theorem not_isFinite_memory_sumOutOfRange :
    ((load none).run sumOutOfRange).memory.isFinite = false ∧
      ∃ f, evaluate (((load none).run sumOutOfRange).useMemory .fetch .zero).expression =
        .error f := by
  have hfinite : ((load none).run sumOutOfRange).memory.isFinite = false := by
    rw [memory_sumOutOfRange]
    rfl
  exact ⟨hfinite, evaluate_resultText_of_not_isFinite hfinite⟩

theorem exists_overflows_sumOutOfRange :
    ∃ x ∈ since Action.perform Step.clearsMemory (load none) sumOutOfRange, x.Overflows := by
  by_contra hnone
  have hfinite := (isFinite_memory_run_iff none sumOutOfRange).1.2 fun x hx hover => hnone ⟨x, hx, hover⟩
  rw [memory_sumOutOfRange] at hfinite
  cases hfinite

end State

end Calculator
