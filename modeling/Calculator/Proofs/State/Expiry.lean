import Calculator.Proofs.Number.Order
import Calculator.State.Display

/-! The passing of time. It takes away the deadlines that have passed, and with that of an
error the error, and the next deadline is the first one that does so. Main statement: time
changes the state just when the next deadline has passed, the next one after that lies
ahead, and to let time pass in between makes no difference later. -/

set_option autoImplicit false

namespace Calculator

namespace State

/-- What is left of a deadline. -/
def remaining (now : Number) (deadline : Option Number) : Option Number :=
  if passed now deadline then none else deadline

theorem tick_eq (now : Number) (s : State) :
    s.tick now =
      { s with
        result := if passed now s.errorUntil then initialResult else s.result
        errorUntil := remaining now s.errorUntil
        copiedUntil := remaining now s.copiedUntil } := by
  unfold tick expireCopy expireError remaining
  cases passed now s.errorUntil <;> cases hcopied : passed now s.copiedUntil <;> simp [hcopied]

variable {now later : Number} {deadline : Option Number} {s : State}

theorem passed_iff : passed now deadline = true ↔ ∃ d, deadline = some d ∧ d.atMost now = true := by
  unfold passed
  exact Option.any_eq_true _ deadline

theorem passed_later (h : now.atMost later = true) (hpassed : passed now deadline = true) :
    passed later deadline = true := by
  obtain ⟨d, hd, hnow⟩ := passed_iff.1 hpassed
  exact passed_iff.2 ⟨d, hd, Number.atMost_trans hnow h⟩

theorem passed_remaining (now : Number) (deadline : Option Number) :
    passed now (remaining now deadline) = false := by
  unfold remaining
  split
  next => rfl
  next h => exact Bool.eq_false_iff.2 h

theorem remaining_of_not_passed (h : passed now deadline = false) :
    remaining now deadline = deadline := if_neg (Bool.eq_false_iff.1 h)

theorem eq_of_remaining {d : Number} (h : remaining now deadline = some d) :
    deadline = some d := by
  unfold remaining at h
  split at h
  · cases h
  · exact h

theorem remaining_remaining (h : now.atMost later = true) :
    remaining later (remaining now deadline) = remaining later deadline := by
  cases hpassed : passed now deadline with
  | false => rw [remaining_of_not_passed hpassed]
  | true =>
    have hnow : remaining now deadline = none := if_pos hpassed
    have hlater : remaining later deadline = none := if_pos (passed_later h hpassed)
    rw [hnow, hlater]
    rfl

theorem tick_eq_self_iff :
    s.tick now = s ↔ passed now s.errorUntil = false ∧ passed now s.copiedUntil = false := by
  constructor
  · intro h
    rw [← h, tick_eq]
    exact ⟨passed_remaining now _, passed_remaining now _⟩
  · rintro ⟨herror, hcopied⟩
    rw [tick_eq, remaining_of_not_passed herror, remaining_of_not_passed hcopied, herror]
    rfl

theorem tick_tick (h : now.atMost later = true) (s : State) :
    (s.tick now).tick later = s.tick later := by
  have hresult : (if passed later (remaining now s.errorUntil) then initialResult
      else if passed now s.errorUntil then initialResult else s.result) =
      if passed later s.errorUntil then initialResult else s.result := by
    cases hpassed : passed now s.errorUntil with
    | false => rw [remaining_of_not_passed hpassed, if_neg Bool.false_ne_true]
    | true => rw [passed_later h hpassed, if_pos rfl, ite_self]
  rw [tick_eq now s, tick_eq, tick_eq, remaining_remaining h, remaining_remaining h]
  exact congrArg (fun result => { s with
    result, errorUntil := remaining later s.errorUntil
    copiedUntil := remaining later s.copiedUntil }) hresult

theorem foldl_tick {times : List Number} (h : ∀ t ∈ times, t.atMost later = true) (s : State) :
    (times.foldl (fun s t => s.tick t) s).tick later = s.tick later := by
  induction times generalizing s with
  | nil => rfl
  | cons t times ih =>
    rw [List.foldl_cons, ih (fun u hu => h u (List.mem_cons_of_mem t hu)),
      tick_tick (h t List.mem_cons_self)]

theorem passed_nextDeadline (herror : s.errorUntil ≠ some .nan)
    (hcopied : s.copiedUntil ≠ some .nan) (now : Number) :
    passed now s.nextDeadline = (passed now s.errorUntil || passed now s.copiedUntil) := by
  unfold nextDeadline
  split
  next a b ha hb =>
    rw [ha, hb]
    exact Number.min_atMost (fun h => herror (h ▸ ha)) (fun h => hcopied (h ▸ hb)) now
  next a ha hb =>
    rw [ha, hb]
    exact (Bool.or_false _).symm
  next b ha =>
    rw [ha]
    rfl

theorem nextDeadline_ne_nan (herror : s.errorUntil ≠ some .nan)
    (hcopied : s.copiedUntil ≠ some .nan) : s.nextDeadline ≠ some .nan := by
  unfold nextDeadline
  split
  next a b ha hb =>
    rw [ne_eq, Option.some.injEq]
    exact Number.min_ne_nan (fun h => herror (h ▸ ha)) fun h => hcopied (h ▸ hb)
  next a ha hb => exact ha ▸ herror
  next b ha => exact hcopied

theorem passed_nextDeadline_tick (herror : s.errorUntil ≠ some .nan)
    (hcopied : s.copiedUntil ≠ some .nan) (now : Number) :
    passed now (s.tick now).nextDeadline = false ∧
      (s.tick now).nextDeadline ≠ some .nan := by
  have herror' : (s.tick now).errorUntil ≠ some .nan := by
    rw [tick_eq]
    exact fun h => herror (eq_of_remaining h)
  have hcopied' : (s.tick now).copiedUntil ≠ some .nan := by
    rw [tick_eq]
    exact fun h => hcopied (eq_of_remaining h)
  refine ⟨?_, nextDeadline_ne_nan herror' hcopied'⟩
  rw [passed_nextDeadline herror' hcopied', tick_eq]
  dsimp only
  rw [passed_remaining, passed_remaining, Bool.false_or]

/-- Time changes the state just when the next deadline has passed, and a next deadline that
there is then lies ahead. However often time passed before a later time makes no difference
at that time. -/
theorem tick_ne_iff_nextDeadline {s : State} (herror : s.errorUntil ≠ some .nan)
    (hcopied : s.copiedUntil ≠ some .nan) {now : Number} (hnow : now ≠ .nan) :
    (s.tick now ≠ s ↔ ∃ d, s.nextDeadline = some d ∧ d.atMost now = true) ∧
      (∀ d, (s.tick now).nextDeadline = some d → now.less d = true) ∧
      (∀ later, now.atMost later = true → (s.tick now).tick later = s.tick later) ∧
      ∀ (times : List Number) (later : Number), (∀ t ∈ times, t.atMost later = true) →
        (times.foldl (fun s t => s.tick t) s).tick later = s.tick later := by
  refine ⟨?_, fun d hd => ?_, fun later h => tick_tick h s, fun times later h => foldl_tick h s⟩
  · rw [← passed_iff, passed_nextDeadline herror hcopied, ne_eq, tick_eq_self_iff, Bool.or_eq_true]
    cases passed now s.errorUntil <;> cases passed now s.copiedUntil <;> decide
  · obtain ⟨hpassed, hnan⟩ := passed_nextDeadline_tick herror hcopied now
    rw [hd] at hpassed hnan
    have hahead : d.atMost now = false := hpassed
    rw [Number.less_eq_not_atMost (fun h => hnan (congrArg some h)) hnow, hahead]
    rfl

/-- An error until three seconds and a copy until two. -/
def errorBehindCopy : State :=
  { initial with
    result := errorResult
    errorUntil := some (.ofNat 3)
    copiedUntil := some (.ofNat 2) }

theorem tick_ne_iff_nextDeadline_errorBehindCopy :
    errorBehindCopy.tick (.ofNat 2) ≠ errorBehindCopy ∧
      (errorBehindCopy.tick (.ofNat 2)).nextDeadline = some (.ofNat 3) ∧
      (Number.ofNat 2).less (.ofNat 3) = true ∧
      (errorBehindCopy.tick (.ofNat 2)).tick (.ofNat 3) = errorBehindCopy.tick (.ofNat 3) := by
  have hlater : (Number.ofNat 2).atMost (.ofNat 3) = true := by decide +kernel
  have hnext : (errorBehindCopy.tick (.ofNat 2)).nextDeadline = some (.ofNat 3) := by
    decide +kernel
  obtain ⟨hchange, hahead, hskip, -⟩ :=
    @tick_ne_iff_nextDeadline errorBehindCopy (by decide +kernel) (by decide +kernel) (.ofNat 2)
      (by decide +kernel)
  exact ⟨hchange.2 ⟨.ofNat 2, by decide +kernel, by decide +kernel⟩, hnext, hahead _ hnext,
    hskip _ hlater⟩

end State

end Calculator
