import Calculator.Proofs.Number.Spacing
import Calculator.Proofs.Number.Sum
import Calculator.Proofs.State.Standing
import Calculator.Proofs.Window.Delegation

/-! The deadlines over runs of frames and actions, while time does not go back. Main
statement: after every frame a deadline lies ahead, by no more than its delay, so that the
window may rest until then; and an error that nothing replaces stands at every frame of the
next two seconds and at no later one. -/

set_option autoImplicit false

namespace Calculator

/-- What happens at one time: a frame of the window, or an action outside of the frames. -/
inductive Moment
  | frame (events : List Event)
  | action (a : Action)
  deriving DecidableEq, Repr

namespace Moment

def perform (now : Number) (s : State) : Moment → State
  | .frame events => s.refresh now events
  | .action a => a.perform now s

def actions (now : Number) (s : State) : Moment → List (Number × Action)
  | .frame events => (Frame.carried now events s).map fun op => (now, .operation op)
  | .action a => [(now, a)]

end Moment

namespace State

def actionsOf (s : State) : List (Number × Moment) → List (Number × Action)
  | [] => []
  | (now, m) :: moments => m.actions now s ++ actionsOf (m.perform now s) moments

theorem run_actions (now : Number) (s : State) (m : Moment) :
    s.run (m.actions now s) = m.perform now s := by
  cases m with
  | frame events =>
    rw [Moment.perform, refresh_eq_foldl]
    have hrun := run_operations now (Frame.carried now events s) [] s
    rw [List.append_nil] at hrun
    exact hrun
  | action a => rfl

theorem after_eq_run_actionsOf (s : State) (moments : List (Number × Moment)) :
    after Moment.perform s moments = s.run (s.actionsOf moments) := by
  induction moments generalizing s with
  | nil => rfl
  | cons x moments ih =>
    obtain ⟨now, m⟩ := x
    rw [actionsOf, run_append, run_actions]
    exact ih (m.perform now s)

theorem exists_moment_of_mem_actionsOf {s : State} {moments : List (Number × Moment)}
    {x : Number × Action} (h : x ∈ s.actionsOf moments) : ∃ m, (x.1, m) ∈ moments := by
  induction moments generalizing s with
  | nil => cases h
  | cons y moments ih =>
    obtain ⟨now, m⟩ := y
    rcases List.mem_append.1 h with hhere | hlater
    · refine ⟨m, ?_⟩
      have hnow : x.1 = now := by
        cases m with
        | frame events =>
          obtain ⟨op, -, rfl⟩ := List.mem_map.1 hhere
          rfl
        | action a =>
          rw [List.mem_singleton.1 hhere]
      rw [hnow]
      exact List.mem_cons_self
    · obtain ⟨m, hm⟩ := ih hlater
      exact ⟨m, List.mem_cons_of_mem _ hm⟩

/-- A time to which both delays can be added without rounding. -/
structure IsExactTime (now : Number) : Prop where
  finite : now.isFinite = true
  error : (now.add errorDelay).toRat = now.toRat + 2
  copied : (now.add copyDelay).toRat = now.toRat + 1

/-- Such are the times below 2^(52 - k) on the grid of 2^-k, and so whole seconds up to 2^52
or microseconds for a hundred years. -/
theorem isExactTime_of_dvd {negative : Bool} {a : Magnitude} {k : Nat} (hk : k ≤ 51)
    (hdvd : 2 ^ (Magnitude.fractionBits - k) ∣ a.units)
    (ha : a.units < 2 ^ (52 - k) * Magnitude.one) : IsExactTime (.finite negative a) where
  finite := rfl
  error := Number.toRat_add_ofNat hk hdvd ha (Nat.le_refl 2)
  copied := by
    rw [← Nat.cast_one]
    exact Number.toRat_add_ofNat hk hdvd ha (by decide)

theorem isExactTime_ofNat {n : Nat} (hn : n < 2 ^ (52 : Nat)) : IsExactTime (.ofNat n) := by
  obtain ⟨a, ha, hunits⟩ := Number.exists_ofNat_eq (n := n) (by omega)
  rw [ha]
  refine isExactTime_of_dvd (Nat.zero_le 51) ?_ ?_
  · rw [hunits, Nat.sub_zero]
    exact Nat.dvd_mul_left Magnitude.one n
  · rw [hunits]
    exact Nat.mul_lt_mul_of_pos_right hn Magnitude.one_pos

theorem isFinite_ofNat {n : Nat} (hn : n < 2 ^ (53 : Nat)) : (Number.ofNat n).isFinite = true := by
  obtain ⟨d, hd, -⟩ := Number.exists_ofNat_eq hn
  rw [hd]
  rfl

variable {now t : Number} {s : State}

theorem IsExactTime.isFinite_error (h : IsExactTime now) :
    (now.add errorDelay).isFinite = true := by
  refine Number.isFinite_add_of_toRat_eq h.finite (isFinite_ofNat (by decide)) ?_
  rw [h.error, errorDelay, Number.toRat_ofNat (by decide)]
  rfl

theorem IsExactTime.isFinite_copied (h : IsExactTime now) :
    (now.add copyDelay).isFinite = true := by
  refine Number.isFinite_add_of_toRat_eq h.finite (isFinite_ofNat (by decide)) ?_
  rw [h.copied, copyDelay, Number.toRat_ofNat (by decide), Nat.cast_one]

theorem IsExactTime.deadlinesAhead (h : IsExactTime now) : DeadlinesAhead now where
  error := by
    rw [← Bool.not_eq_true, Number.atMost_iff_toRat h.isFinite_error h.finite, h.error]
    linarith
  copied := by
    rw [← Bool.not_eq_true, Number.atMost_iff_toRat h.isFinite_copied h.finite, h.copied]
    linarith

/-- A deadline is a finite number that lies ahead of a time by some delay at most. -/
def Within (now : Number) (delay : ℚ) (deadline : Option Number) : Prop :=
  ∀ d, deadline = some d → d.isFinite = true ∧ d.toRat ≤ now.toRat + delay

theorem within_of_dated {delay : Number} {k : ℚ} {before after : Option Number}
    (h : Dated t delay before after) (hfinite : (t.add delay).isFinite = true)
    (hsum : (t.add delay).toRat = t.toRat + k) (ht : t.toRat ≤ now.toRat)
    (hbefore : Within now k before) : Within now k after := by
  cases h with
  | kept => exact hbefore
  | gone => exact nofun
  | set =>
    intro d hd
    obtain rfl := Option.some.inj hd
    exact ⟨hfinite, by rw [hsum]; linarith⟩

structure Timed (now : Number) (s : State) : Prop where
  error : Within now 2 s.errorUntil
  copied : Within now 1 s.copiedUntil

theorem Timed.perform (h : Timed now s) (ht : IsExactTime t) (hle : t.toRat ≤ now.toRat)
    (a : Action) : Timed now (a.perform t s) where
  error := within_of_dated (dates_perform t s a).error ht.isFinite_error ht.error hle h.error
  copied := within_of_dated (dates_perform t s a).copied ht.isFinite_copied ht.copied hle h.copied

theorem Timed.moment (h : Timed now s) (ht : IsExactTime t) (hle : t.toRat ≤ now.toRat)
    (m : Moment) : Timed now (m.perform t s) := by
  cases m with
  | frame events =>
    exact refresh_invariant (fun op _ hs => hs.perform ht hle (.operation op)) h events
  | action a => exact h.perform ht hle a

theorem timed_load (now : Number) (stored : Option (List Char)) : Timed now (load stored) := by
  unfold load
  split <;> exact ⟨nofun, nofun⟩

theorem awaits_refresh (h : DeadlinesAhead now) (s : State) (events : List Event) :
    Awaits now (s.refresh now events) := by
  obtain ⟨ops, hops⟩ : ∃ ops, Frame.carried now events s = .tick :: ops := ⟨_, rfl⟩
  rw [refresh_eq_foldl, hops, List.foldl_cons]
  exact (awaits_tick now s).foldl h ops

theorem Timed.within_nextDeadline (h : Timed now s) : Within now 2 s.nextDeadline := by
  have hcopied : Within now 2 s.copiedUntil := by
    intro d hd
    obtain ⟨hfinite, hle⟩ := h.copied d hd
    exact ⟨hfinite, by linarith⟩
  unfold nextDeadline
  split
  next a b ha hb =>
    intro d hd
    obtain rfl := Option.some.inj hd
    rcases Number.min_eq_or a b with hmin | hmin
    · rw [hmin]
      exact h.error a ha
    · rw [hmin]
      exact hcopied b hb
  next a ha hb => exact ha ▸ h.error
  next b ha => exact hcopied

theorem Within.ne_nan {k : ℚ} {deadline : Option Number} (h : Within now k deadline) :
    deadline ≠ some .nan := by
  intro hnan
  obtain ⟨hfinite, -⟩ := h _ hnan
  cases hfinite

theorem Timed.not_passed_nextDeadline (h : Timed now s) (hs : Awaits now s) :
    passed now s.nextDeadline = false := by
  rw [passed_nextDeadline h.error.ne_nan h.copied.ne_nan, hs.error, hs.copied]
  rfl

theorem Within.ahead {k : ℚ} {deadline : Option Number} (h : Within now k deadline)
    (hnow : now.isFinite = true) (hpassed : passed now deadline = false) {d : Number}
    (hd : deadline = some d) :
    d.isFinite = true ∧ now.toRat < d.toRat ∧ d.toRat ≤ now.toRat + k := by
  obtain ⟨hfinite, hle⟩ := h d hd
  refine ⟨hfinite, ?_, hle⟩
  rw [hd] at hpassed
  have hnot : ¬d.atMost now = true := Bool.eq_false_iff.1 hpassed
  rw [Number.atMost_iff_toRat hfinite hnow] at hnot
  exact not_le.1 hnot

theorem exists_nanoseconds? {m : Magnitude} (h : m.units < 2 ^ (64 : Nat) * Magnitude.one) :
    ∃ n, (Number.finite false m).nanoseconds? = some n := by
  have hduration : ¬((false = true ∧ m.units ≠ 0) ∨ 2 ^ (64 : Nat) * Magnitude.one ≤ m.units) := by
    rintro (⟨hneg, -⟩ | hlarge)
    · cases hneg
    · exact Nat.not_le.2 h hlarge
  rw [Number.nanoseconds?, if_neg hduration]
  exact ⟨_, rfl⟩

theorem rest?_bounds {w : Number} (hnow : now.isFinite = true) (h : Timed now s)
    (hs : Awaits now s) (hw : s.rest? now = some w) :
    w.isFinite = true ∧ 0 < w.toRat ∧ w.toRat ≤ 2 ∧ ∃ n, w.nanoseconds? = some n := by
  obtain ⟨d, hd, rfl⟩ := Option.map_eq_some_iff.1 hw
  obtain ⟨hfinite, hahead, hle⟩ :=
    h.within_nextDeadline.ahead hnow (h.not_passed_nextDeadline hs) hd
  obtain ⟨two, hdelay, hunits⟩ := @Number.exists_ofNat_eq 2 (by decide)
  have htwo : two.toRat = 2 := by
    have hvalue := @Number.toRat_ofNat 2 (by decide)
    rw [hdelay] at hvalue
    exact hvalue
  obtain ⟨m, hm, hpos, hm2⟩ := Number.exists_sub_of_lt hfinite hnow hahead (htwo ▸ hle)
  rw [hm, Number.max_zero]
  have hone := Magnitude.one_pos
  refine ⟨rfl, ?_, htwo ▸ Magnitude.toRat_le_iff.2 hm2, exists_nanoseconds? (by omega)⟩
  exact lt_of_le_of_ne m.toRat_nonneg fun h => hpos.ne' (Magnitude.toRat_eq_zero_iff.1 h.symm)

structure Timely (moments : List (Number × Moment)) : Prop where
  exact : ∀ x ∈ moments, IsExactTime x.1
  ordered : moments.Pairwise fun x y => x.1.atMost y.1 = true

theorem Timely.le_last {front : List (Number × Moment)} {m : Moment}
    (h : Timely (front ++ [(now, m)])) :
    ∀ x ∈ front ++ [(now, m)], x.1.toRat ≤ now.toRat := by
  intro x hx
  have hnow : IsExactTime now := h.exact (now, m) (List.mem_append_right _ List.mem_cons_self)
  rcases List.mem_append.1 hx with hfront | hlast
  · have hle := (List.pairwise_append.1 h.ordered).2.2 x hfront (now, m) List.mem_cons_self
    exact (Number.atMost_iff_toRat (h.exact x hx).finite hnow.finite).1 hle
  · rw [List.mem_singleton.1 hlast]

theorem timed_after (stored : Option (List Char)) {moments : List (Number × Moment)}
    (hexact : ∀ x ∈ moments, IsExactTime x.1) (hle : ∀ x ∈ moments, x.1.toRat ≤ now.toRat) :
    Timed now (after Moment.perform (load stored) moments) :=
  after_invariant_of_mem Moment.perform
    (fun x hx _ hs => hs.moment (hexact x hx) (hle x hx) x.2) (timed_load now stored)

theorem awaits_after_frame (h : DeadlinesAhead now) (s : State)
    (front : List (Number × Moment)) (events : List Event) :
    Awaits now (after Moment.perform s (front ++ [(now, .frame events)])) := by
  rw [after_concat]
  exact awaits_refresh h _ events

theorem RaisedAt.error_at {actions : List (Number × Action)} (h : RaisedAt t s actions)
    (htimes : ∀ x ∈ actions, IsExactTime x.1 ∧ x.1.toRat ≤ now.toRat)
    (hnow : now.isFinite = true) (hs : Awaits now (s.run actions)) :
    (now.toRat < t.toRat + 2 → ErrorStands (t.add errorDelay) (s.run actions)) ∧
      (t.toRat + 2 ≤ now.toRat → ErrorOver (s.run actions)) := by
  obtain ⟨a, ha⟩ := h.mem
  have ht : IsExactTime t := (htimes (t, a) ha).1
  have hiff {u : Number} (hu : u.isFinite = true) :
      (t.add errorDelay).atMost u = true ↔ t.toRat + 2 ≤ u.toRat := by
    rw [Number.atMost_iff_toRat ht.isFinite_error hu, ht.error]
  rcases h.errorStands_or_errorOver with hstands | ⟨hover, x, hx, hreached⟩
  · refine ⟨fun _ => hstands, fun hlate => ?_⟩
    have hpassed := hs.error
    rw [hstands.errorUntil] at hpassed
    exact absurd ((hiff hnow).2 hlate) (Bool.eq_false_iff.1 hpassed)
  · refine ⟨fun hearly => ?_, fun _ => hover⟩
    obtain ⟨hexact, hle⟩ := htimes x hx
    have hlate := (hiff hexact.finite).1 hreached
    exact absurd hearly (by linarith)

/-- After every frame of a run at exact times that never decrease: a deadline lies ahead, by
its delay at most, and the window rests for a duration until the next one; and an error that
was raised at some time, with no other error, no result and no emptied display since, is
displayed before two seconds are over, and the initial result from then on. -/
theorem deadlines_after_frame (stored : Option (List Char)) (front : List (Number × Moment))
    (now : Number) (events : List Event) (h : Timely (front ++ [(now, .frame events)])) :
    let moments := front ++ [(now, .frame events)]
    let actions := (load stored).actionsOf moments
    let s := after Moment.perform (load stored) moments
    (∀ d, s.errorUntil = some d →
      d.isFinite = true ∧ now.toRat < d.toRat ∧ d.toRat ≤ now.toRat + 2) ∧
      (∀ d, s.copiedUntil = some d →
        d.isFinite = true ∧ now.toRat < d.toRat ∧ d.toRat ≤ now.toRat + 1) ∧
      (∀ w, s.rest? now = some w →
        w.isFinite = true ∧ 0 < w.toRat ∧ w.toRat ≤ 2 ∧ ∃ n, w.nanoseconds? = some n) ∧
      s = (load stored).run actions ∧
      ∀ t, RaisedAt t (load stored) actions →
        (now.toRat < t.toRat + 2 →
          s.result = "Error".toList ∧ s.errorUntil = some (t.add errorDelay)) ∧
          (t.toRat + 2 ≤ now.toRat → s.result = "0".toList ∧ s.errorUntil = none) := by
  intro moments actions s
  have hnow : IsExactTime now :=
    h.exact (now, .frame events) (List.mem_append_right _ List.mem_cons_self)
  have htimed : Timed now s := timed_after stored h.exact h.le_last
  have hawaits : Awaits now s := awaits_after_frame hnow.deadlinesAhead _ front events
  have hrun : s = (load stored).run actions := after_eq_run_actionsOf _ moments
  refine ⟨fun d => htimed.error.ahead hnow.finite hawaits.error,
    fun d => htimed.copied.ahead hnow.finite hawaits.copied,
    fun w => rest?_bounds hnow.finite htimed hawaits, hrun, fun t ht => ?_⟩
  have htimes : ∀ x ∈ actions, IsExactTime x.1 ∧ x.1.toRat ≤ now.toRat := by
    intro x hx
    obtain ⟨m, hm⟩ := exists_moment_of_mem_actionsOf hx
    exact ⟨h.exact _ hm, h.le_last _ hm⟩
  rw [hrun] at hawaits ⊢
  obtain ⟨hearly, hlate⟩ := ht.error_at htimes hnow.finite hawaits
  exact ⟨fun h => ⟨(hearly h).result, (hearly h).errorUntil⟩,
    fun h => ⟨(hlate h).result, (hlate h).errorUntil⟩⟩

def divided : List (Number × Moment) :=
  [(.ofNat 3, .frame [.typed "1/0".toList, .key (some .equals)])]

theorem timely_divided :
    Timely (divided ++ [(.ofNat 4, .frame [])] ++ [(.ofNat 5, .frame [])]) where
  exact := by
    intro x hx
    simp only [divided, List.cons_append, List.nil_append, List.mem_cons, List.not_mem_nil,
      or_false] at hx
    rcases hx with rfl | rfl | rfl <;> dsimp only <;> exact isExactTime_ofNat (by decide)
  ordered := by decide +kernel

/-- The error is displayed at four seconds, with a second to rest, and is gone at five. -/
theorem deadlines_after_frame_divided :
    let s := after Moment.perform (load none) (divided ++ [(.ofNat 4, .frame [])])
    let t := after Moment.perform (load none)
      (divided ++ [(.ofNat 4, .frame [])] ++ [(.ofNat 5, .frame [])])
    s.result = "Error".toList ∧ s.rest? (.ofNat 4) = some (.ofNat 1) ∧
      0 < (Number.ofNat 1).toRat ∧ t.result = "0".toList ∧ t.errorUntil = none := by
  intro s t
  have htimely : Timely (divided ++ [(.ofNat 4, .frame [])]) :=
    ⟨fun x hx => timely_divided.exact x (List.mem_append_left _ hx),
      (List.pairwise_append.1 timely_divided.ordered).1⟩
  obtain ⟨-, -, hrest, -, hstands⟩ := deadlines_after_frame none divided (.ofNat 4) [] htimely
  obtain ⟨-, -, -, -, hover⟩ := deadlines_after_frame none _ (.ofNat 5) [] timely_divided
  let entered : List (Number × Action) :=
    [.tick, .type '1', .type '/', .type '0'].map fun op => (.ofNat 3, .operation op)
  have hs := hstands (.ofNat 3) ⟨entered, .operation (.press .equals),
    [(.ofNat 4, .operation .tick)], .divisionByZero, by decide +kernel, by decide +kernel,
    by decide +kernel⟩
  have ht := hover (.ofNat 3) ⟨entered, .operation (.press .equals),
    [(.ofNat 4, .operation .tick), (.ofNat 5, .operation .tick)], .divisionByZero,
    by decide +kernel, by decide +kernel, by decide +kernel⟩
  rw [Number.toRat_ofNat (by decide), Number.toRat_ofNat (by decide)] at hs ht
  have hone : s.rest? (.ofNat 4) = some (.ofNat 1) := by decide +kernel
  exact ⟨(hs.1 (by norm_num)).1, hone, (hrest _ hone).2.1, ht.2 (by norm_num)⟩

end State

end Calculator
