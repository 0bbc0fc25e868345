import Hamstercam.Capture.Pacing

/-!
# Is the recommended wait enough?

* `Turn.Sufficient` — a step that comes after the wait makes an attempt.
* `StepCase.early` — a step that comes before the deadline does nothing but read the clock, and
  recommends what is left, in whole milliseconds; `StepCase.sufficient_of_early` says when that is
  enough.
* `wait_enough_iff` — the waits of a run are enough if and only if every step before a deadline finds a
  whole number of milliseconds left. Those after failed attempts always are.
-/

namespace Hamstercam

open Interaction CaptureStateMachine

/-- Every step that comes after the recommended wait makes an attempt; the wait counts from the last
reading of the clock.
Source: `capture_state_machine.hpp` `CaptureStateMachine::StepOutcome` (comment) -/
def Turn.Sufficient (rnd : ℚ → ℚ) (l : Turn) : Prop :=
  ∀ read l' m', l.readings.getLast? = some read → Turn.Of rnd l.post l' m' →
    (∀ r, l'.readings.head? = some r → read + l.outcome.recommendedWait.toNanos ≤ r) →
    l'.attempts = true

section waits

variable {rnd : ℚ → ℚ} {config : DaemonConfig} {now r : TimePoint} {ls : List Turn} {l : Turn}
  {m m' : CaptureStateMachine} {t : Millis} {tr : List Observation} {out : StepOutcome}

/-! ## Steps before the deadline -/

/-- **What a step without an attempt does.** Source: `capture_state_machine.cpp` `step_device_absent`,
`step_awaiting_producer`, `step_recovering` -/
theorem CaptureStateMachine.StepCase.early (hm : Resting m) (hs : m.state ≠ .streaming)
    (h : StepCase rnd t m tr out m') (ha : Turn.attempts ⟨m, t, tr, out, m'⟩ = false) :
    ∃ read, tr = [.steady read] ∧ read < m.nextAttemptAt ∧ m' = m ∧
      out = ⟨durationCastMillis (m.nextAttemptAt - read)⟩ := by
  obtain ⟨read, hread, hattempt⟩ := h.attempts_iff hm hs
  have hearly : read < m.nextAttemptAt := by
    apply Int.not_le.mp
    intro hle
    rw [hattempt.mpr hle] at ha
    cases ha
  cases h with
  | absentWaits hs' hw | waitingWaits hs' hr hw | recoveringWaits hs' hr hw =>
      exact ⟨_, rfl, hw, rfl, rfl⟩
  | absentOpens hs' hw | absentFails hs' hw | waitingNoProducer hs' hr hw
  | waitingQueryFails hs' hr hw | waitingStartFails hs' hr hw | recoveringLoses hs' hr hw
  | recoveringNoProducer hs' hr hw | recoveringQueryFails hs' hr hw
  | recoveringStartFails hs' hr hw | recoveringStarts hs' hr hw =>
      obtain rfl := Option.some.inj hread
      exact absurd hw (Int.not_le.mpr hearly)
  | waitingStarts hs' hr hw hb | waitingReconnects hs' hr hw hb =>
      obtain rfl := Option.some.inj hread
      exact absurd hw (Int.not_le.mpr hearly)
  | transient hs' => cases hread
  | _ => contradiction

/-- There is a step at every reading before the deadline.
Source: `capture_state_machine.cpp` `CaptureStateMachine::step` -/
theorem exists_early (hm : Resting m) (hs : m.state ≠ .streaming) (hr : r < m.nextAttemptAt) :
    ∃ l, Turn.Of rnd m l m ∧ l.readings = [r] ∧ l.attempts = false := by
  have hturn : ∃ out, StepCase rnd 0 m [.steady r] out m := by
    obtain habsent | hwaiting | hstreams := hm.state
    · exact ⟨_, .absentWaits habsent hr⟩
    · cases hrec : m.recovering with
      | false => exact ⟨_, .waitingWaits hwaiting hrec hr⟩
      | true => exact ⟨_, .recoveringWaits hwaiting hrec hr⟩
    · exact absurd hstreams hs
  obtain ⟨out, hcase⟩ := hturn
  exact ⟨_, Turn.of_case hcase, rfl, by simp [Turn.attempts]⟩

/-- **When a wait is enough**: it reaches the deadline.
Source: `capture_state_machine.cpp` `CaptureStateMachine::step` -/
theorem Turn.sufficient_iff (hm : Resting l.post) (hs : l.post.state ≠ .streaming)
    (hread : l.readings.getLast? = some r) : l.Sufficient rnd ↔
      l.post.nextAttemptAt ≤ r + l.outcome.recommendedWait.toNanos := by
  constructor
  · intro h
    by_contra hshort
    obtain ⟨l', hl', hreadings, hnone⟩ := exists_early hm hs (Int.not_le.mp hshort)
    have hattempts := h r l' _ hread hl' (by simp [hreadings])
    rw [hnone] at hattempts
    cases hattempts
  · intro h read l' m' hread' hl' hafter
    obtain rfl : r = read := Option.some.inj (hread.symm.trans hread')
    have hcase := hl'.case
    obtain ⟨hpre, hpost, -⟩ := hl'
    obtain ⟨r', hr', hattempt⟩ := hcase.attempts_iff hm hs
    subst hpost
    have hturn : l' = ⟨l.post, l'.pollTimeout, l'.trace, l'.outcome, l'.post⟩ := by
      rw [← hpre]
    rw [hturn]
    exact hattempt.mpr (Int.le_trans h (hafter r' hr'))

/-- What is left in whole milliseconds is all that is left if there is no remainder.
Source: `capture_state_machine.cpp` `duration_cast<milliseconds>` -/
theorem toNanos_durationCastMillis {ns : Int} (h : 0 < ns) :
    ns ≤ (durationCastMillis ns).toNanos ↔ (1000000 : Int) ∣ ns := by
  rw [durationCastMillis, Int.tdiv_eq_ediv_of_nonneg (Int.le_of_lt h), Millis.toNanos]
  show ns ≤ ns / 1000000 * 1000000 ↔ _
  omega

/-- **When the wait of a step without an attempt is enough.**
Source: `capture_state_machine.cpp` `step_device_absent`, `step_awaiting_producer`, `step_recovering` -/
theorem Turn.Of.early_iff (hm : Resting m) (hs : m.state ≠ .streaming) (hl : Turn.Of rnd m l m')
    (ha : l.attempts = false) : ∃ ns, l.remaining = some ns ∧ 0 < ns ∧
      ((0 < l.outcome.recommendedWait ∧ l.Sufficient rnd) ↔ (1000000 : Int) ∣ ns) := by
  have hcase := hl.case
  obtain ⟨rfl, rfl, -⟩ := hl
  obtain ⟨read, htrace, hearly, hpost, hout⟩ := hcase.early hm hs ha
  have hreadings : l.readings = [read] := by rw [Turn.readings, htrace]; rfl
  have hleft : 0 < l.pre.nextAttemptAt - read := Int.sub_pos_of_lt hearly
  have hsufficient : l.Sufficient rnd ↔ (1000000 : Int) ∣ l.pre.nextAttemptAt - read := by
    have hread : l.readings.getLast? = some read := by rw [hreadings]; rfl
    rw [Turn.sufficient_iff (hpost ▸ hm) (hpost ▸ hs) hread, hpost, hout,
      ← toNanos_durationCastMillis hleft, sub_le_iff_le_add']
  refine ⟨l.pre.nextAttemptAt - read, ?_, hleft, ?_⟩
  · rw [Turn.remaining, if_neg hs, hreadings]
    rfl
  · rw [hsufficient, hout, durationCastMillis_pos hleft]
    constructor
    · exact And.right
    · exact fun h => ⟨Int.le_of_dvd hleft h, h⟩

/-- A wait after a failed attempt is enough.
Source: `capture_state_machine.cpp` `step_device_absent`, `step_awaiting_producer`, `step_recovering` -/
theorem Turn.Of.sufficient_of_fails (hm : Resting m) (hs : m.state ≠ .streaming)
    (hl : Turn.Of rnd m l m') (hf : l.fails = true) : l.Sufficient rnd := by
  have hcase := hl.case
  have hpost := hm.keeps hcase
  obtain ⟨rfl, rfl, -⟩ := hl
  obtain ⟨hstate, ⟨read, hread, hdeadline⟩, -⟩ := hcase.failure hf
  rw [Turn.sufficient_iff hpost (hstate ▸ hs) hread, hdeadline]

/-- A step that finds the deadline ahead makes no attempt.
Source: `capture_state_machine.cpp` `step_device_absent`, `step_awaiting_producer`, `step_recovering` -/
theorem Turn.Of.attempts_of_remaining (hm : Resting m) (hl : Turn.Of rnd m l m') {ns : Int}
    (hleft : l.remaining = some ns) (hns : 0 < ns) :
    m.state ≠ .streaming ∧ l.attempts = false := by
  have hcase := hl.case
  obtain ⟨rfl, rfl, -⟩ := hl
  have hs : l.pre.state ≠ .streaming := by
    intro hs
    rw [Turn.remaining, if_pos hs] at hleft
    cases hleft
  refine ⟨hs, ?_⟩
  obtain ⟨read, hread, hattempt⟩ := hcase.attempts_iff hm hs
  have hread : l.readings.head? = some read := hread
  rw [Turn.remaining, if_neg hs, hread] at hleft
  obtain rfl := Option.some.inj hleft
  apply Bool.eq_false_iff.mpr
  intro ha
  exact absurd (Int.lt_of_sub_pos hns) (Int.not_lt.mpr (hattempt.mp ha))

/-- **When the recommended waits of a run are enough**: every step outside a stream that comes before the
deadline comes a whole number of milliseconds before it. The waits after failed attempts are always
enough.
Source: `capture_state_machine.cpp` `step_device_absent`, `step_awaiting_producer`, `step_recovering`,
`enter_configuring` -/
theorem wait_enough_iff (h : CaptureRun rnd config now ls m) :
    (∀ l ∈ ls, l.pre.state ≠ .streaming →
      (l.attempts = false → 0 < l.outcome.recommendedWait ∧ l.Sufficient rnd) ∧
        (l.fails = true → l.Sufficient rnd)) ↔
    ∀ l ∈ ls, ∀ ns, l.remaining = some ns → 0 < ns → (1000000 : Int) ∣ ns := by
  have hturn : ∀ l ∈ ls, ∃ m', Resting l.pre ∧ Turn.Of rnd l.pre l m' := by
    intro l hl
    obtain ⟨before, m₁, m₂, -, hbefore, hturn⟩ := h.at_mem hl
    obtain ⟨rfl, -, -⟩ := id hturn
    exact ⟨m₂, CaptureRun.resting hbefore, hturn⟩
  constructor
  · intro hwaits l hl ns hleft hns
    obtain ⟨m', hm, hof⟩ := hturn l hl
    obtain ⟨hs, ha⟩ := hof.attempts_of_remaining hm hleft hns
    obtain ⟨ns', hleft', -, hiff⟩ := hof.early_iff hm hs ha
    obtain rfl : ns = ns' := Option.some.inj (hleft.symm.trans hleft')
    exact hiff.mp ((hwaits l hl hs).1 ha)
  · intro hwhole l hl hs
    obtain ⟨m', hm, hof⟩ := hturn l hl
    refine ⟨?_, hof.sufficient_of_fails hm hs⟩
    intro ha
    obtain ⟨ns, hleft, hns, hiff⟩ := hof.early_iff hm hs ha
    exact hiff.mpr (hwhole l hl ns hleft hns)

end waits

/-! ## A step half a millisecond too early -/

/-- A step 199.5 ms before the deadline: it recommends 199 ms. Source: none: infrastructure -/
def earlyStep : Turn := ⟨openFailed, 200, [.steady 500000], ⟨199⟩, openFailed⟩

/-- Source: none: infrastructure -/
theorem earlyStep_run : CaptureRun id {} 0 [failedOpen, earlyStep] openFailed :=
  CaptureRun.snoc (t := 200) failedOpen_run (.absentWaits rfl (by decide))

/-- The wait after the failed `open` is enough. Source: `capture_state_machine.cpp` `step_device_absent` -/
theorem wait_enough_failedOpen : failedOpen.Sufficient id :=
  ((wait_enough_iff failedOpen_run).mpr (by
    intro l hl ns hleft hns
    obtain rfl := List.mem_singleton.mp hl
    obtain rfl : 0 = ns := Option.some.inj hleft
    exact absurd hns (by decide)) failedOpen (List.mem_singleton_self _) (by decide)).2 (by decide)

/-- **A wait that is too short**: on a clock that does not go back, the step after it comes 0.5 ms too
early again.
Source: `capture_state_machine.cpp` `step_device_absent` -/
theorem wait_too_short :
    ¬ ∀ (config : DaemonConfig) (now : TimePoint) (ls : List Turn) (m : CaptureStateMachine),
      CaptureRun id config now ls m → NonDecreasing now ls → ∀ l ∈ ls, l.pre.state ≠ .streaming →
        (l.attempts = false → 0 < l.outcome.recommendedWait ∧ l.Sufficient id) ∧
          (l.fails = true → l.Sufficient id) := by
  intro h
  have henough := ((h _ _ _ _ earlyStep_run (by decide) earlyStep (by simp) (by decide)).1
    (by decide)).2
  have hpost : Resting earlyStep.post := CaptureRun.resting earlyStep_run
  have hreach := (Turn.sufficient_iff hpost (by decide) rfl).mp henough
  exact absurd hreach (by decide)

end Hamstercam
