import Hamstercam.Capture.Runs
import Hamstercam.Lib.Checked

/-!
# The state machine in 64-bit arithmetic

`step64` and the functions it calls, translated from `capture_state_machine.cpp` once more, with every
computation on times and durations checked: a `steady_clock::time_point` counts nanoseconds in a signed
64-bit integer, and a `milliseconds` duration is one, too. The program stops where a result does not fit.

* `Backoff.next64`, `delayDeviceAbsent64`, `frameInterval64`, … — the computations.
* `InTime`, `Millis.Settable` — the times and durations for which nothing overflows, and `Timely`, what
  has to hold of the members for that.
* `exact_step` — from such members, and within such times, `step64` never stops and does what `step` does.
-/

namespace Hamstercam

open Interaction Checked

/-! ## The computations -/

/-- A millisecond duration in nanoseconds. Source: `capture_state_machine.cpp` -/
def Millis.toNanos64 (d : Millis) : Option Int := mul d 1000000

/-- Source: `backoff.hpp` `Backoff::next` -/
def Backoff.next64 (b : Backoff) : Option (Millis × Backoff) := do
  let doubled ← mul b.current 2
  return (b.current, { b with current := min b.max doubled })

/-- `delay = backoff.next(); now + delay`: the backoff after it, and the deadline.
Source: `capture_state_machine.cpp` -/
def Backoff.deadline64 (b : Backoff) (now : TimePoint) : Option (Backoff × TimePoint) := do
  let (delay, backoff) ← b.next64
  let nanos ← delay.toNanos64
  let deadline ← add now nanos
  return (backoff, deadline)

/-- A member function of the machine that checks its computations.
Source: `capture_state_machine.hpp` -/
abbrev Capture64 (α : Type) : Type := Checking CaptureStateMachine Call.Answer α

namespace CaptureStateMachine

/-- `delay = device_absent_backoff_.next(); next_attempt_at_ = now + delay`
Source: `capture_state_machine.cpp` `CaptureStateMachine::step_device_absent` -/
def delayDeviceAbsent64 (m : CaptureStateMachine) (now : TimePoint) : Option CaptureStateMachine := do
  let (backoff, deadline) ← m.deviceAbsentBackoff.deadline64 now
  return { m with deviceAbsentBackoff := backoff, nextAttemptAt := deadline }

/-- `delay = awaiting_producer_backoff_.next(); next_attempt_at_ = now + delay`
Source: `capture_state_machine.cpp` `CaptureStateMachine::step_awaiting_producer`,
`enter_configuring`, `step_recovering` -/
def delayAwaitingProducer64 (m : CaptureStateMachine) (now : TimePoint) :
    Option CaptureStateMachine := do
  let (backoff, deadline) ← m.awaitingProducerBackoff.deadline64 now
  return { m with awaitingProducerBackoff := backoff, nextAttemptAt := deadline }

/-- `StepOutcome{duration_cast<milliseconds>(next_attempt_at_ - now)}`
Source: `capture_state_machine.cpp` `step_device_absent`, `step_awaiting_producer`, `step_recovering` -/
def remaining64 (m : CaptureStateMachine) (now : TimePoint) : Option StepOutcome := do
  let left ← sub m.nextAttemptAt now
  return ⟨durationCastMillis left⟩

/-- `have_last_frame_ && now - last_frame_at_ >= stall_threshold_`
Source: `capture_state_machine.cpp` `CaptureStateMachine::step_streaming` -/
def stalled64 (m : CaptureStateMachine) (now : TimePoint) : Option Bool :=
  if m.haveLastFrame then do
    let silence ← sub now m.lastFrameAt
    let threshold ← m.stallThreshold.toNanos64
    return decide (threshold ≤ silence)
  else some false

/-- Source: `capture_state_machine.cpp` `CaptureStateMachine::handle_frame` -/
def frameInterval64 (rnd : ℚ → ℚ) (m : CaptureStateMachine) (frame : FrameDescriptor) :
    Option (Option ℚ) :=
  if m.haveLastFrame then do
    let interval ← sub frame.capturedAt m.lastFrameAt
    return some (rnd (rnd interval / 1000000000))
  else some none

/-- Source: `capture_state_machine.cpp` `CaptureStateMachine::handle_frame` -/
def withFrame64 (rnd : ℚ → ℚ) (m : CaptureStateMachine) (frame : FrameDescriptor) (wall : Int) :
    Option CaptureStateMachine := do
  let interval ← m.frameInterval64 rnd frame
  return { m with
    stats := m.stats.recordFrame rnd frame.bytesUsed (durationCastSeconds wall) interval
    lastFrameAt := frame.capturedAt
    haveLastFrame := true }

/-- Source: `capture_state_machine.cpp` `CaptureStateMachine::check_arrival_rate` -/
def checkArrivalRate64 (rnd : ℚ → ℚ) (m : CaptureStateMachine) (now : TimePoint) :
    Option CaptureStateMachine := do
  let m := m.withWindowFrame
  let elapsed ← sub now m.rateWindowStart
  -- the window is a constant in seconds
  let window ← mul 2 1000000000
  return if elapsed < window then m
    else if rateExceeds rnd m.config m.rateWindowFrameCount elapsed then
      (if !m.rateAnomalyActive then (m.withError .geometry).withAnomaly true else m).withWindow now
    else (m.withAnomaly false).withWindow now

/-! ## The member functions -/

/-- Source: `capture_state_machine.cpp` `CaptureStateMachine::handle_frame` -/
def handleFrame64 (rnd : ℚ → ℚ) (frame : FrameDescriptor) : Capture64 Unit := do
  lift (requeueFrame frame.bufferIndex)
  let wall ← lift wallNow
  update (withFrame64 rnd · frame wall)

/-- Source: `capture_state_machine.cpp` `CaptureStateMachine::enter_configuring` -/
def enterConfiguring64 : Capture64 StepOutcome := do
  lift (modify (·.withState .configuring))
  let m ← lift get
  if (← lift (startStreaming m.config.bufferCount)) = .bufferError then
    lift (modify (·.withError .buffer))
    lift (modify (·.withState .awaitingProducer))
    let delay := m.awaitingProducerBackoff.next.1
    let now ← lift steadyNow
    update (·.delayAwaitingProducer64 now)
    return ⟨delay⟩
  let now ← lift steadyNow
  lift (modify (·.withSession now))
  lift (modify (·.withState .streaming))
  return {}

/-- Source: `capture_state_machine.cpp` `CaptureStateMachine::step_device_absent` -/
def stepDeviceAbsent64 : Capture64 StepOutcome := do
  let now ← lift steadyNow
  let m ← lift get
  if now < m.nextAttemptAt then
    return (← attempt (m.remaining64 now))
  if (← lift openDevice) = .opened then
    lift (modify resetBackoffs)
    lift (modify (·.withState .awaitingProducer))
    lift (emit { type := .deviceOpened })
    lift (emit { type := .awaitingProducer })
    return {}
  lift (modify (·.withError .open))
  update (·.delayDeviceAbsent64 now)
  return ⟨m.deviceAbsentBackoff.next.1⟩

/-- Source: `capture_state_machine.cpp` `CaptureStateMachine::step_awaiting_producer` -/
def stepAwaitingProducer64 : Capture64 StepOutcome := do
  let now ← lift steadyNow
  let m ← lift get
  if now < m.nextAttemptAt then
    return (← attempt (m.remaining64 now))
  let (result, format) ← lift queryFormat
  if result = .noProducer then
    update (·.delayAwaitingProducer64 now)
    return ⟨m.awaitingProducerBackoff.next.1⟩
  if result = .error then
    lift (modify (·.withError .format))
    update (·.delayAwaitingProducer64 now)
    return ⟨m.awaitingProducerBackoff.next.1⟩
  lift (modify (·.withFormat format))
  let outcome ← enterConfiguring64
  let m ← lift get
  if m.state = .streaming then
    if m.hasStreamedBefore then
      lift (modify withReconnect)
      lift (emit { type := .reconnecting })
    else
      lift (modify withStreamed)
      lift (emit { type := .streamingStarted, format := m.currentFormat })
  return outcome

/-- Source: `capture_state_machine.cpp` `CaptureStateMachine::step_recovering` -/
def stepRecovering64 : Capture64 StepOutcome := do
  let now ← lift steadyNow
  let m ← lift get
  if now < m.nextAttemptAt then
    return (← attempt (m.remaining64 now))
  if (← lift openDevice) ≠ .opened then
    lift loseDevice
    return {}
  let (result, format) ← lift queryFormat
  if result ≠ .known then
    lift closeDevice
    if result = .error then
      lift (modify (·.withError .format))
    update (·.delayAwaitingProducer64 now)
    return ⟨m.awaitingProducerBackoff.next.1⟩
  let previous := m.currentFormat
  lift (modify (·.withFormat format))
  let outcome ← enterConfiguring64
  let m ← lift get
  if m.state = .streaming then
    lift (modify (·.withRecovering false))
    lift (emit { type := .stallCleared })
    if ¬ format = previous then
      lift (emit { type := .formatChanged, format := format, previousFormat := previous })
    lift (emit { type := .streamingStarted, format := m.currentFormat })
  else
    lift closeDevice
  return outcome

/-- Source: `capture_state_machine.cpp` `CaptureStateMachine::step_streaming` -/
def stepStreaming64 (rnd : ℚ → ℚ) (pollTimeout : Millis) : Capture64 StepOutcome := do
  let (result, frame) ← lift (dequeueFrame pollTimeout)
  match result with
  | .frame =>
      handleFrame64 rnd frame
      update (·.checkArrivalRate64 rnd frame.capturedAt)
      let m ← lift get
      if m.currentFormat.compressed = false ∧ frame.bytesUsed ≠ m.currentFormat.sizeImage.toUInt64 then
        lift (beginReleaseCycle .geometry)
      return {}
  | .timeout =>
      let now ← lift steadyNow
      let m ← lift get
      if (← attempt (m.stalled64 now)) then
        lift (beginReleaseCycle .timeout)
      return {}
  | .error =>
      lift (modify (·.withError .dequeue))
      return {}
  | .deviceLost =>
      lift loseDevice
      return {}

/-- One step of the machine.
Source: `capture_state_machine.cpp` `CaptureStateMachine::step` -/
def step64 (rnd : ℚ → ℚ) (pollTimeout : Millis) : Capture64 StepOutcome := do
  let m ← lift get
  match m.state with
  | .deviceAbsent => stepDeviceAbsent64
  | .awaitingProducer => if m.recovering then stepRecovering64 else stepAwaitingProducer64
  | .configuring => return {}
  | .stalled => return {}
  | .streaming => stepStreaming64 rnd pollTimeout

end CaptureStateMachine

/-! ## Times and durations without overflow -/

/-- A clock reading below `2 ^ 62` nanoseconds. Source: `clock.hpp` -/
def InTime (t : Int) : Prop := 0 ≤ t ∧ t < 4611686018427387904

/-- The readings of the steady clock and the times of frames are in time. The wall clock is only divided.
Source: `clock.hpp`, `capture_device.hpp` `FrameDescriptor` -/
def Observation.InTime : Observation → Prop
  | .steady t => Hamstercam.InTime t
  | .dequeued _ .frame f => Hamstercam.InTime f.capturedAt
  | _ => True

/-- A duration within the range of the flags: up to `2 ^ 32 - 1` seconds.
Source: `main.cpp` `parse_duration_ms` -/
def Millis.Settable (d : Int) : Prop := 0 ≤ d ∧ d ≤ 4294967295000

/-- All durations of a backoff are within the range of the flags. Source: `backoff.hpp` `Backoff` -/
structure Backoff.Settable (b : Backoff) : Prop where
  initial : Millis.Settable b.initial
  max : Millis.Settable b.max
  current : Millis.Settable b.current

/-- The times and durations in the members of the machine. A deadline may be past the time by a duration.
Source: `capture_state_machine.hpp` members -/
structure CaptureStateMachine.Timely (m : CaptureStateMachine) : Prop where
  absent : m.deviceAbsentBackoff.Settable
  waiting : m.awaitingProducerBackoff.Settable
  threshold : Millis.Settable m.stallThreshold
  deadline : 0 ≤ m.nextAttemptAt ∧ Fits64 m.nextAttemptAt
  frame : InTime m.lastFrameAt
  window : InTime m.rateWindowStart

/-! ## The computations are exact -/

section computations

variable {a b d : Int}

/-- The distance of two times. Source: `capture_state_machine.cpp` -/
theorem fits_sub (ha : InTime a) (hb : InTime b) : Fits64 (a - b) := by
  unfold InTime at ha hb
  unfold Fits64
  omega

/-- What is left until a deadline. Source: `capture_state_machine.cpp` -/
theorem fits_remaining (ha : 0 ≤ a ∧ Fits64 a) (hb : InTime b) : Fits64 (a - b) := by
  unfold Fits64 InTime at *
  omega

/-- A duration in nanoseconds. Source: `capture_state_machine.cpp` -/
theorem fits_toNanos (hd : Millis.Settable d) : Fits64 (d * 1000000) := by
  unfold Millis.Settable at hd
  unfold Fits64
  omega

/-- A deadline. Source: `capture_state_machine.cpp` -/
theorem fits_deadline (ha : InTime a) (hd : Millis.Settable d) : Fits64 (a + d * 1000000) := by
  unfold InTime at ha
  unfold Millis.Settable at hd
  unfold Fits64
  omega

/-- The double of a duration. Source: `backoff.hpp` `Backoff::next` -/
theorem fits_double (hd : Millis.Settable d) : Fits64 (d * 2) := by
  unfold Millis.Settable at hd
  unfold Fits64
  omega

/-- A duration within the range of the flags. Source: none: infrastructure -/
theorem fits_settable (hd : Millis.Settable d) : 0 ≤ d ∧ Fits64 d := by
  unfold Millis.Settable at hd
  unfold Fits64
  omega

/-- What is left until a deadline, in milliseconds. Source: `capture_state_machine.cpp` -/
theorem fits_durationCastMillis (hd : Fits64 d) (hpos : 0 < d) :
    0 ≤ durationCastMillis d ∧ Fits64 (durationCastMillis d) := by
  rw [durationCastMillis, Int.tdiv_eq_ediv_of_nonneg (Int.le_of_lt hpos)]
  show 0 ≤ d / 1000000 ∧ _
  unfold Fits64 at *
  omega

end computations

section exactness

variable {rnd : ℚ → ℚ} {m : CaptureStateMachine} {b : Backoff} {now : TimePoint} {t : Millis}
  {f : FrameDescriptor} {w : Int}

/-- Source: `capture_state_machine.cpp` -/
theorem Millis.Settable.toNanos64_eq {d : Millis} (hd : Millis.Settable d) :
    d.toNanos64 = some d.toNanos :=
  mul_of_fits (fits_toNanos hd)

namespace Backoff.Settable

/-- Source: `backoff.hpp` `Backoff::next` -/
theorem next64_eq (hb : b.Settable) : b.next64 = some b.next := by
  unfold Backoff.next64
  rw [mul_of_fits (fits_double hb.current)]
  rfl

/-- Source: `capture_state_machine.cpp` -/
theorem deadline64_eq (hb : b.Settable) (hnow : InTime now) :
    b.deadline64 now = some (b.next.2, now + b.next.1.toNanos) := by
  have hdelay : Millis.Settable b.next.1 := hb.current
  have hdeadline : add now b.next.1.toNanos = some (now + b.next.1.toNanos) :=
    add_of_fits (fits_deadline hnow hdelay)
  unfold Backoff.deadline64
  rw [hb.next64_eq]
  change (b.next.1.toNanos64 >>= fun nanos => add now nanos >>= fun deadline =>
    some (b.next.2, deadline)) = _
  rw [hdelay.toNanos64_eq, Option.bind_eq_bind, Option.bind_some, hdeadline]
  rfl

end Backoff.Settable

namespace CaptureStateMachine

/-- Source: `capture_state_machine.cpp` `CaptureStateMachine::step_device_absent` -/
theorem delayDeviceAbsent64_eq (hb : m.deviceAbsentBackoff.Settable) (hnow : InTime now) :
    m.delayDeviceAbsent64 now = some (m.delayDeviceAbsent now) := by
  unfold delayDeviceAbsent64
  rw [hb.deadline64_eq hnow]
  rfl

/-- Source: `capture_state_machine.cpp` `step_awaiting_producer`, `enter_configuring`,
`step_recovering` -/
theorem delayAwaitingProducer64_eq (hb : m.awaitingProducerBackoff.Settable) (hnow : InTime now) :
    m.delayAwaitingProducer64 now = some (m.delayAwaitingProducer now) := by
  unfold delayAwaitingProducer64
  rw [hb.deadline64_eq hnow]
  rfl

/-- Source: `capture_state_machine.cpp` `step_device_absent`, `step_awaiting_producer`,
`step_recovering` -/
theorem Timely.remaining64_eq (hm : m.Timely) (hnow : InTime now) :
    m.remaining64 now = some ⟨durationCastMillis (m.nextAttemptAt - now)⟩ := by
  unfold remaining64
  rw [sub_of_fits (fits_remaining hm.deadline hnow)]
  rfl

/-- Source: `capture_state_machine.cpp` `CaptureStateMachine::step_streaming` -/
theorem Timely.stalled64_eq (hm : m.Timely) (hnow : InTime now) : m.stalled64 now =
    some (decide (m.haveLastFrame ∧ m.stallThreshold.toNanos ≤ now - m.lastFrameAt)) := by
  unfold stalled64
  by_cases hhave : m.haveLastFrame = true
  · rw [if_pos hhave, sub_of_fits (fits_sub hnow hm.frame), Option.bind_eq_bind, Option.bind_some,
      hm.threshold.toNanos64_eq]
    simp [hhave]
  · rw [if_neg hhave]
    simp [hhave]

/-- Source: `capture_state_machine.cpp` `CaptureStateMachine::handle_frame` -/
theorem Timely.withFrame64_eq (hm : m.Timely) (hf : InTime f.capturedAt) :
    m.withFrame64 rnd f w = some (m.withFrame rnd f w) := by
  have hinterval : m.frameInterval64 rnd f = some (m.frameInterval rnd f) := by
    unfold frameInterval64 frameInterval
    by_cases hhave : m.haveLastFrame = true
    · rw [if_pos hhave, if_pos hhave, sub_of_fits (fits_sub hf hm.frame)]
      rfl
    · rw [if_neg hhave, if_neg hhave]
  unfold withFrame64
  rw [hinterval]
  rfl

/-- Source: `capture_state_machine.cpp` `CaptureStateMachine::check_arrival_rate` -/
theorem checkArrivalRate64_eq (hwindow : InTime m.rateWindowStart) (hnow : InTime now) :
    m.checkArrivalRate64 rnd now = some (m.checkArrivalRate rnd now) := by
  have hseconds : mul 2 1000000000 = some rateAnomalyWindow := rfl
  have helapsed : sub now m.withWindowFrame.rateWindowStart =
      some (now - m.withWindowFrame.rateWindowStart) := sub_of_fits (fits_sub hnow hwindow)
  unfold checkArrivalRate64
  dsimp only
  rw [helapsed, hseconds]
  rfl

/-! ## The member functions are exact -/

/-- Source: `capture_state_machine.cpp` `CaptureStateMachine::enter_configuring` -/
theorem exact_enterConfiguring (hb : m.awaitingProducerBackoff.Settable) :
    Exact Observation.InTime enterConfiguring64 enterConfiguring m := by
  unfold enterConfiguring64 enterConfiguring
  apply exact_modify
  apply exact_get
  apply exact_perform
  intro r _
  apply exact_ite
  · intro _
    apply exact_modify
    apply exact_modify
    apply exact_perform
    intro now hnow
    refine exact_update (delayAwaitingProducer64_eq ?_ hnow) (exact_pure _ _)
    exact hb
  · intro _
    apply exact_perform
    intro now _
    apply exact_modify
    apply exact_modify
    exact exact_pure _ _

/-- A step that reads the clock and waits for the deadline is exact if the attempt it makes is.
Source: `capture_state_machine.cpp` `step_device_absent`, `step_awaiting_producer`, `step_recovering` -/
theorem Timely.exact_deadline (hm : m.Timely)
    {f : TimePoint → CaptureStateMachine → Capture64 StepOutcome}
    {g : TimePoint → CaptureStateMachine → Capture StepOutcome}
    (h : ∀ now, InTime now → Exact Observation.InTime (f now m) (g now m) m) :
    Exact Observation.InTime
      (do
        let now ← lift steadyNow
        let m ← lift get
        if now < m.nextAttemptAt then attempt (m.remaining64 now) else f now m)
      (do
        let now ← steadyNow
        let m ← get
        if now < m.nextAttemptAt then return ⟨durationCastMillis (m.nextAttemptAt - now)⟩ else g now m)
      m := by
  apply exact_perform
  intro now hnow
  apply exact_get
  apply exact_ite
  · intro _
    exact exact_attempt_last (hm.remaining64_eq hnow)
  · intro _
    exact h now hnow

/-- Source: `capture_state_machine.cpp` `CaptureStateMachine::step_device_absent` -/
theorem Timely.exact_stepDeviceAbsent (hm : m.Timely) :
    Exact Observation.InTime stepDeviceAbsent64 stepDeviceAbsent m := by
  unfold stepDeviceAbsent64 stepDeviceAbsent
  apply hm.exact_deadline
  intro now hnow
  apply exact_perform
  intro r _
  apply exact_ite
  · intro _
    apply exact_modify
    apply exact_modify
    apply exact_perform
    intro _ _
    apply exact_perform
    intro _ _
    exact exact_pure _ _
  · intro _
    apply exact_modify
    refine exact_update (delayDeviceAbsent64_eq ?_ hnow) (exact_pure _ _)
    exact hm.absent

/-- Source: `capture_state_machine.cpp` `CaptureStateMachine::step_awaiting_producer` -/
theorem Timely.exact_stepAwaitingProducer (hm : m.Timely) :
    Exact Observation.InTime stepAwaitingProducer64 stepAwaitingProducer m := by
  unfold stepAwaitingProducer64 stepAwaitingProducer
  apply hm.exact_deadline
  intro now hnow
  apply exact_perform
  rintro ⟨result, format⟩ _
  apply exact_ite
  · intro _
    exact exact_update (delayAwaitingProducer64_eq hm.waiting hnow) (exact_pure _ _)
  · intro _
    apply exact_ite
    · intro _
      apply exact_modify
      refine exact_update (delayAwaitingProducer64_eq ?_ hnow) (exact_pure _ _)
      exact hm.waiting
    · intro _
      apply exact_modify
      apply exact_bind
      · apply exact_enterConfiguring
        exact hm.waiting
      · intro tr outcome s _ _
        -- what follows computes nothing
        apply exact_get
        apply exact_ite
        · intro _
          apply exact_ite
          · intro _
            apply exact_modify
            apply exact_perform
            intro _ _
            exact exact_pure _ _
          · intro _
            apply exact_modify
            apply exact_perform
            intro _ _
            exact exact_pure _ _
        · intro _
          exact exact_pure _ _

/-- Source: `capture_state_machine.cpp` `CaptureStateMachine::step_recovering` -/
theorem Timely.exact_stepRecovering (hm : m.Timely) :
    Exact Observation.InTime stepRecovering64 stepRecovering m := by
  unfold stepRecovering64 stepRecovering
  apply hm.exact_deadline
  intro now hnow
  apply exact_perform
  intro answer _
  apply exact_ite
  · intro _
    apply exact_then
    intro _ _
    exact exact_pure _ _
  · intro _
    apply exact_perform
    rintro ⟨result, format⟩ _
    apply exact_ite
    · intro _
      apply exact_perform
      intro _ _
      apply exact_ite
      · intro _
        apply exact_modify
        refine exact_update (delayAwaitingProducer64_eq ?_ hnow) (exact_pure _ _)
        exact hm.waiting
      · intro _
        exact exact_update (delayAwaitingProducer64_eq hm.waiting hnow) (exact_pure _ _)
    · intro _
      apply exact_modify
      apply exact_bind
      · apply exact_enterConfiguring
        exact hm.waiting
      · intro tr outcome s _ _
        -- what follows computes nothing
        apply exact_get
        apply exact_ite
        · intro _
          apply exact_modify
          apply exact_perform
          intro _ _
          apply exact_ite
          · intro _
            apply exact_perform
            intro _ _
            apply exact_perform
            intro _ _
            exact exact_pure _ _
          · intro _
            apply exact_perform
            intro _ _
            exact exact_pure _ _
        · intro _
          apply exact_perform
          intro _ _
          exact exact_pure _ _

/-- Source: `capture_state_machine.cpp` `CaptureStateMachine::handle_frame` -/
theorem Timely.exact_handleFrame (hm : m.Timely) (hf : InTime f.capturedAt) :
    Exact Observation.InTime (handleFrame64 rnd f) (handleFrame rnd f) m := by
  unfold handleFrame64 handleFrame
  apply exact_perform
  intro _ _
  apply exact_perform
  intro wall _
  exact exact_update_last (hm.withFrame64_eq hf)

/-- Source: `capture_state_machine.cpp` `CaptureStateMachine::step_streaming` -/
theorem Timely.exact_stepStreaming (hm : m.Timely) :
    Exact Observation.InTime (stepStreaming64 rnd t) (stepStreaming rnd t) m := by
  unfold stepStreaming64 stepStreaming
  apply exact_perform
  rintro ⟨result, frame⟩ hframe
  cases result with
  | frame =>
      apply exact_bind
      · exact hm.exact_handleFrame hframe
      · intro tr _ s _ hs
        obtain ⟨wall, rfl, -⟩ := does_handleFrame.mp hs
        apply exact_update
        · exact checkArrivalRate64_eq hm.window hframe
        · apply exact_get
          apply exact_ite
          · intro _
            apply exact_then
            intro _ _
            exact exact_pure _ _
          · intro _
            exact exact_pure _ _
  | timeout =>
      apply exact_perform
      intro now hnow
      apply exact_get
      apply exact_attempt (hm.stalled64_eq hnow)
      simp only [decide_eq_true_eq]
      apply exact_ite
      · intro _
        apply exact_then
        intro _ _
        exact exact_pure _ _
      · intro _
        exact exact_pure _ _
  | error =>
      apply exact_modify
      exact exact_pure _ _
  | deviceLost =>
      apply exact_then
      intro _ _
      exact exact_pure _ _

/-- **In time, a step in 64-bit arithmetic does not overflow, and does what a step does.**
Source: `capture_state_machine.cpp` `CaptureStateMachine::step` -/
theorem Timely.exact_step (hm : m.Timely) :
    Exact Observation.InTime (step64 rnd t) (step rnd t) m := by
  unfold step64 step
  apply exact_get
  cases m.state with
  | deviceAbsent => exact hm.exact_stepDeviceAbsent
  | awaitingProducer =>
      apply exact_ite
      · intro _
        exact hm.exact_stepRecovering
      · intro _
        exact hm.exact_stepAwaitingProducer
  | configuring => exact exact_pure _ _
  | stalled => exact exact_pure _ _
  | streaming => exact hm.exact_stepStreaming

end CaptureStateMachine

end exactness

/-! ## The members stay in time -/

namespace Backoff.Settable

variable {b : Backoff}

/-- Source: `backoff.hpp` `Backoff::reset` -/
theorem reset (hb : b.Settable) : b.reset.Settable := ⟨hb.initial, hb.max, hb.initial⟩

/-- Source: `backoff.hpp` `Backoff::next` -/
theorem next (hb : b.Settable) : b.next.2.Settable := by
  refine ⟨hb.initial, hb.max, ?_, ?_⟩
  · exact Int.le_min.mpr ⟨hb.max.1, Int.mul_nonneg hb.current.1 (show (0 : Int) ≤ 2 by decide)⟩
  · exact Int.le_trans (Int.min_le_left _ _) hb.max.2

end Backoff.Settable

section timely

variable {rnd : ℚ → ℚ} {m m' : CaptureStateMachine} {now : TimePoint} {t : Millis}
  {tr : List Observation} {out : StepOutcome} {d : Int}

/-- A deadline is not past the range. Source: `capture_state_machine.cpp` -/
theorem deadline_timely (hnow : InTime now) (hd : Millis.Settable d) :
    0 ≤ now + Millis.toNanos d ∧ Fits64 (now + Millis.toNanos d) :=
  ⟨Int.add_nonneg hnow.1 (Int.mul_nonneg hd.1 (by decide)), fits_deadline hnow hd⟩

/-- A time is not past the range. Source: `clock.hpp` -/
theorem InTime.timely {a : Int} (ha : InTime a) : 0 ≤ a ∧ Fits64 a := by
  unfold InTime at ha
  unfold Fits64
  omega

/-- A frame begins a rate window or leaves it alone.
Source: `capture_state_machine.cpp` `CaptureStateMachine::check_arrival_rate` -/
theorem frameTaken_rateWindowStart (m : CaptureStateMachine) (f : FrameDescriptor) (w : Int) :
    (m.frameTaken rnd f w).rateWindowStart = m.rateWindowStart ∨
      (m.frameTaken rnd f w).rateWindowStart = f.capturedAt := by
  simp only [CaptureStateMachine.frameTaken, CaptureStateMachine.checkArrivalRate]
  split_ifs <;> simp

namespace CaptureStateMachine.Timely

/-- Source: `capture_state_machine.cpp` `handle_frame`, `check_arrival_rate` -/
theorem frameTaken (hm : m.Timely) {f : FrameDescriptor} (hf : InTime f.capturedAt) (w : Int) :
    (m.frameTaken rnd f w).Timely := by
  obtain ⟨-, -, -, habsent, hwaiting, hdeadline, -, hthreshold, hframe, -⟩ :=
    @frameTaken_frame rnd m f w
  refine ⟨habsent ▸ hm.absent, hwaiting ▸ hm.waiting, hthreshold ▸ hm.threshold,
    hdeadline ▸ hm.deadline, hframe ▸ hf, ?_⟩
  rcases @frameTaken_rateWindowStart rnd m f w with hwindow | hwindow
  · exact hwindow ▸ hm.window
  · exact hwindow ▸ hf

/-- Source: `capture_state_machine.cpp` `CaptureStateMachine::begin_release_cycle` -/
theorem released (hm : m.Timely) {reason : ErrorReason} (hnow : InTime now) :
    (m.released reason now).Timely := by
  constructor
  · simpa using hm.absent
  · simpa using hm.waiting.reset
  · simpa using hm.threshold
  · simpa using hnow.timely
  · simpa using hm.frame
  · simpa using hm.window

/-- Source: `capture_state_machine.cpp` `CaptureStateMachine::lose_device` -/
theorem lost (hm : m.Timely) (hnow : InTime now) : (m.lost now).Timely :=
  ⟨hm.absent.reset, hm.waiting.reset, hm.threshold, hnow.timely, hm.frame, hm.window⟩

/-- Source: `capture_state_machine.cpp` `CaptureStateMachine::enter_configuring` -/
theorem sessionStarted (hm : m.Timely) (hnow : InTime now) : (m.sessionStarted now).Timely :=
  ⟨hm.absent.reset, hm.waiting.reset, hm.threshold, hm.deadline, hm.frame, hnow⟩

/-- Source: `capture_state_machine.cpp` `step_awaiting_producer`, `step_recovering`,
`enter_configuring` -/
theorem delayAwaitingProducer (hm : m.Timely) (hnow : InTime now) :
    (m.delayAwaitingProducer now).Timely :=
  ⟨hm.absent, hm.waiting.next, hm.threshold, deadline_timely hnow hm.waiting.current, hm.frame,
    hm.window⟩

/-- Members that are not times or durations do not matter. Source: none: infrastructure -/
theorem congr (hm : m.Timely) (absent : m'.deviceAbsentBackoff = m.deviceAbsentBackoff)
    (waiting : m'.awaitingProducerBackoff = m.awaitingProducerBackoff)
    (threshold : m'.stallThreshold = m.stallThreshold)
    (deadline : m'.nextAttemptAt = m.nextAttemptAt) (frame : m'.lastFrameAt = m.lastFrameAt)
    (window : m'.rateWindowStart = m.rateWindowStart) : m'.Timely :=
  ⟨absent ▸ hm.absent, waiting ▸ hm.waiting, threshold ▸ hm.threshold, deadline ▸ hm.deadline,
    frame ▸ hm.frame, window ▸ hm.window⟩

/-- **A step within time keeps the members in time.**
Source: `capture_state_machine.cpp` `CaptureStateMachine::step` -/
theorem keeps (hm : m.Timely) (htr : ∀ o ∈ tr, o.InTime) (h : StepCase rnd t m tr out m') :
    m'.Timely := by
  have hsteady : ∀ r, .steady r ∈ tr → InTime r := fun r hr => htr _ hr
  have hframe : ∀ f, .dequeued t .frame f ∈ tr → InTime f.capturedAt := fun f hf => htr _ hf
  cases h with
  | absentWaits hs hw => exact hm
  | absentOpens hs hw =>
      exact ⟨hm.absent.reset, hm.waiting.reset, hm.threshold, hm.deadline, hm.frame, hm.window⟩
  | absentFails hs hw =>
      exact ⟨hm.absent.next, hm.waiting, hm.threshold,
        deadline_timely (hsteady _ (by simp)) hm.absent.current, hm.frame, hm.window⟩
  | waitingWaits hs hr hw => exact hm
  | waitingNoProducer hs hr hw | recoveringNoProducer hs hr hw =>
      exact hm.delayAwaitingProducer (hsteady _ (by simp))
  | waitingQueryFails hs hr hw | recoveringQueryFails hs hr hw =>
      exact (hm.delayAwaitingProducer (hsteady _ (by simp))).congr rfl rfl rfl rfl rfl rfl
  | waitingStartFails hs hr hw | recoveringStartFails hs hr hw =>
      exact (hm.delayAwaitingProducer (hsteady _ (by simp))).congr rfl rfl rfl rfl rfl rfl
  | waitingStarts hs hr hw hb | waitingReconnects hs hr hw hb | recoveringStarts hs hr hw =>
      exact (hm.sessionStarted (hsteady _ (by simp))).congr rfl rfl rfl rfl rfl rfl
  | recoveringWaits hs hr hw => exact hm
  | recoveringLoses hs hr hw => exact hm.lost (hsteady _ (by simp))
  | streamsFrame hs hp => exact hm.frameTaken (hframe _ (by simp)) _
  | streamsMismatch hs hc hp =>
      exact (hm.frameTaken (hframe _ (by simp)) _).released (hsteady _ (by simp))
  | streamsTimeout hs hq => exact hm
  | streamsStall hs hq => exact hm.released (hsteady _ (by simp))
  | streamsError hs => exact hm.congr rfl rfl rfl rfl rfl rfl
  | streamsLoses hs => exact hm.lost (hsteady _ (by simp))
  | transient hs => exact hm

/-- **The recommended wait of a step within time fits.**
Source: `capture_state_machine.cpp` `CaptureStateMachine::step` -/
theorem fits_wait (hm : m.Timely) (htr : ∀ o ∈ tr, o.InTime) (h : StepCase rnd t m tr out m') :
    0 ≤ out.recommendedWait ∧ Fits64 out.recommendedWait := by
  have hsteady : ∀ r, .steady r ∈ tr → InTime r := fun r hr => htr _ hr
  have hzero : (0 : Int) ≤ 0 ∧ Fits64 0 := by decide
  have hwaits : ∀ now, .steady now ∈ tr → now < m.nextAttemptAt →
      0 ≤ durationCastMillis (m.nextAttemptAt - now) ∧
        Fits64 (durationCastMillis (m.nextAttemptAt - now)) := fun now hnow hlt =>
    fits_durationCastMillis (fits_remaining hm.deadline (hsteady now hnow)) (Int.sub_pos_of_lt hlt)
  cases h with
  | absentWaits hs hw => exact hwaits _ (by simp) hw
  | waitingWaits hs hr hw | recoveringWaits hs hr hw => exact hwaits _ (by simp) hw
  | absentFails hs hw => exact fits_settable hm.absent.current
  | waitingNoProducer hs hr hw | waitingQueryFails hs hr hw | waitingStartFails hs hr hw
  | recoveringNoProducer hs hr hw | recoveringQueryFails hs hr hw
  | recoveringStartFails hs hr hw =>
      exact fits_settable hm.waiting.current
  | _ => exact hzero

end CaptureStateMachine.Timely

end timely

end Hamstercam
