import Hamstercam.Capture.Stats

/-!
# The capture state machine

`CaptureStateMachine` and its `step`, translated function by function from `capture_state_machine.cpp`.

* `Call` is everything the machine asks of the world: the device calls, the two clocks and the event
  sink. `Capture` programs make such calls and update the machine.
* The fields of `CaptureStateMachine` are the members of the class; `stats` is the `CaptureStats` it
  holds a reference to, which nothing else writes.
* Assignments that the source repeats (`state_ = …; stats_.capture_state.store(…)`, `record_error`) are
  the updates `withState`, `withError`, with their field lemmas generated by `@[simps]`.
* `StreamFormat`s, waits and answers are as `Device.lean` has them; `rnd` rounds `double` results, as in
  `Stats.lean`.
-/

namespace Hamstercam

open Interaction

/-! ## Events, configuration, backoff -/

/-- Source: `event.hpp` `EventType` -/
inductive EventType
  | deviceOpened
  | awaitingProducer
  | streamingStarted
  | deviceLost
  | reconnecting
  | stallDetected
  | stallCleared
  | formatChanged
  deriving DecidableEq

/-- A reported state transition.
Source: `event.hpp` `Event` -/
structure Event where
  /-- Which transition. -/
  type : EventType
  /-- The format of `streamingStarted`, the new one of `formatChanged`. -/
  format : StreamFormat := {}
  /-- The old format of `formatChanged`. -/
  previousFormat : StreamFormat := {}
  /-- The reason of `deviceLost`. -/
  reason : ErrorReason := .count
  deriving DecidableEq

/-- The settings of the machine.
Source: `daemon_config.hpp` `DaemonConfig` -/
structure DaemonConfig where
  /-- `expected_fps` -/
  expectedFps : UInt32 := 15
  /-- `stall_multiple` -/
  stallMultiple : UInt32 := 10
  /-- `buffer_count` -/
  bufferCount : UInt32 := 4
  /-- `reconnect_initial_backoff` -/
  reconnectInitialBackoff : Millis := 200
  /-- `reconnect_max_backoff` -/
  reconnectMaxBackoff : Millis := 30000
  /-- `awaiting_producer_max_backoff` -/
  awaitingProducerMaxBackoff : Millis := 2000

/-- Bounded exponential backoff.
Source: `backoff.hpp` `Backoff` -/
structure Backoff where
  /-- `initial_` -/
  initial : Millis
  /-- `max_` -/
  max : Millis
  /-- `current_` -/
  current : Millis

namespace Backoff

/-- Source: `backoff.hpp` `Backoff::Backoff` -/
@[simps] def new (initial max : Millis) : Backoff := ⟨initial, max, initial⟩

/-- The delay to wait now; the next one is twice as long, up to the ceiling.
Source: `backoff.hpp` `Backoff::next` -/
def next (b : Backoff) : Millis × Backoff :=
  (b.current, { b with current := min b.max (b.current * 2) })

/-- Source: `backoff.hpp` `Backoff::reset` -/
@[simps] def reset (b : Backoff) : Backoff := { b with current := b.initial }

end Backoff

/-! ## The machine -/

/-- What the machine asks of the world.
Source: `capture_state_machine.hpp` members `device_`, `clock_`, `events_` -/
inductive Call
  /-- A call of the device. -/
  | device (c : DeviceCall)
  /-- `clock_.steady_now()` -/
  | steadyNow
  /-- `clock_.wall_now()`, in nanoseconds since the epoch. -/
  | wallNow
  /-- `events_.emit(event)` -/
  | emit (event : Event)
  deriving DecidableEq

/-- What each call gives back. Source: `capture_device.hpp`, `clock.hpp`, `event.hpp` -/
@[reducible] def Call.Answer : Call → Type
  | .device c => c.Answer
  | .steadyNow => TimePoint
  | .wallNow => Int
  | .emit _ => Unit

/-- Source: `capture_state_machine.hpp` `CaptureStateMachine` -/
structure CaptureStateMachine where
  /-- `config_` -/
  config : DaemonConfig
  /-- `state_` -/
  state : CaptureState
  /-- `device_absent_backoff_` -/
  deviceAbsentBackoff : Backoff
  /-- `awaiting_producer_backoff_` -/
  awaitingProducerBackoff : Backoff
  /-- `next_attempt_at_` -/
  nextAttemptAt : TimePoint
  /-- `last_frame_at_` -/
  lastFrameAt : TimePoint
  /-- `have_last_frame_` -/
  haveLastFrame : Bool
  /-- `recovering_` -/
  recovering : Bool
  /-- `current_format_` -/
  currentFormat : StreamFormat
  /-- `has_streamed_before_` -/
  hasStreamedBefore : Bool
  /-- `stall_threshold_` -/
  stallThreshold : Millis
  /-- `rate_window_start_` -/
  rateWindowStart : TimePoint
  /-- `rate_window_frame_count_` -/
  rateWindowFrameCount : UInt32
  /-- `rate_anomaly_active_` -/
  rateAnomalyActive : Bool
  /-- `stats_` -/
  stats : CaptureStats

/-- How long the caller should wait before the next step.
Source: `capture_state_machine.hpp` `CaptureStateMachine::StepOutcome` -/
structure StepOutcome where
  /-- `recommended_wait` -/
  recommendedWait : Millis := 0
  deriving DecidableEq

/-- A member function of the machine: it makes calls and updates the members.
Source: `capture_state_machine.hpp` -/
abbrev Capture : Type → Type := StateT CaptureStateMachine (Prog Call.Answer)

namespace CaptureStateMachine

/-- Truncation of a `double` to an integer, as `static_cast<std::int64_t>`.
Source: `capture_state_machine.cpp` `CaptureStateMachine::CaptureStateMachine` -/
def truncate (q : ℚ) : Int := q.num.tdiv q.den

/-- The stall threshold of a configuration: the expected interval times the multiple.
Source: `capture_state_machine.cpp` `CaptureStateMachine::CaptureStateMachine` -/
def stallThresholdOf (rnd : ℚ → ℚ) (config : DaemonConfig) : Millis :=
  let expectedIntervalSeconds : ℚ :=
    if 0 < config.expectedFps then rnd (1 / config.expectedFps.toNat) else 1
  truncate (rnd (rnd (expectedIntervalSeconds * config.stallMultiple.toNat) * 1000))

/-- The machine after its constructor, which reads the clock once: `now` is the reading.
Source: `capture_state_machine.cpp` `CaptureStateMachine::CaptureStateMachine` -/
@[simps] def new (rnd : ℚ → ℚ) (config : DaemonConfig) (now : TimePoint) : CaptureStateMachine where
  config := config
  state := .deviceAbsent
  deviceAbsentBackoff := .new config.reconnectInitialBackoff config.reconnectMaxBackoff
  awaitingProducerBackoff := .new config.reconnectInitialBackoff config.awaitingProducerMaxBackoff
  nextAttemptAt := now
  lastFrameAt := 0
  haveLastFrame := false
  recovering := false
  currentFormat := {}
  hasStreamedBefore := false
  stallThreshold := stallThresholdOf rnd config
  rateWindowStart := 0
  rateWindowFrameCount := 0
  rateAnomalyActive := false
  stats := (CaptureStats.new rnd).storeCaptureState .deviceAbsent

/-! ## Updates of the members -/

/-- `state_ = s; stats_.capture_state.store(s)`
Source: `capture_state_machine.cpp` -/
@[simps] def withState (m : CaptureStateMachine) (s : CaptureState) : CaptureStateMachine :=
  { m with state := s, stats := m.stats.storeCaptureState s }

/-- `stats_.record_error(reason)`
Source: `capture_state_machine.cpp` -/
@[simps] def withError (m : CaptureStateMachine) (reason : ErrorReason) : CaptureStateMachine :=
  { m with stats := m.stats.recordError reason }

/-- Source: `capture_state_machine.cpp` `CaptureStateMachine::reset_backoffs` -/
@[simps] def resetBackoffs (m : CaptureStateMachine) : CaptureStateMachine :=
  { m with
    deviceAbsentBackoff := m.deviceAbsentBackoff.reset
    awaitingProducerBackoff := m.awaitingProducerBackoff.reset }

/-- `delay = device_absent_backoff_.next(); next_attempt_at_ = now + delay`
Source: `capture_state_machine.cpp` `CaptureStateMachine::step_device_absent` -/
@[simps] def delayDeviceAbsent (m : CaptureStateMachine) (now : TimePoint) : CaptureStateMachine :=
  { m with
    deviceAbsentBackoff := m.deviceAbsentBackoff.next.2
    nextAttemptAt := now + m.deviceAbsentBackoff.next.1.toNanos }

/-- `delay = awaiting_producer_backoff_.next(); next_attempt_at_ = now + delay`
Source: `capture_state_machine.cpp` `CaptureStateMachine::step_awaiting_producer`,
`enter_configuring`, `step_recovering` -/
@[simps] def delayAwaitingProducer (m : CaptureStateMachine) (now : TimePoint) :
    CaptureStateMachine :=
  { m with
    awaitingProducerBackoff := m.awaitingProducerBackoff.next.2
    nextAttemptAt := now + m.awaitingProducerBackoff.next.1.toNanos }

/-- What `enter_configuring` stores once the stream has started, at clock reading `now`.
Source: `capture_state_machine.cpp` `CaptureStateMachine::enter_configuring` -/
@[simps!] def withSession (m : CaptureStateMachine) (now : TimePoint) : CaptureStateMachine :=
  { m.resetBackoffs with
    stats := m.stats.setStreamInfo m.currentFormat
    haveLastFrame := false
    rateWindowStart := now
    rateWindowFrameCount := 0
    rateAnomalyActive := false }

/-- The time from the last frame to this one, in seconds, if the session has had a frame.
Source: `capture_state_machine.cpp` `CaptureStateMachine::handle_frame` -/
def frameInterval (rnd : ℚ → ℚ) (m : CaptureStateMachine) (frame : FrameDescriptor) : Option ℚ :=
  if m.haveLastFrame then some (rnd (rnd (frame.capturedAt - m.lastFrameAt : Int) / 1000000000))
  else none

/-- What `handle_frame` stores for a dequeued frame, at wall-clock reading `wall`.
Source: `capture_state_machine.cpp` `CaptureStateMachine::handle_frame` -/
@[simps] def withFrame (rnd : ℚ → ℚ) (m : CaptureStateMachine) (frame : FrameDescriptor)
    (wall : Int) : CaptureStateMachine :=
  { m with
    stats := m.stats.recordFrame rnd frame.bytesUsed (durationCastSeconds wall)
      (m.frameInterval rnd frame)
    lastFrameAt := frame.capturedAt
    haveLastFrame := true }

/-- `stats_.stalls.fetch_add(1)`
Source: `capture_state_machine.cpp` `CaptureStateMachine::begin_release_cycle` -/
@[simps] def withStall (m : CaptureStateMachine) : CaptureStateMachine :=
  { m with stats := m.stats.addStall }

/-- `stats_.reconnects.fetch_add(1)`
Source: `capture_state_machine.cpp` `CaptureStateMachine::step_awaiting_producer` -/
@[simps] def withReconnect (m : CaptureStateMachine) : CaptureStateMachine :=
  { m with stats := m.stats.addReconnect }

/-- `current_format_ = format`
Source: `capture_state_machine.cpp` `step_awaiting_producer`, `step_recovering` -/
@[simps] def withFormat (m : CaptureStateMachine) (format : StreamFormat) : CaptureStateMachine :=
  { m with currentFormat := format }

/-- `recovering_ = recovering`
Source: `capture_state_machine.cpp` `begin_release_cycle`, `lose_device`, `step_recovering` -/
@[simps] def withRecovering (m : CaptureStateMachine) (recovering : Bool) : CaptureStateMachine :=
  { m with recovering := recovering }

/-- `has_streamed_before_ = true`
Source: `capture_state_machine.cpp` `CaptureStateMachine::step_awaiting_producer` -/
@[simps] def withStreamed (m : CaptureStateMachine) : CaptureStateMachine :=
  { m with hasStreamedBefore := true }

/-- `awaiting_producer_backoff_.reset()`
Source: `capture_state_machine.cpp` `CaptureStateMachine::begin_release_cycle` -/
@[simps] def resetAwaitingProducer (m : CaptureStateMachine) : CaptureStateMachine :=
  { m with awaitingProducerBackoff := m.awaitingProducerBackoff.reset }

/-- `next_attempt_at_ = now; have_last_frame_ = false`
Source: `capture_state_machine.cpp` `begin_release_cycle`, `lose_device` -/
@[simps] def withDeadline (m : CaptureStateMachine) (now : TimePoint) : CaptureStateMachine :=
  { m with nextAttemptAt := now, haveLastFrame := false }

/-- `kRateAnomalyFactor`. Source: `capture_state_machine.cpp` -/
def rateAnomalyFactor : ℚ := 5

/-- `kRateAnomalyWindow`, in nanoseconds. Source: `capture_state_machine.cpp` -/
def rateAnomalyWindow : Int := 2000000000

/-- Whether a window of `elapsed` nanoseconds with `count` frames is anomalous.
Source: `capture_state_machine.cpp` `CaptureStateMachine::check_arrival_rate` -/
def rateExceeds (rnd : ℚ → ℚ) (config : DaemonConfig) (count : UInt32) (elapsed : Int) : Bool :=
  let seconds : ℚ := rnd (rnd elapsed / 1000000000)
  let rate : ℚ := rnd (count.toNat / seconds)
  let threshold : ℚ := rnd (config.expectedFps.toNat * rateAnomalyFactor)
  decide (0 < config.expectedFps ∧ threshold < rate)

/-- `++rate_window_frame_count_`
Source: `capture_state_machine.cpp` `CaptureStateMachine::check_arrival_rate` -/
@[simps] def withWindowFrame (m : CaptureStateMachine) : CaptureStateMachine :=
  { m with rateWindowFrameCount := m.rateWindowFrameCount + 1 }

/-- `rate_anomaly_active_ = active`
Source: `capture_state_machine.cpp` `CaptureStateMachine::check_arrival_rate` -/
@[simps] def withAnomaly (m : CaptureStateMachine) (active : Bool) : CaptureStateMachine :=
  { m with rateAnomalyActive := active }

/-- `rate_window_start_ = now; rate_window_frame_count_ = 0`
Source: `capture_state_machine.cpp` `CaptureStateMachine::check_arrival_rate` -/
@[simps] def withWindow (m : CaptureStateMachine) (now : TimePoint) : CaptureStateMachine :=
  { m with rateWindowStart := now, rateWindowFrameCount := 0 }

/-- Count a frame in the rate window and judge the window once it is long enough.
Source: `capture_state_machine.cpp` `CaptureStateMachine::check_arrival_rate` -/
def checkArrivalRate (rnd : ℚ → ℚ) (m : CaptureStateMachine) (now : TimePoint) :
    CaptureStateMachine :=
  let m := m.withWindowFrame
  let elapsed := now - m.rateWindowStart
  if elapsed < rateAnomalyWindow then m
  else if rateExceeds rnd m.config m.rateWindowFrameCount elapsed then
    -- an episode is counted once, when it begins
    (if !m.rateAnomalyActive then (m.withError .geometry).withAnomaly true else m).withWindow now
  else (m.withAnomaly false).withWindow now

/-! ## The member functions -/

/-- `device_.open()`. Source: `capture_state_machine.cpp` -/
abbrev openDevice : Capture OpenResult := perform (Call.device .openDevice)

/-- `device_.close()`. Source: `capture_state_machine.cpp` -/
abbrev closeDevice : Capture Unit := perform (Call.device .closeDevice)

/-- `device_.query_format(format)`. Source: `capture_state_machine.cpp` -/
abbrev queryFormat : Capture (FormatResult × StreamFormat) := perform (Call.device .queryFormat)

/-- `device_.start_streaming(count)`. Source: `capture_state_machine.cpp` -/
abbrev startStreaming (count : UInt32) : Capture StreamStartResult :=
  perform (Call.device (.startStreaming count))

/-- `device_.stop_streaming()`. Source: `capture_state_machine.cpp` -/
abbrev stopStreaming : Capture Unit := perform (Call.device .stopStreaming)

/-- `device_.dequeue_frame(timeout, frame)`. Source: `capture_state_machine.cpp` -/
abbrev dequeueFrame (timeout : Millis) : Capture (DequeueResult × FrameDescriptor) :=
  perform (Call.device (.dequeueFrame timeout))

/-- `device_.requeue_frame(index)`. Source: `capture_state_machine.cpp` -/
abbrev requeueFrame (index : UInt32) : Capture Unit := perform (Call.device (.requeueFrame index))

/-- `clock_.steady_now()`. Source: `capture_state_machine.cpp` -/
abbrev steadyNow : Capture TimePoint := perform Call.steadyNow

/-- `clock_.wall_now()`. Source: `capture_state_machine.cpp` -/
abbrev wallNow : Capture Int := perform Call.wallNow

/-- `events_.emit(event)`. Source: `capture_state_machine.cpp` -/
abbrev emit (event : Event) : Capture Unit := perform (Call.emit event)

/-- Source: `capture_state_machine.cpp` `CaptureStateMachine::handle_frame` -/
def handleFrame (rnd : ℚ → ℚ) (frame : FrameDescriptor) : Capture Unit := do
  requeueFrame frame.bufferIndex
  let wall ← wallNow
  modify (withFrame rnd · frame wall)

/-- Source: `capture_state_machine.cpp` `CaptureStateMachine::begin_release_cycle` -/
def beginReleaseCycle (reason : ErrorReason) : Capture Unit := do
  modify withStall
  modify (·.withError reason)
  modify (·.withState .stalled)
  emit { type := .stallDetected }
  stopStreaming
  closeDevice
  modify (·.withState .awaitingProducer)
  modify (·.withRecovering true)
  modify resetAwaitingProducer
  let now ← steadyNow
  modify (·.withDeadline now)

/-- Source: `capture_state_machine.cpp` `CaptureStateMachine::lose_device` -/
def loseDevice : Capture Unit := do
  modify (·.withError .deviceLost)
  stopStreaming
  closeDevice
  emit { type := .deviceLost }
  modify (·.withState .deviceAbsent)
  modify (·.withRecovering false)
  modify resetBackoffs
  let now ← steadyNow
  modify (·.withDeadline now)

/-- Source: `capture_state_machine.cpp` `CaptureStateMachine::enter_configuring` -/
def enterConfiguring : Capture StepOutcome := do
  modify (·.withState .configuring)
  let m ← get
  if (← startStreaming m.config.bufferCount) = .bufferError then
    modify (·.withError .buffer)
    modify (·.withState .awaitingProducer)
    let delay := m.awaitingProducerBackoff.next.1
    let now ← steadyNow
    modify (·.delayAwaitingProducer now)
    return ⟨delay⟩
  let now ← steadyNow
  modify (·.withSession now)
  modify (·.withState .streaming)
  return {}

/-- Source: `capture_state_machine.cpp` `CaptureStateMachine::step_device_absent` -/
def stepDeviceAbsent : Capture StepOutcome := do
  let now ← steadyNow
  let m ← get
  if now < m.nextAttemptAt then
    return ⟨durationCastMillis (m.nextAttemptAt - now)⟩
  if (← openDevice) = .opened then
    modify resetBackoffs
    modify (·.withState .awaitingProducer)
    emit { type := .deviceOpened }
    emit { type := .awaitingProducer }
    return {}
  modify (·.withError .open)
  modify (·.delayDeviceAbsent now)
  return ⟨m.deviceAbsentBackoff.next.1⟩

/-- Source: `capture_state_machine.cpp` `CaptureStateMachine::step_awaiting_producer` -/
def stepAwaitingProducer : Capture StepOutcome := do
  let now ← steadyNow
  let m ← get
  if now < m.nextAttemptAt then
    return ⟨durationCastMillis (m.nextAttemptAt - now)⟩
  let (result, format) ← queryFormat
  if result = .noProducer then
    modify (·.delayAwaitingProducer now)
    return ⟨m.awaitingProducerBackoff.next.1⟩
  if result = .error then
    modify (·.withError .format)
    modify (·.delayAwaitingProducer now)
    return ⟨m.awaitingProducerBackoff.next.1⟩
  modify (·.withFormat format)
  let outcome ← enterConfiguring
  let m ← get
  if m.state = .streaming then
    if m.hasStreamedBefore then
      modify withReconnect
      emit { type := .reconnecting }
    else
      modify withStreamed
      emit { type := .streamingStarted, format := m.currentFormat }
  return outcome

/-- Source: `capture_state_machine.cpp` `CaptureStateMachine::step_recovering` -/
def stepRecovering : Capture StepOutcome := do
  let now ← steadyNow
  let m ← get
  if now < m.nextAttemptAt then
    return ⟨durationCastMillis (m.nextAttemptAt - now)⟩
  if (← openDevice) ≠ .opened then
    loseDevice
    return {}
  let (result, format) ← queryFormat
  if result ≠ .known then
    closeDevice
    if result = .error then
      modify (·.withError .format)
    modify (·.delayAwaitingProducer now)
    return ⟨m.awaitingProducerBackoff.next.1⟩
  let previous := m.currentFormat
  modify (·.withFormat format)
  let outcome ← enterConfiguring
  let m ← get
  if m.state = .streaming then
    modify (·.withRecovering false)
    emit { type := .stallCleared }
    if ¬ format = previous then
      emit { type := .formatChanged, format := format, previousFormat := previous }
    emit { type := .streamingStarted, format := m.currentFormat }
  else
    closeDevice
  return outcome

/-- Source: `capture_state_machine.cpp` `CaptureStateMachine::step_streaming` -/
def stepStreaming (rnd : ℚ → ℚ) (pollTimeout : Millis) : Capture StepOutcome := do
  let (result, frame) ← dequeueFrame pollTimeout
  match result with
  | .frame =>
      handleFrame rnd frame
      modify (·.checkArrivalRate rnd frame.capturedAt)
      let m ← get
      if m.currentFormat.compressed = false ∧ frame.bytesUsed ≠ m.currentFormat.sizeImage.toUInt64 then
        beginReleaseCycle .geometry
      return {}
  | .timeout =>
      let now ← steadyNow
      let m ← get
      if m.haveLastFrame ∧ m.stallThreshold.toNanos ≤ now - m.lastFrameAt then
        beginReleaseCycle .timeout
      return {}
  | .error =>
      modify (·.withError .dequeue)
      return {}
  | .deviceLost =>
      loseDevice
      return {}

/-- One step of the machine.
Source: `capture_state_machine.cpp` `CaptureStateMachine::step` -/
def step (rnd : ℚ → ℚ) (pollTimeout : Millis) : Capture StepOutcome := do
  let m ← get
  match m.state with
  | .deviceAbsent => stepDeviceAbsent
  | .awaitingProducer => if m.recovering then stepRecovering else stepAwaitingProducer
  | .configuring => return {}
  | .stalled => return {}
  | .streaming => stepStreaming rnd pollTimeout

end CaptureStateMachine

end Hamstercam
