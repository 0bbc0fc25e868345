import Mathlib.Data.List.Basic
import Mathlib.Data.Rat.Defs
import Mathlib.Logic.Function.Basic
import Mathlib.Tactic.Simps.Basic
import Hamstercam.Capture.Device

/-!
# The exported statistics

* `CaptureState`, with `CaptureState.toInt` the value of the exported gauge, and `ErrorReason`, the
  fixed label set of the error counters.
* `Histogram α` — per-bucket counts, sum and total of `histogram.hpp`, over any type of values; the
  size invariant of its constructor is a field.
* `CaptureStats` — the store behind the metrics: 64-bit counters that wrap, the gauge, the interval
  histogram, the error counters and the published stream format.

**`double` arithmetic.** The program computes rates and intervals in `double`. Here such a value is a
rational, and every arithmetic result passes through a rounding function `rnd : ℚ → ℚ` at the place
where the program rounds it. `rnd := id` is exact arithmetic; nothing is assumed of `rnd` otherwise, so
that results for every `rnd` hold whatever the rounding of the target is.
-/

namespace Hamstercam

/-! ## State gauge and error reasons -/

/-- Source: `capture_state.hpp` `CaptureState` -/
inductive CaptureState
  | deviceAbsent
  | awaitingProducer
  | configuring
  | streaming
  | stalled
  deriving DecidableEq

/-- The value exported as the `hamstercam_capture_state` gauge.
Source: `capture_state.hpp` `CaptureState` -/
def CaptureState.toInt : CaptureState → Int
  | .deviceAbsent => 0
  | .awaitingProducer => 1
  | .configuring => 2
  | .streaming => 3
  | .stalled => 4

/-- Source: `error_reason.hpp` `ErrorReason` -/
inductive ErrorReason
  | open
  | format
  | buffer
  | timeout
  | dequeue
  | deviceLost
  | geometry
  | count
  deriving DecidableEq

/-! ## The histogram -/

/-- A Prometheus-style histogram: one count for each bucket and one for the overflow bucket, the sum
of the observations and their number.
Source: `histogram.hpp` `Histogram` -/
structure Histogram (α : Type) where
  /-- Upper bounds of the buckets, inclusive. -/
  bounds : List α
  /-- Number of observations in each bucket, the overflow bucket last. -/
  counts : List UInt64
  /-- Sum of the observations. -/
  sum : α
  /-- Number of observations. -/
  total : UInt64
  /-- There is one bucket for each bound, and the overflow bucket. -/
  length_counts : counts.length = bounds.length + 1

namespace Histogram

variable {α : Type}

/-- The histogram before any observation.
Source: `histogram.hpp` `Histogram::Histogram` -/
def new (zero : α) (bounds : List α) : Histogram α where
  bounds := bounds
  counts := List.replicate (bounds.length + 1) 0
  sum := zero
  total := 0
  length_counts := List.length_replicate

/-- The bucket of a value: the first bound it does not exceed, else the overflow bucket.
Source: `histogram.hpp` `Histogram::observe` -/
def bucketIndex [LE α] [DecidableLE α] (bounds : List α) (value : α) : Nat :=
  bounds.findIdx fun b => decide (value ≤ b)

/-- Count one observation; `plus` is the addition that accumulates the sum.
Source: `histogram.hpp` `Histogram::observe` -/
def observe [LE α] [DecidableLE α] (plus : α → α → α) (h : Histogram α) (value : α) :
    Histogram α where
  bounds := h.bounds
  counts := h.counts.modify (bucketIndex h.bounds value) (· + 1)
  sum := plus h.sum value
  total := h.total + 1
  length_counts := by rw [List.length_modify, h.length_counts]

/-- One observation adds one to the total. Source: `histogram.hpp` `Histogram::observe` -/
@[simp] theorem observe_total [LE α] [DecidableLE α] (plus : α → α → α) (h : Histogram α) (v : α) :
    (h.observe plus v).total = h.total + 1 := rfl

end Histogram

/-! ## The store -/

/-- The bucket bounds of the frame-interval histogram, as the `double` constants they are.
Source: `histogram.hpp` `frame_interval_buckets` -/
def frameIntervalBuckets (rnd : ℚ → ℚ) : List ℚ :=
  ([0.005, 0.01, 0.02, 0.033, 0.05, 0.0667, 0.1, 0.15, 0.25, 0.5, 1.0, 2.0, 5.0] : List ℚ).map rnd

/-- The backing store of the exported metrics.
Source: `stats.hpp` `CaptureStats`
Fidelity: one thread writes; the atomics and the mutex only order its readers. `errors` has an entry
for `count` as well, which no caller uses -/
structure CaptureStats where
  /-- `frames_received` -/
  framesReceived : UInt64
  /-- `bytes_received` -/
  bytesReceived : UInt64
  /-- The `capture_state` gauge. -/
  captureState : Int
  /-- `reconnects` -/
  reconnects : UInt64
  /-- `stalls` -/
  stalls : UInt64
  /-- `last_frame_unixtime` -/
  lastFrameUnixtime : Int
  /-- `frame_interval_seconds` -/
  frameIntervalSeconds : Histogram ℚ
  /-- `errors_` -/
  errors : ErrorReason → UInt64
  /-- `stream_info_known_` -/
  streamInfoKnown : Bool
  /-- `stream_info_` -/
  streamInfoValue : StreamFormat

namespace CaptureStats

/-- Fresh statistics.
Source: `stats.hpp` `CaptureStats::CaptureStats` -/
@[simps] def new (rnd : ℚ → ℚ) : CaptureStats where
  framesReceived := 0
  bytesReceived := 0
  captureState := CaptureState.deviceAbsent.toInt
  reconnects := 0
  stalls := 0
  lastFrameUnixtime := 0
  frameIntervalSeconds := Histogram.new 0 (frameIntervalBuckets rnd)
  errors _ := 0
  streamInfoKnown := false
  streamInfoValue := {}

/-- `capture_state.store(state)`
Source: `capture_state_machine.cpp` -/
@[simps] def storeCaptureState (s : CaptureStats) (state : CaptureState) : CaptureStats :=
  { s with captureState := state.toInt }

/-- `stalls.fetch_add(1)`
Source: `capture_state_machine.cpp` `CaptureStateMachine::begin_release_cycle` -/
@[simps] def addStall (s : CaptureStats) : CaptureStats := { s with stalls := s.stalls + 1 }

/-- `reconnects.fetch_add(1)`
Source: `capture_state_machine.cpp` `CaptureStateMachine::step_awaiting_producer` -/
@[simps] def addReconnect (s : CaptureStats) : CaptureStats :=
  { s with reconnects := s.reconnects + 1 }

/-- Count a frame of `bytes` bytes, received at wall-clock second `unixtime`; `interval` is the time
since the last frame of the session, if there is one.
Source: `capture_state_machine.cpp` `CaptureStateMachine::handle_frame` -/
@[simps] def recordFrame (rnd : ℚ → ℚ) (s : CaptureStats) (bytes : UInt64) (unixtime : Int)
    (interval : Option ℚ) : CaptureStats :=
  { s with
    framesReceived := s.framesReceived + 1
    bytesReceived := s.bytesReceived + bytes
    lastFrameUnixtime := unixtime
    frameIntervalSeconds := interval.elim s.frameIntervalSeconds
      (s.frameIntervalSeconds.observe fun a b => rnd (a + b)) }

/-- Count an error under its reason.
Source: `stats.hpp` `CaptureStats::record_error` -/
@[simps] def recordError (s : CaptureStats) (reason : ErrorReason) : CaptureStats :=
  { s with errors := Function.update s.errors reason (s.errors reason + 1) }

/-- Publish the format of the stream.
Source: `stats.hpp` `CaptureStats::set_stream_info` -/
@[simps] def setStreamInfo (s : CaptureStats) (format : StreamFormat) : CaptureStats :=
  { s with streamInfoKnown := true, streamInfoValue := format }

/-- The published format, if any.
Source: `stats.hpp` `CaptureStats::stream_info` -/
def streamInfo (s : CaptureStats) : Option StreamFormat :=
  if s.streamInfoKnown then some s.streamInfoValue else none

end CaptureStats

end Hamstercam
