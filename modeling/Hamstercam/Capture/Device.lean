import Mathlib.Logic.Basic
import Hamstercam.Lib.Interaction

/-!
# The capture device interface

The data of `capture_device.hpp` and the seven calls of `ICaptureDevice` as a call signature:

* `StreamFormat`, `FrameDescriptor` and the four result enumerations, as the header has them.
* `DeviceCall`, with `DeviceCall.Answer` the type of what each call gives back. An out-parameter is
  part of the answer: the caller passes a default value and reads it only where the result says so.
* `CaptureDevice δ` — an implementation of the interface with state `δ`: one state transformer for
  each call.

Time is in the units of the source: `TimePoint` counts nanoseconds of `steady_clock` (as in
libstdc++) and `Millis` milliseconds, both as exact integers.
-/

namespace Hamstercam

open Interaction

/-! ## Time -/

/-- A `steady_clock::time_point`, in nanoseconds.
Source: `clock.hpp` -/
abbrev TimePoint : Type := Int

/-- A `std::chrono::milliseconds` duration.
Source: `backoff.hpp`, `daemon_config.hpp` -/
abbrev Millis : Type := Int

/-- A millisecond duration in nanoseconds: the implicit conversion of `now + delay`.
Source: `capture_state_machine.cpp` -/
def Millis.toNanos (d : Millis) : Int := d * 1000000

/-- `duration_cast<milliseconds>` of a nanosecond duration: truncation towards zero.
Source: `capture_state_machine.cpp` -/
def durationCastMillis (ns : Int) : Millis := ns.tdiv 1000000

/-- `duration_cast<seconds>` of a nanosecond duration: truncation towards zero.
Source: `capture_state_machine.cpp` `handle_frame`, `progress_parser.cpp` `parse_line` -/
def durationCastSeconds (ns : Int) : Int := ns.tdiv 1000000000

/-! ## Formats, frames and results -/

/-- What `VIDIOC_G_FMT` reports.
Source: `capture_device.hpp` `StreamFormat` -/
structure StreamFormat where
  /-- Width in pixels. -/
  width : UInt32 := 0
  /-- Height in pixels. -/
  height : UInt32 := 0
  /-- Raw V4L2 four-character code. -/
  pixelFormatFourcc : UInt32 := 0
  /-- The driver's buffer size: exact for an uncompressed format, an upper bound otherwise. -/
  sizeImage : UInt32 := 0
  /-- Bytes per line. -/
  bytesperline : UInt32 := 0
  /-- Whether the driver classifies the format as compressed. -/
  compressed : Bool := true
  deriving DecidableEq

/-- Metadata for one dequeued buffer.
Source: `capture_device.hpp` `FrameDescriptor` -/
structure FrameDescriptor where
  /-- The buffer the frame is in. -/
  bufferIndex : UInt32 := 0
  /-- Payload size. -/
  bytesUsed : UInt64 := 0
  /-- When the frame was dequeued. -/
  capturedAt : TimePoint := 0
  deriving DecidableEq

/-- Source: `capture_device.hpp` `OpenResult` -/
inductive OpenResult
  | opened
  | absent
  deriving DecidableEq

/-- Source: `capture_device.hpp` `FormatResult` -/
inductive FormatResult
  | known
  | noProducer
  | error
  deriving DecidableEq

/-- Source: `capture_device.hpp` `StreamStartResult` -/
inductive StreamStartResult
  | started
  | bufferError
  deriving DecidableEq

/-- Source: `capture_device.hpp` `DequeueResult` -/
inductive DequeueResult
  | frame
  | timeout
  | deviceLost
  | error
  deriving DecidableEq

/-! ## The interface -/

/-- The calls of `ICaptureDevice`. `openDevice` and `closeDevice` are its `open` and `close`.
Source: `capture_device.hpp` `ICaptureDevice` -/
inductive DeviceCall
  | openDevice
  | closeDevice
  | queryFormat
  | startStreaming (bufferCount : UInt32)
  | stopStreaming
  | dequeueFrame (timeout : Millis)
  | requeueFrame (bufferIndex : UInt32)
  deriving DecidableEq

/-- What each device call gives back, out-parameters included.
Source: `capture_device.hpp` `ICaptureDevice` -/
@[reducible] def DeviceCall.Answer : DeviceCall → Type
  | .openDevice => OpenResult
  | .closeDevice => Unit
  | .queryFormat => FormatResult × StreamFormat
  | .startStreaming _ => StreamStartResult
  | .stopStreaming => Unit
  | .dequeueFrame _ => DequeueResult × FrameDescriptor
  | .requeueFrame _ => Unit

/-- An implementation of `ICaptureDevice` with state `δ`.
Source: `capture_device.hpp` `ICaptureDevice` -/
structure CaptureDevice (δ : Type) where
  /-- `open()` -/
  openDevice : δ → OpenResult × δ
  /-- `close()` -/
  closeDevice : δ → δ
  /-- `query_format(out)` -/
  queryFormat : δ → (FormatResult × StreamFormat) × δ
  /-- `start_streaming(buffer_count)` -/
  startStreaming : UInt32 → δ → StreamStartResult × δ
  /-- `stop_streaming()` -/
  stopStreaming : δ → δ
  /-- `dequeue_frame(timeout, out)` -/
  dequeueFrame : Millis → δ → (DequeueResult × FrameDescriptor) × δ
  /-- `requeue_frame(buffer_index)` -/
  requeueFrame : UInt32 → δ → δ

/-- Dispatch of a virtual call to the implementation.
Source: `capture_device.hpp` `ICaptureDevice` -/
def CaptureDevice.answer {δ : Type} (dev : CaptureDevice δ) (d : δ) :
    (c : DeviceCall) → c.Answer × δ
  | .openDevice => dev.openDevice d
  | .closeDevice => ((), dev.closeDevice d)
  | .queryFormat => dev.queryFormat d
  | .startStreaming n => dev.startStreaming n d
  | .stopStreaming => ((), dev.stopStreaming d)
  | .dequeueFrame t => dev.dequeueFrame t d
  | .requeueFrame i => ((), dev.requeueFrame i d)

end Hamstercam
