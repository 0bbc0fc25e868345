import Hamstercam.Capture.Device

/-!
# The kernel, as the capture device sees it

* `KernelCall` — the system calls of `v4l2_capture_device.cpp`, with `KernelCall.Answer` what each gives
  back. Every answer of the right type is possible.
* `Kernel` — an arbitrary kernel: the replies it has left to give, and the calls answered so far. A
  kernel that has run out of replies fails every call.
* `Held.check` — the discipline of descriptors and mappings: at most one descriptor is open, every call
  is made on the open one, a mapping is removed exactly once and before its descriptor is closed.
  `Kernel.held` is what is held after the calls so far, `none` if one of them broke the discipline.

A successful `mmap` never returns null, which is part of its answer here.
-/

namespace Hamstercam

open Interaction

/-! ## System calls -/

/-- The `errno` values the code tells apart. Source: `v4l2_capture_device.cpp` -/
inductive Errno
  | eintr
  | einval
  | eagain
  | enodev
  | eio
  | other
  deriving DecidableEq

/-- What `VIDIOC_G_FMT` reports. Source: `v4l2_capture_device.cpp` `query_format` -/
structure PixFormat where
  width : UInt32 := 0
  height : UInt32 := 0
  pixelformat : UInt32 := 0
  sizeimage : UInt32 := 0
  bytesperline : UInt32 := 0

/-- What `VIDIOC_ENUM_FMT` reports. Source: `v4l2_capture_device.cpp` `query_compressed` -/
structure FormatDescription where
  pixelformat : UInt32 := 0
  flags : UInt32 := 0

/-- What `VIDIOC_QUERYBUF` and `VIDIOC_DQBUF` report.
Source: `v4l2_capture_device.cpp` `start_streaming`, `dequeue_frame` -/
structure V4L2Buffer where
  index : UInt32 := 0
  length : UInt32 := 0
  offset : UInt32 := 0
  bytesused : UInt32 := 0

/-- The `ioctl` requests, with what they send. Source: `v4l2_capture_device.cpp` -/
inductive Request
  | gFmt
  | enumFmt (index : UInt32)
  | reqBufs (count : UInt32)
  | queryBuf (index : UInt32)
  | qBuf (index : UInt32)
  | dqBuf
  | streamOn
  | streamOff
  deriving DecidableEq

/-- What a successful request reports. Source: `v4l2_capture_device.cpp` -/
@[reducible] def Request.Result : Request → Type
  | .gFmt => PixFormat
  | .enumFmt _ => FormatDescription
  | .reqBufs _ => UInt32
  | .queryBuf _ => V4L2Buffer
  | .qBuf _ => Unit
  | .dqBuf => V4L2Buffer
  | .streamOn => Unit
  | .streamOff => Unit

/-- An address that `mmap` returns when it succeeds: any but null.
Source: `v4l2_capture_device.cpp` `start_streaming` -/
abbrev Address : Type := { a : UInt64 // a ≠ 0 }

/-- What `poll` reports. Source: `v4l2_capture_device.cpp` `dequeue_frame` -/
inductive PollResult
  | timeout
  | failed (errno : Errno)
  | ready (revents : UInt16)

/-- The system calls of the device, and its own reading of the steady clock.
Source: `v4l2_capture_device.cpp` -/
inductive KernelCall
  | open (path : String)
  | close (fd : Int)
  | ioctl (fd : Int) (request : Request)
  | mmap (fd : Int) (length : UInt32) (offset : UInt32)
  | munmap (address : UInt64) (length : UInt32)
  | poll (fd : Int) (timeout : Int)
  | steadyNow

/-- What each call gives back. `open` answers a descriptor, which is negative if it fails.
Source: `v4l2_capture_device.cpp` -/
@[reducible] def KernelCall.Answer : KernelCall → Type
  | .open _ => Int
  | .close _ => Unit
  | .ioctl _ request => Except Errno request.Result
  | .mmap _ _ _ => Option Address
  | .munmap _ _ => Unit
  | .poll _ _ => PollResult
  | .steadyNow => TimePoint

/-- The answer of a kernel that fails everything it can fail.
Source: none: infrastructure -/
def KernelCall.failure : (c : KernelCall) → c.Answer
  | .open _ => -1
  | .close _ => ()
  | .ioctl _ _ => .error .other
  | .mmap _ _ _ => none
  | .munmap _ _ => ()
  | .poll _ _ => .failed .other
  | .steadyNow => 0

/-! ## An arbitrary kernel -/

/-- One reply of a kernel, to whichever call comes next. Source: none: infrastructure -/
abbrev Reply : Type := (c : KernelCall) → c.Answer

/-- A kernel: the replies to come, and the calls answered so far, oldest first.
Source: none: infrastructure -/
structure Kernel where
  replies : List Reply
  log : List (Obs KernelCall.Answer)

/-- One system call. Source: none: infrastructure -/
def Kernel.call (k : Kernel) (c : KernelCall) : c.Answer × Kernel :=
  match k.replies with
  | [] => (c.failure, { k with log := k.log ++ [⟨c, c.failure⟩] })
  | reply :: replies => (reply c, ⟨replies, k.log ++ [⟨c, reply c⟩]⟩)

/-- Every call is logged with its answer. Source: none: infrastructure -/
theorem Kernel.call_log (k : Kernel) (c : KernelCall) :
    (k.call c).2.log = k.log ++ [⟨c, (k.call c).1⟩] := by
  unfold Kernel.call
  split <;> rfl

/-! ## Descriptors and mappings -/

/-- A mapping: its address and its length. Source: `v4l2_capture_device.hpp` `MappedBuffer` -/
structure MappedBuffer where
  address : UInt64
  length : UInt32
  deriving DecidableEq

/-- What a process holds: the descriptor that is open and the buffers that are mapped.
Source: none: infrastructure -/
structure Held where
  descriptor : Option Int := none
  mappings : List MappedBuffer := []
  deriving DecidableEq

namespace Held

/-- What is held after a call, `none` if the call breaks the discipline.
Source: `capture_state_machine.cpp` `step_recovering` (the comment on held descriptors) -/
def check (h : Held) : Obs KernelCall.Answer → Option Held
  | ⟨.open _, fd⟩ =>
      if h.descriptor.isSome then none
      else if 0 ≤ fd then some { h with descriptor := some fd }
      else some h
  | ⟨.close fd, _⟩ =>
      if h.descriptor = some fd ∧ h.mappings = [] then some { h with descriptor := none } else none
  | ⟨.ioctl fd _, _⟩ => if h.descriptor = some fd then some h else none
  | ⟨.mmap fd length _, address⟩ =>
      if h.descriptor = some fd then
        match address with
        | some a => some { h with mappings := h.mappings ++ [⟨a.1, length⟩] }
        | none => some h
      else none
  | ⟨.munmap address length, _⟩ =>
      if ⟨address, length⟩ ∈ h.mappings then
        some { h with mappings := h.mappings.erase ⟨address, length⟩ }
      else none
  | ⟨.poll fd _, _⟩ => if h.descriptor = some fd then some h else none
  | ⟨.steadyNow, _⟩ => some h

end Held

/-- What is held after the calls of a kernel so far, `none` if one of them broke the discipline.
Source: none: infrastructure -/
def Kernel.held (k : Kernel) : Option Held := k.log.foldlM Held.check {}

/-- One more call. Source: none: infrastructure -/
theorem Kernel.held_call (k : Kernel) (c : KernelCall) :
    (k.call c).2.held = k.held.bind fun h => h.check ⟨c, (k.call c).1⟩ := by
  unfold Kernel.held
  rw [Kernel.call_log, List.foldlM_append]
  simp

end Hamstercam
