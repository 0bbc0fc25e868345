import Hamstercam.Device.Kernel

/-!
# The V4L2 capture device

`V4L2CaptureDevice` and its seven methods, translated from `v4l2_capture_device.cpp`; `v4l2` is the
implementation of the `CaptureDevice` interface they make up. The kernel is a field of the device: a
method is a function of the members and the kernel.

* `xioctl` repeats a request as long as it is interrupted; `queryCompressedFrom` enumerates formats
  until one matches or a request fails. Both end because a kernel has finitely many replies.
* An out-parameter is part of the result, with its default where the method does not write it.
-/

namespace Hamstercam

open Interaction

/-- Source: `v4l2_capture_device.hpp` `V4L2CaptureDevice` -/
structure V4L2CaptureDevice where
  /-- `device_path_` -/
  devicePath : String
  /-- `fd_` -/
  fd : Int
  /-- `buffers_` -/
  buffers : List MappedBuffer
  /-- `streaming_` -/
  streaming : Bool
  /-- The kernel the device runs on. -/
  kernel : Kernel

namespace V4L2CaptureDevice

/-- Source: `v4l2_capture_device.cpp` `V4L2CaptureDevice::V4L2CaptureDevice` -/
def new (devicePath : String) (replies : List Reply) : V4L2CaptureDevice :=
  ⟨devicePath, -1, [], false, ⟨replies, []⟩⟩

/-- One system call. Source: none: infrastructure -/
def call (d : V4L2CaptureDevice) (c : KernelCall) : c.Answer × V4L2CaptureDevice :=
  ((d.kernel.call c).1, { d with kernel := (d.kernel.call c).2 })

/-- `ioctl`, repeated as long as it is interrupted, from the replies a kernel has left.
Source: `v4l2_capture_device.cpp` `xioctl` -/
def ioctlLoop (fd : Int) (request : Request) (log : List (Obs KernelCall.Answer)) :
    List Reply → Except Errno request.Result × Kernel
  | [] => (Kernel.mk [] log).call (.ioctl fd request)
  | reply :: replies =>
      match reply (.ioctl fd request) with
      | .error .eintr =>
          ioctlLoop fd request (log ++ [⟨.ioctl fd request, .error .eintr⟩]) replies
      | r => (r, ⟨replies, log ++ [⟨.ioctl fd request, r⟩]⟩)

/-- A request on the device's descriptor. Source: `v4l2_capture_device.cpp` `xioctl` -/
def xioctl (d : V4L2CaptureDevice) (request : Request) :
    Except Errno request.Result × V4L2CaptureDevice :=
  let out := ioctlLoop d.fd request d.kernel.log d.kernel.replies
  (out.1, { d with kernel := out.2 })

/-- A request that succeeds has used up a reply. Source: none: infrastructure -/
theorem ioctlLoop_ok {fd : Int} {request : Request} {log : List (Obs KernelCall.Answer)}
    {replies : List Reply} {r : request.Result}
    (h : (ioctlLoop fd request log replies).1 = .ok r) :
    (ioctlLoop fd request log replies).2.replies.length < replies.length := by
  induction replies generalizing log with
  | nil => simp [ioctlLoop, Kernel.call, KernelCall.failure] at h
  | cons reply replies ih =>
      unfold ioctlLoop at h ⊢
      split
      · next hr =>
          rw [hr] at h
          exact Nat.lt_succ_of_lt (ih h)
      · exact Nat.lt_succ_self _

/-- Source: `v4l2_capture_device.cpp` `V4L2CaptureDevice::unmap_buffers` -/
def unmapBuffers (d : V4L2CaptureDevice) : V4L2CaptureDevice :=
  let unmapped := d.buffers.foldl (fun d b =>
    if b.address ≠ 0 then (d.call (.munmap b.address b.length)).2 else d) d
  { unmapped with buffers := [] }

/-- Source: `v4l2_capture_device.cpp` `V4L2CaptureDevice::open` -/
def openDevice (d : V4L2CaptureDevice) : OpenResult × V4L2CaptureDevice :=
  let (fd, d) := d.call (.open d.devicePath)
  (if fd < 0 then .absent else .opened, { d with fd := fd })

/-- Source: `v4l2_capture_device.cpp` `V4L2CaptureDevice::close` -/
def closeDevice (d : V4L2CaptureDevice) : V4L2CaptureDevice :=
  let d := d.unmapBuffers
  if 0 ≤ d.fd then { (d.call (.close d.fd)).2 with fd := -1 } else d

/-- Whether the driver lists `fourcc` as compressed, from format number `index` on.
Source: `v4l2_capture_device.cpp` `V4L2CaptureDevice::query_compressed` -/
def queryCompressedFrom (d : V4L2CaptureDevice) (fourcc index : UInt32) : Bool × V4L2CaptureDevice :=
  match h : (d.xioctl (.enumFmt index)).1 with
  | .error _ => (true, (d.xioctl (.enumFmt index)).2)
  | .ok desc =>
      if desc.pixelformat = fourcc then (desc.flags &&& 1 ≠ 0, (d.xioctl (.enumFmt index)).2)
      else (d.xioctl (.enumFmt index)).2.queryCompressedFrom fourcc (index + 1)
termination_by d.kernel.replies.length
decreasing_by exact ioctlLoop_ok h

/-- Source: `v4l2_capture_device.cpp` `V4L2CaptureDevice::query_compressed` -/
def queryCompressed (d : V4L2CaptureDevice) (fourcc : UInt32) : Bool × V4L2CaptureDevice :=
  d.queryCompressedFrom fourcc 0

/-- Source: `v4l2_capture_device.cpp` `V4L2CaptureDevice::query_format` -/
def queryFormat (d : V4L2CaptureDevice) : (FormatResult × StreamFormat) × V4L2CaptureDevice :=
  match d.xioctl .gFmt with
  | (.error errno, d) => ((if errno = .einval then .noProducer else .error, {}), d)
  | (.ok pix, d) =>
      let (compressed, d) := d.queryCompressed pix.pixelformat
      ((.known, {
          width := pix.width
          height := pix.height
          pixelFormatFourcc := pix.pixelformat
          sizeImage := pix.sizeimage
          bytesperline := pix.bytesperline
          compressed := compressed }), d)

/-- Map and queue buffer number `i`; `false` when that fails, and then all buffers are unmapped.
Source: `v4l2_capture_device.cpp` `V4L2CaptureDevice::start_streaming` (the body of the loop) -/
def mapBuffer (d : V4L2CaptureDevice) (i : UInt32) : Bool × V4L2CaptureDevice :=
  match d.xioctl (.queryBuf i) with
  | (.error _, d) => (false, d.unmapBuffers)
  | (.ok buf, d) =>
      match d.call (.mmap d.fd buf.length buf.offset) with
      | (none, d) => (false, d.unmapBuffers)
      | (some address, d) =>
          let d := { d with buffers := d.buffers ++ [MappedBuffer.mk address.1 buf.length] }
          match d.xioctl (.qBuf buf.index) with
          | (.error _, d) => (false, d.unmapBuffers)
          | (.ok _, d) => (true, d)

/-- Map and queue `n` buffers, from number `i` on, until one of them fails.
Source: `v4l2_capture_device.cpp` `V4L2CaptureDevice::start_streaming` (the loop) -/
def mapBuffers (d : V4L2CaptureDevice) (i : UInt32) : Nat → Bool × V4L2CaptureDevice
  | 0 => (true, d)
  | n + 1 =>
      match d.mapBuffer i with
      | (false, d) => (false, d)
      | (true, d) => d.mapBuffers (i + 1) n

/-- Source: `v4l2_capture_device.cpp` `V4L2CaptureDevice::start_streaming` -/
def startStreaming (bufferCount : UInt32) (d : V4L2CaptureDevice) :
    StreamStartResult × V4L2CaptureDevice :=
  match d.xioctl (.reqBufs bufferCount) with
  | (.error _, d) => (.bufferError, d)
  | (.ok count, d) =>
      match ({ d with buffers := [] } : V4L2CaptureDevice).mapBuffers 0 count.toNat with
      | (false, d) => (.bufferError, d)
      | (true, d) =>
          match d.xioctl .streamOn with
          | (.error _, d) => (.bufferError, d.unmapBuffers)
          | (.ok _, d) => (.started, { d with streaming := true })

/-- Source: `v4l2_capture_device.cpp` `V4L2CaptureDevice::stop_streaming` -/
def stopStreaming (d : V4L2CaptureDevice) : V4L2CaptureDevice :=
  let d := if d.streaming then { (d.xioctl .streamOff).2 with streaming := false } else d
  d.unmapBuffers

/-- `POLLERR | POLLHUP | POLLNVAL`. Source: `v4l2_capture_device.cpp` `dequeue_frame` -/
def pollLost : UInt16 := 0x8 ||| 0x10 ||| 0x20

/-- Source: `v4l2_capture_device.cpp` `V4L2CaptureDevice::dequeue_frame` -/
def dequeueFrame (timeout : Millis) (d : V4L2CaptureDevice) :
    (DequeueResult × FrameDescriptor) × V4L2CaptureDevice :=
  match d.call (.poll d.fd timeout) with
  | (.timeout, d) => ((.timeout, {}), d)
  | (.failed errno, d) => ((if errno = .eintr then .timeout else .error, {}), d)
  | (.ready revents, d) =>
      if revents &&& pollLost ≠ 0 then ((.deviceLost, {}), d)
      else
        match d.xioctl .dqBuf with
        | (.error errno, d) =>
            if errno = .eagain then ((.timeout, {}), d)
            else if errno = .enodev ∨ errno = .eio then ((.deviceLost, {}), d)
            else ((.error, {}), d)
        | (.ok buf, d) =>
            let (now, d) := d.call .steadyNow
            ((.frame, {
                bufferIndex := buf.index
                bytesUsed := buf.bytesused.toUInt64
                capturedAt := now }), d)

/-- Source: `v4l2_capture_device.cpp` `V4L2CaptureDevice::requeue_frame` -/
def requeueFrame (bufferIndex : UInt32) (d : V4L2CaptureDevice) : V4L2CaptureDevice :=
  (d.xioctl (.qBuf bufferIndex)).2

end V4L2CaptureDevice

/-- The V4L2 implementation of the interface.
Source: `v4l2_capture_device.hpp` `V4L2CaptureDevice` -/
def v4l2 : CaptureDevice V4L2CaptureDevice where
  openDevice := V4L2CaptureDevice.openDevice
  closeDevice := V4L2CaptureDevice.closeDevice
  queryFormat := V4L2CaptureDevice.queryFormat
  startStreaming := V4L2CaptureDevice.startStreaming
  stopStreaming := V4L2CaptureDevice.stopStreaming
  dequeueFrame := V4L2CaptureDevice.dequeueFrame
  requeueFrame := V4L2CaptureDevice.requeueFrame

end Hamstercam
