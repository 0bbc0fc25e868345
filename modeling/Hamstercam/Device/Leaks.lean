import Hamstercam.Capture.Protocol
import Hamstercam.Device.V4L2

/-!
# No descriptor and no mapping leaks

* `Uses d d'` — the device has done nothing but make calls on its open descriptor. Queries, dequeues
  and requeues are of this kind.
* `Owns s d` — in typestate `s`, the device holds exactly what its members say: its descriptor if it is
  open, and its buffers while it streams. `Owns.keeps` says that every legal call of the device keeps
  this, whatever the kernel answers.
* `no_leak` — the machine keeps to the protocol (`CaptureRun.accepted`), so the discipline of descriptors
  and mappings holds in every run of the daemon.
-/

namespace Hamstercam

open Interaction CaptureStateMachine

/-! ## Calls on the open descriptor -/

section uses

variable {d d' d'' : V4L2CaptureDevice} {h : Held}

/-- `Uses d d'`: nothing has happened between `d` and `d'` but calls on the open descriptor.
Source: `v4l2_capture_device.cpp` -/
structure Uses (d d' : V4L2CaptureDevice) : Prop where
  fd : d'.fd = d.fd
  buffers : d'.buffers = d.buffers
  streaming : d'.streaming = d.streaming
  held : ∀ {h : Held}, h.descriptor = some d.fd → d.kernel.held = some h → d'.kernel.held = some h

/-- Source: none: infrastructure -/
theorem Uses.trans (h₁ : Uses d d') (h₂ : Uses d' d'') : Uses d d'' where
  fd := h₂.fd.trans h₁.fd
  buffers := h₂.buffers.trans h₁.buffers
  streaming := h₂.streaming.trans h₁.streaming
  held hfd hheld := h₂.held (h₁.fd ▸ hfd) (h₁.held hfd hheld)

/-- A call that is legal while the descriptor is open, and changes nothing that is held.
Source: none: infrastructure -/
theorem uses_call {c : KernelCall}
    (hc : ∀ {h : Held}, h.descriptor = some d.fd → h.check ⟨c, (d.call c).1⟩ = some h) :
    Uses d (d.call c).2 where
  fd := rfl
  buffers := rfl
  streaming := rfl
  held := by
    intro h hfd hheld
    change (d.kernel.call c).2.held = some h
    rw [Kernel.held_call, hheld]
    exact hc hfd

/-- Interrupted or not, the requests of `xioctl` are calls on the open descriptor.
Source: `v4l2_capture_device.cpp` `xioctl` -/
theorem held_ioctlLoop {fd : Int} {request : Request} {log : List (Obs KernelCall.Answer)}
    {replies : List Reply} (hfd : h.descriptor = some fd)
    (hlog : log.foldlM Held.check {} = some h) :
    (V4L2CaptureDevice.ioctlLoop fd request log replies).2.held = some h := by
  have hone : ∀ {log : List (Obs KernelCall.Answer)} (r : Except Errno request.Result),
      log.foldlM Held.check {} = some h →
        (log ++ [(⟨.ioctl fd request, r⟩ : Obs KernelCall.Answer)]).foldlM Held.check {} =
          some h := by
    intro log r hlog
    rw [List.foldlM_append, hlog]
    simp [Held.check, hfd]
  induction replies generalizing log with
  | nil =>
      rw [V4L2CaptureDevice.ioctlLoop, Kernel.held, Kernel.call_log]
      exact hone _ hlog
  | cons reply replies ih =>
      unfold V4L2CaptureDevice.ioctlLoop
      split
      · exact ih (hone _ hlog)
      · exact hone _ hlog

/-- Source: `v4l2_capture_device.cpp` `xioctl` -/
theorem uses_xioctl (d : V4L2CaptureDevice) (request : Request) : Uses d (d.xioctl request).2 where
  fd := rfl
  buffers := rfl
  streaming := rfl
  held hfd hheld := held_ioctlLoop hfd hheld

/-- Source: `v4l2_capture_device.cpp` `V4L2CaptureDevice::query_compressed` -/
theorem uses_queryCompressedFrom (d : V4L2CaptureDevice) (fourcc index : UInt32) :
    Uses d (d.queryCompressedFrom fourcc index).2 := by
  fun_induction V4L2CaptureDevice.queryCompressedFrom d fourcc index with
  | case1 d index _ hr => exact uses_xioctl d _
  | case2 d index desc hr hf => exact uses_xioctl d _
  | case3 d index desc hr hf ih => exact (uses_xioctl d _).trans ih

/-- Source: `v4l2_capture_device.cpp` `V4L2CaptureDevice::query_format` -/
theorem uses_queryFormat (d : V4L2CaptureDevice) : Uses d d.queryFormat.2 := by
  have hquery := uses_xioctl d .gFmt
  unfold V4L2CaptureDevice.queryFormat
  split
  · next hr =>
      rw [hr] at hquery
      exact hquery
  · next pix d₁ hr =>
      rw [hr] at hquery
      exact hquery.trans (uses_queryCompressedFrom d₁ _ 0)

/-- Source: `v4l2_capture_device.cpp` `V4L2CaptureDevice::dequeue_frame` -/
theorem uses_dequeueFrame (timeout : Millis) (d : V4L2CaptureDevice) :
    Uses d (d.dequeueFrame timeout).2 := by
  have hpoll : Uses d (d.call (.poll d.fd timeout)).2 := by
    refine uses_call ?_
    intro h hfd
    simp [Held.check, hfd]
  unfold V4L2CaptureDevice.dequeueFrame
  split
  · next hr => rw [hr] at hpoll; exact hpoll
  · next hr => rw [hr] at hpoll; exact hpoll
  · next revents d₁ hr =>
      rw [hr] at hpoll
      have hdq := uses_xioctl d₁ .dqBuf
      split_ifs
      · exact hpoll
      · split
        · next hr' =>
            rw [hr'] at hdq
            split_ifs <;> exact hpoll.trans hdq
        · next buf d₂ hr' =>
            rw [hr'] at hdq
            have hnow : Uses d₂ (d₂.call .steadyNow).2 := uses_call fun _ => rfl
            exact (hpoll.trans hdq).trans hnow

end uses

/-! ## What the device holds -/

/-- The descriptor the device has open, if any.
Source: `v4l2_capture_device.hpp` member `fd_` -/
def V4L2CaptureDevice.descriptor (d : V4L2CaptureDevice) : Option Int :=
  if 0 ≤ d.fd then some d.fd else none

/-- The device holds its descriptor and its buffers, and nothing else.
Source: `v4l2_capture_device.hpp` members `fd_`, `buffers_` -/
structure Consistent (d : V4L2CaptureDevice) : Prop where
  held : d.kernel.held = some ⟨d.descriptor, d.buffers⟩
  nonnull : ∀ b ∈ d.buffers, b.address ≠ 0

/-- In typestate `s`, the device holds what it should.
Source: `v4l2_capture_device.hpp` members `fd_`, `buffers_`, `streaming_` -/
structure Owns (s : DeviceTypestate) (d : V4L2CaptureDevice) : Prop where
  consistent : Consistent d
  fd : 0 ≤ d.fd ↔ s.isOpen = true
  streaming : d.streaming = s.isStreaming
  buffers : s.isStreaming = false → d.buffers = []

section owns

variable {d d' : V4L2CaptureDevice}

/-- Calls on the open descriptor keep what is held. Source: none: infrastructure -/
theorem Consistent.uses (hd : Consistent d) (hfd : 0 ≤ d.fd) (h : Uses d d') : Consistent d' := by
  have hdesc : d'.descriptor = d.descriptor := by
    unfold V4L2CaptureDevice.descriptor
    rw [h.fd]
  constructor
  · rw [hdesc, h.buffers]
    exact h.held (if_pos hfd) hd.held
  · rw [h.buffers]
    exact hd.nonnull

/-- The loop of `unmap_buffers` unmaps every buffer, once.
Source: `v4l2_capture_device.cpp` `V4L2CaptureDevice::unmap_buffers` -/
theorem held_unmapLoop {x : Option Int} (bs : List MappedBuffer) (hnonnull : ∀ b ∈ bs, b.address ≠ 0)
    (d : V4L2CaptureDevice) (hheld : d.kernel.held = some ⟨x, bs⟩) :
    (bs.foldl (fun d b => if b.address ≠ 0 then (d.call (.munmap b.address b.length)).2 else d)
      d).kernel.held = some ⟨x, []⟩ := by
  induction bs generalizing d with
  | nil => exact hheld
  | cons b bs ih =>
      have hb : b.address ≠ 0 := hnonnull b (by simp)
      rw [List.foldl_cons, if_pos hb]
      refine ih (fun b hb => hnonnull b (by simp [hb])) _ ?_
      change (d.kernel.call (.munmap b.address b.length)).2.held = _
      rw [Kernel.held_call, hheld]
      simp [Held.check]

/-- The loop of `unmap_buffers` touches nothing but the kernel.
Source: `v4l2_capture_device.cpp` `V4L2CaptureDevice::unmap_buffers` -/
theorem members_unmapLoop (bs : List MappedBuffer) (d : V4L2CaptureDevice) :
    (bs.foldl (fun d b => if b.address ≠ 0 then (d.call (.munmap b.address b.length)).2 else d)
      d).fd = d.fd ∧
    (bs.foldl (fun d b => if b.address ≠ 0 then (d.call (.munmap b.address b.length)).2 else d)
      d).streaming = d.streaming := by
  induction bs generalizing d with
  | nil => exact ⟨rfl, rfl⟩
  | cons b bs ih =>
      rw [List.foldl_cons]
      split_ifs
      · exact ih _
      · exact ih _

/-- Source: `v4l2_capture_device.cpp` `V4L2CaptureDevice::unmap_buffers` -/
@[simp] theorem unmapBuffers_fd : d.unmapBuffers.fd = d.fd := (members_unmapLoop d.buffers d).1

/-- Source: `v4l2_capture_device.cpp` `V4L2CaptureDevice::unmap_buffers` -/
@[simp] theorem unmapBuffers_streaming : d.unmapBuffers.streaming = d.streaming :=
  (members_unmapLoop d.buffers d).2

/-- Source: `v4l2_capture_device.cpp` `V4L2CaptureDevice::unmap_buffers` -/
@[simp] theorem unmapBuffers_buffers : d.unmapBuffers.buffers = [] := rfl

/-- Source: `v4l2_capture_device.cpp` `V4L2CaptureDevice::unmap_buffers` -/
theorem Consistent.unmapBuffers (hd : Consistent d) : Consistent d.unmapBuffers where
  held := by
    have hdesc : d.unmapBuffers.descriptor = d.descriptor := by
      simp [V4L2CaptureDevice.descriptor]
    rw [hdesc]
    exact held_unmapLoop d.buffers hd.nonnull d hd.held
  nonnull := by simp

/-- What the loop of `start_streaming` leaves: every buffer mapped, or none.
Source: `v4l2_capture_device.cpp` `V4L2CaptureDevice::start_streaming` -/
structure Mapped (d : V4L2CaptureDevice) (out : Bool × V4L2CaptureDevice) : Prop where
  consistent : Consistent out.2
  fd : out.2.fd = d.fd
  streaming : out.2.streaming = d.streaming
  buffers : out.1 = false → out.2.buffers = []

/-- Giving up in the loop. Source: `v4l2_capture_device.cpp` `V4L2CaptureDevice::start_streaming` -/
theorem Mapped.giveUp (hd : Consistent d) (hfd : 0 ≤ d.fd) (h : Uses d d') :
    Mapped d (false, d'.unmapBuffers) where
  consistent := (hd.uses hfd h).unmapBuffers
  fd := by simp [h.fd]
  streaming := by simp [h.streaming]
  buffers _ := rfl

/-- Mapping one buffer. Source: `v4l2_capture_device.cpp` `V4L2CaptureDevice::start_streaming` -/
theorem Consistent.mmap (hd : Consistent d) (hfd : 0 ≤ d.fd) {length offset : UInt32}
    {address : Address} (hmap : (d.call (.mmap d.fd length offset)).1 = some address) :
    Consistent { (d.call (.mmap d.fd length offset)).2 with
      buffers := d.buffers ++ [MappedBuffer.mk address.1 length] } where
  held := by
    change (d.kernel.call (.mmap d.fd length offset)).2.held = some ⟨d.descriptor, _⟩
    have hans : (d.kernel.call (.mmap d.fd length offset)).1 = some address := hmap
    rw [Kernel.held_call, hd.held, hans]
    simp [Held.check, V4L2CaptureDevice.descriptor, hfd]
  nonnull := by
    intro b hb
    rcases List.mem_append.mp hb with hb | hb
    · exact hd.nonnull b hb
    · rw [List.mem_singleton] at hb
      rw [hb]
      exact address.2

/-- One turn of the mapping loop.
Source: `v4l2_capture_device.cpp` `V4L2CaptureDevice::start_streaming` -/
theorem mapped_mapBuffer (hd : Consistent d) (hfd : 0 ≤ d.fd) (i : UInt32) :
    Mapped d (d.mapBuffer i) := by
  have hquery := uses_xioctl d (.queryBuf i)
  unfold V4L2CaptureDevice.mapBuffer
  split
  · next hr =>
      rw [hr] at hquery
      exact .giveUp hd hfd hquery
  · next buf d₁ hr =>
      rw [hr] at hquery
      have hd₁ : Consistent d₁ := hd.uses hfd hquery
      have hfd₁ : 0 ≤ d₁.fd := by
        rw [hquery.fd]
        exact hfd
      split
      · next d₂ hm =>
          have hfail : Uses d₁ (d₁.call (.mmap d₁.fd buf.length buf.offset)).2 := by
            refine uses_call ?_
            intro h hh
            rw [hm]
            simp [Held.check, hh]
          rw [hm] at hfail
          exact .giveUp hd hfd (hquery.trans hfail)
      · next address d₂ hm =>
          have hpushed := hd₁.mmap hfd₁ (congrArg Prod.fst hm)
          have hsame : d₂.buffers = d₁.buffers ∧ d₂.fd = d₁.fd ∧ d₂.streaming = d₁.streaming := by
            have hd₂ : d₂ = (d₁.call (.mmap d₁.fd buf.length buf.offset)).2 := by rw [hm]
            rw [hd₂]
            exact ⟨rfl, rfl, rfl⟩
          rw [hm] at hpushed
          dsimp only at hpushed ⊢
          rw [hsame.1]
          generalize hd₃ : ({ d₂ with
            buffers := d₁.buffers ++ [MappedBuffer.mk address.1 buf.length] } :
            V4L2CaptureDevice) = d₃ at hpushed ⊢
          have hfd₃ : d₃.fd = d.fd := by
            rw [← hd₃]
            exact hsame.2.1.trans hquery.fd
          have hstreaming₃ : d₃.streaming = d.streaming := by
            rw [← hd₃]
            exact hsame.2.2.trans hquery.streaming
          have hqueue := uses_xioctl d₃ (.qBuf buf.index)
          have hnonneg₃ : 0 ≤ d₃.fd := by
            rw [hfd₃]
            exact hfd
          split
          · next hr' =>
              rw [hr'] at hqueue
              have hgive := Mapped.giveUp hpushed hnonneg₃ hqueue
              exact ⟨hgive.consistent, hgive.fd.trans hfd₃, hgive.streaming.trans hstreaming₃,
                hgive.buffers⟩
          · next hr' =>
              rw [hr'] at hqueue
              exact ⟨hpushed.uses hnonneg₃ hqueue, hqueue.fd.trans hfd₃,
                hqueue.streaming.trans hstreaming₃, by simp⟩

/-- **The mapping loop** maps every buffer, or gives up and unmaps all.
Source: `v4l2_capture_device.cpp` `V4L2CaptureDevice::start_streaming` -/
theorem mapped_mapBuffers (hd : Consistent d) (hfd : 0 ≤ d.fd) (i : UInt32) (n : Nat) :
    Mapped d (d.mapBuffers i n) := by
  induction n generalizing d i with
  | zero => exact ⟨hd, rfl, rfl, by simp [V4L2CaptureDevice.mapBuffers]⟩
  | succ n ih =>
      have hone := mapped_mapBuffer hd hfd i
      unfold V4L2CaptureDevice.mapBuffers
      split
      · next hr =>
          rw [hr] at hone
          exact hone
      · next d₁ hr =>
          rw [hr] at hone
          have hrest := ih hone.consistent (by rw [hone.fd]; exact hfd) (i + 1)
          exact ⟨hrest.consistent, hrest.fd.trans hone.fd, hrest.streaming.trans hone.streaming,
            hrest.buffers⟩

/-! ## What every method does to it -/

/-- Source: `v4l2_capture_device.cpp` `V4L2CaptureDevice::open` -/
theorem Owns.openDevice {r : OpenResult} (hd : Owns .closed d) (h : d.openDevice = (r, d')) :
    Owns (if r = .opened then .opened else .closed) d' := by
  have hneg : ¬ 0 ≤ d.fd := by
    rw [hd.fd]
    simp [DeviceTypestate.isOpen]
  have hnil : d.buffers = [] := hd.buffers rfl
  have hheld := hd.consistent.held
  rw [V4L2CaptureDevice.descriptor, if_neg hneg, hnil] at hheld
  have hcall := Kernel.held_call d.kernel (.open d.devicePath)
  rw [hheld] at hcall
  unfold V4L2CaptureDevice.openDevice V4L2CaptureDevice.call at h
  dsimp only at h
  generalize d.kernel.call (.open d.devicePath) = out at hcall h
  obtain ⟨fd, kernel⟩ := out
  obtain ⟨rfl, rfl⟩ := Prod.mk.inj h
  by_cases hfd : fd < 0
  · have hfd' : ¬ 0 ≤ fd := Int.not_le.mpr hfd
    rw [if_pos hfd, if_neg (by simp)]
    refine ⟨⟨?_, ?_⟩, ?_, hd.streaming, fun _ => hnil⟩
    · simpa [Held.check, V4L2CaptureDevice.descriptor, hfd', hnil] using hcall
    · simp [hnil]
    · simp [hfd', DeviceTypestate.isOpen]
  · have hfd' : 0 ≤ fd := Int.not_lt.mp hfd
    rw [if_neg hfd, if_pos rfl]
    refine ⟨⟨?_, ?_⟩, ?_, hd.streaming, fun _ => hnil⟩
    · simpa [Held.check, V4L2CaptureDevice.descriptor, hfd', hnil] using hcall
    · simp [hnil]
    · simp [hfd', DeviceTypestate.isOpen]

/-- Source: `v4l2_capture_device.cpp` `V4L2CaptureDevice::close` -/
theorem Owns.closeDevice {s : DeviceTypestate} (hd : Owns s d) (hs : s.isStreaming = false) :
    Owns .closed d.closeDevice := by
  have hunmapped := hd.consistent.unmapBuffers
  have hstreaming : d.unmapBuffers.streaming = false := by
    rw [unmapBuffers_streaming, hd.streaming, hs]
  unfold V4L2CaptureDevice.closeDevice
  dsimp only
  generalize hu : d.unmapBuffers = u at hunmapped hstreaming ⊢
  have hnil : u.buffers = [] := by
    rw [← hu]
    rfl
  by_cases hfd : 0 ≤ u.fd
  · rw [if_pos hfd]
    have hcall := Kernel.held_call u.kernel (.close u.fd)
    rw [hunmapped.held, V4L2CaptureDevice.descriptor, if_pos hfd, hnil] at hcall
    refine ⟨⟨?_, ?_⟩, ?_, hstreaming, fun _ => hnil⟩
    · change (u.kernel.call (.close u.fd)).2.held = some ⟨_, u.buffers⟩
      rw [hcall, hnil]
      simp [Held.check, V4L2CaptureDevice.descriptor]
    · change ∀ b ∈ u.buffers, _
      simp [hnil]
    · simp [DeviceTypestate.isOpen]
  · rw [if_neg hfd]
    refine ⟨hunmapped, ?_, hstreaming, fun _ => hnil⟩
    simp [hfd, DeviceTypestate.isOpen]

/-- Calls on the open descriptor keep what the device owns. Source: none: infrastructure -/
theorem Owns.uses {s s' : DeviceTypestate} (hd : Owns s d) (hs : s.isOpen = true)
    (hopen : s'.isOpen = true) (hstreaming : s'.isStreaming = s.isStreaming) (h : Uses d d') :
    Owns s' d' where
  consistent := hd.consistent.uses (hd.fd.mpr hs) h
  fd := by
    rw [h.fd, hd.fd, hs, hopen]
  streaming := by rw [h.streaming, hd.streaming, hstreaming]
  buffers hno := by
    rw [h.buffers]
    exact hd.buffers (hstreaming ▸ hno)

/-- Source: `v4l2_capture_device.cpp` `V4L2CaptureDevice::stop_streaming` -/
theorem Owns.stopStreaming {s : DeviceTypestate} (hd : Owns s d) :
    Owns (if s.isOpen = true then .opened else .closed) d.stopStreaming := by
  unfold V4L2CaptureDevice.stopStreaming
  dsimp only
  by_cases hs : d.streaming = true
  · rw [if_pos hs]
    have hopen : s.isOpen = true := by
      have hstreaming := hd.streaming.symm.trans hs
      cases s <;> simp_all [DeviceTypestate.isOpen, DeviceTypestate.isStreaming]
    have hfd := hd.fd.mpr hopen
    have hoff := uses_xioctl d .streamOff
    have hcons : Consistent { (d.xioctl .streamOff).2 with streaming := false } := by
      have h := hd.consistent.uses hfd hoff
      exact ⟨h.held, h.nonnull⟩
    rw [if_pos hopen]
    refine ⟨hcons.unmapBuffers, ?_, ?_, fun _ => rfl⟩
    · rw [unmapBuffers_fd]
      change 0 ≤ (d.xioctl .streamOff).2.fd ↔ _
      rw [hoff.fd]
      exact iff_of_true hfd rfl
    · rw [unmapBuffers_streaming]
      rfl
  · rw [if_neg hs]
    have hfalse : d.streaming = false := by simpa using hs
    refine ⟨hd.consistent.unmapBuffers, ?_, ?_, fun _ => rfl⟩
    · rw [unmapBuffers_fd, hd.fd]
      cases s <;> simp [DeviceTypestate.isOpen]
    · rw [unmapBuffers_streaming, hfalse]
      split_ifs <;> rfl

/-- Source: `v4l2_capture_device.cpp` `V4L2CaptureDevice::start_streaming` -/
theorem Owns.startStreaming {n : UInt32} {r : StreamStartResult} (hd : Owns .known d)
    (h : d.startStreaming n = (r, d')) :
    Owns (if r = .started then .streaming else .opened) d' := by
  have hrequest := uses_xioctl d (.reqBufs n)
  unfold V4L2CaptureDevice.startStreaming at h
  split at h
  · next hr =>
      rw [hr] at hrequest
      obtain ⟨rfl, rfl⟩ := Prod.mk.inj h
      exact hd.uses rfl rfl rfl hrequest
  · next count d₁ hr =>
      rw [hr] at hrequest
      -- nothing is mapped before the loop, so clearing `buffers_` forgets nothing
      have hd₁ : Owns .known d₁ := hd.uses rfl rfl rfl hrequest
      have hclear : ({ d₁ with buffers := [] } : V4L2CaptureDevice) = d₁ := by
        have hnil := hd₁.buffers rfl
        cases d₁
        cases hnil
        rfl
      have hfd₁ : 0 ≤ d₁.fd := hd₁.fd.mpr rfl
      have hmap := mapped_mapBuffers hd₁.consistent hfd₁ 0 count.toNat
      rw [hclear] at h
      split at h
      · next d₂ hm =>
          rw [hm] at hmap
          obtain ⟨rfl, rfl⟩ := Prod.mk.inj h
          refine ⟨hmap.consistent, ?_, hmap.streaming.trans hd₁.streaming, fun _ => hmap.buffers rfl⟩
          rw [hmap.fd]
          exact iff_of_true hfd₁ rfl
      · next d₂ hm =>
          rw [hm] at hmap
          have hfd₂ : 0 ≤ d₂.fd := by
            rw [hmap.fd]
            exact hfd₁
          have hon := uses_xioctl d₂ .streamOn
          split at h
          · next d₃ hr' =>
              rw [hr'] at hon
              obtain ⟨rfl, rfl⟩ := Prod.mk.inj h
              refine ⟨(hmap.consistent.uses hfd₂ hon).unmapBuffers, ?_, ?_, fun _ => rfl⟩
              · rw [unmapBuffers_fd, hon.fd]
                exact iff_of_true hfd₂ rfl
              · rw [unmapBuffers_streaming, hon.streaming, hmap.streaming, hd₁.streaming]
                rfl
          · next d₃ hr' =>
              rw [hr'] at hon
              obtain ⟨rfl, rfl⟩ := Prod.mk.inj h
              have hcons := hmap.consistent.uses hfd₂ hon
              refine ⟨⟨hcons.held, hcons.nonnull⟩, ?_, rfl, by simp [DeviceTypestate.isStreaming]⟩
              change 0 ≤ d₃.fd ↔ _
              rw [hon.fd]
              exact iff_of_true hfd₂ rfl

/-- **Every legal call keeps what the device owns**, whatever the kernel answers.
Source: `v4l2_capture_device.cpp` `V4L2CaptureDevice` -/
theorem Owns.keeps {s s' : DeviceTypestate} {o : Observation} (hd : Owns s d)
    (hlegal : s.legal o = some s') (henv : v4l2.env d o d') : Owns s' d' := by
  obtain ⟨c, r⟩ := o
  cases c with
  | device c =>
      have hanswer : v4l2.answer d c = (r, d') := henv
      cases c with
      | openDevice =>
          cases s <;> cases r <;> simp [DeviceTypestate.legal] at hlegal <;> subst hlegal <;>
            exact hd.openDevice hanswer
      | closeDevice =>
          obtain ⟨-, rfl⟩ := Prod.mk.inj hanswer
          cases s <;> simp [DeviceTypestate.legal] at hlegal <;> subst hlegal <;>
            exact hd.closeDevice rfl
      | queryFormat =>
          have huses := uses_queryFormat d
          have hd' : d' = d.queryFormat.2 := (congrArg Prod.snd hanswer).symm
          rw [← hd'] at huses
          cases s <;> obtain ⟨r, f⟩ := r <;> cases r <;> simp [DeviceTypestate.legal] at hlegal <;>
            subst hlegal <;> exact hd.uses rfl rfl rfl huses
      | startStreaming n =>
          cases s <;> cases r <;> simp [DeviceTypestate.legal] at hlegal <;> subst hlegal <;>
            exact hd.startStreaming hanswer
      | stopStreaming =>
          obtain ⟨-, rfl⟩ := Prod.mk.inj hanswer
          have hstop := hd.stopStreaming
          cases s <;> simp [DeviceTypestate.legal] at hlegal <;> subst hlegal <;> exact hstop
      | dequeueFrame t =>
          have huses := uses_dequeueFrame t d
          have hd' : d' = (d.dequeueFrame t).2 := (congrArg Prod.snd hanswer).symm
          rw [← hd'] at huses
          cases s <;> obtain ⟨r, f⟩ := r <;> cases r <;> simp [DeviceTypestate.legal] at hlegal <;>
            subst hlegal <;> exact hd.uses rfl rfl rfl huses
      | requeueFrame i =>
          obtain ⟨-, rfl⟩ := Prod.mk.inj hanswer
          cases s <;> simp [DeviceTypestate.legal] at hlegal
          obtain ⟨-, rfl⟩ := hlegal
          exact hd.uses rfl rfl rfl (uses_xioctl d (.qBuf i))
  | steadyNow =>
      obtain rfl : d' = d := henv
      obtain rfl : s = s' := Option.some.inj hlegal
      exact hd
  | wallNow =>
      obtain rfl : d' = d := henv
      obtain rfl : s = s' := Option.some.inj hlegal
      exact hd
  | emit e =>
      obtain rfl : d' = d := henv
      obtain rfl : s = s' := Option.some.inj hlegal
      exact hd

end owns

/-! ## The daemon -/

section daemon

variable {rnd : ℚ → ℚ} {config : DaemonConfig} {now : TimePoint} {ls : List Turn}
  {m : CaptureStateMachine} {path : String} {replies : List Reply} {d d' : V4L2CaptureDevice}

/-- A device that has not been opened owns nothing.
Source: `v4l2_capture_device.cpp` `V4L2CaptureDevice::V4L2CaptureDevice` -/
theorem owns_new : Owns .closed (.new path replies) := by
  refine ⟨⟨rfl, ?_⟩, ?_, rfl, fun _ => rfl⟩
  · simp [V4L2CaptureDevice.new]
  · simp [V4L2CaptureDevice.new, DeviceTypestate.isOpen]

/-- **In every run, the device owns what the typestate of the machine says.**
Source: `capture_state_machine.cpp`, `v4l2_capture_device.cpp` -/
theorem CaptureRun.owns (h : CaptureRun rnd config now ls m)
    (hd : Follows v4l2.env (.new path replies) (exchange ls) d) : Owns m.typestate d :=
  hd.invariant_of_accepts (fun hs hlegal henv => hs.keeps hlegal henv) owns_new h.accepted

/-- **No descriptor and no mapping leaks.** Whatever the kernel answers, no call of a run breaks the
discipline of descriptors and mappings; nothing is held while the device is absent or in recovery;
`streaming_` is set while the machine streams; and after the final `stop_streaming` and `close` of the
daemon nothing is held, so everything that was opened or mapped has been closed or unmapped.
Source: `main.cpp` `main`, `capture_state_machine.cpp`, `v4l2_capture_device.cpp` -/
theorem no_leak (h : CaptureRun rnd config now ls m)
    (hd : Follows v4l2.env (.new path replies) (exchange ls) d) :
    (∃ held, d.kernel.held = some held ∧
      (m.state = .deviceAbsent ∨ m.recovering = true → held = {})) ∧
    (m.state = .streaming → d.streaming = true) ∧
    ∀ d', Follows v4l2.env d [Observation.stopped, Observation.closed] d' →
      d'.kernel.held = some {} := by
  have howns := h.owns hd
  have hm := CaptureRun.resting h
  have hempty : ∀ {d}, Owns .closed d → d.kernel.held = some {} := by
    intro d howns
    have hneg : ¬ 0 ≤ d.fd := by
      rw [howns.fd]
      simp [DeviceTypestate.isOpen]
    rw [howns.consistent.held, V4L2CaptureDevice.descriptor, if_neg hneg, howns.buffers rfl]
  refine ⟨⟨_, howns.consistent.held, ?_⟩, ?_, ?_⟩
  · intro hs
    have hclosed : m.typestate = .closed := by
      unfold CaptureStateMachine.typestate
      rcases hs with hs | hr
      · rw [hs]
      · rw [hm.recovers hr, hr]
    rw [hclosed] at howns
    have hheld := hempty howns
    rw [howns.consistent.held] at hheld
    exact Option.some.inj hheld
  · intro hs
    rw [howns.streaming]
    simp [CaptureStateMachine.typestate, hs, DeviceTypestate.isStreaming]
  · intro d' hend
    refine hempty (hend.invariant_of_accepts (fun hs hlegal henv => hs.keeps hlegal henv) howns ?_)
    unfold CaptureStateMachine.typestate
    rcases hm.state with hs | hs | hs
    · rw [hs]
      rfl
    · rw [hs]
      cases m.recovering <;> rfl
    · rw [hs]
      rfl

end daemon

/-! ## A cold start on a kernel that grants everything -/

section obliging

/-- A reply that grants whatever is asked for. Source: none: infrastructure -/
def obliging : Reply
  | .open _ => 3
  | .close _ => ()
  | .ioctl _ .gFmt => .ok { width := 640, height := 480, pixelformat := 1, sizeimage := 614400 }
  | .ioctl _ (.enumFmt _) => .ok { pixelformat := 1, flags := 1 }
  | .ioctl _ (.reqBufs _) => .ok 1
  | .ioctl _ (.queryBuf i) => .ok { index := i, length := 614400 }
  | .ioctl _ (.qBuf _) => .ok ()
  | .ioctl _ .dqBuf => .ok {}
  | .ioctl _ .streamOn => .ok ()
  | .ioctl _ .streamOff => .ok ()
  | .mmap _ _ _ => some ⟨4096, by decide⟩
  | .munmap _ _ => ()
  | .poll _ _ => .timeout
  | .steadyNow => 0

/-- The format it grants. Source: none: infrastructure -/
def obligingFormat : StreamFormat :=
  { width := 640, height := 480, pixelFormatFourcc := 1, sizeImage := 614400, compressed := true }

/-- The device with its descriptor open. Source: none: infrastructure -/
def obligingOpened : V4L2CaptureDevice :=
  (V4L2CaptureDevice.new "/dev/video0" (List.replicate 8 obliging)).openDevice.2

/-- The device with its format queried. Source: none: infrastructure -/
def obligingQueried : V4L2CaptureDevice :=
  ((obligingOpened.xioctl .gFmt).2.xioctl (.enumFmt 0)).2

/-- The device with its stream started. Source: none: infrastructure -/
def obligingStarted : V4L2CaptureDevice := (obligingQueried.startStreaming 4).2

/-- The query goes through both requests. Source: none: infrastructure -/
theorem obliging_queryFormat :
    obligingOpened.queryFormat = ((.known, obligingFormat), obligingQueried) := by
  have hcompressed : (obligingOpened.xioctl .gFmt).2.queryCompressedFrom 1 0 =
      (true, obligingQueried) := by
    rw [V4L2CaptureDevice.queryCompressedFrom]
    rfl
  change (fun q : Bool × V4L2CaptureDevice => ((FormatResult.known, StreamFormat.mk 640 480 1 614400 0
    q.1), q.2)) ((obligingOpened.xioctl .gFmt).2.queryCompressedFrom 1 0) = _
  rw [hcompressed]
  rfl

/-- The device follows a cold start. Source: none: infrastructure -/
theorem obliging_follows :
    Follows v4l2.env (.new "/dev/video0" (List.replicate 8 obliging))
      (exchange (coldStart id {} 0 obligingFormat)) obligingStarted := by
  have hstart : (obligingQueried.startStreaming 4) = (.started, obligingStarted) := rfl
  refine .cons (t := V4L2CaptureDevice.new "/dev/video0" (List.replicate 8 obliging)) rfl ?_
  refine .cons (t := obligingOpened) rfl (.cons (t := obligingOpened) rfl ?_)
  refine .cons (t := obligingOpened) rfl (.cons (t := obligingOpened) rfl ?_)
  refine .cons (t := obligingQueried) obliging_queryFormat ?_
  refine .cons (t := obligingStarted) hstart (.cons (t := obligingStarted) rfl ?_)
  exact .cons (t := obligingStarted) rfl (.nil _)

/-- A cold start leaks nothing. Source: none: infrastructure -/
theorem no_leak_coldStart :
    (∃ held, obligingStarted.kernel.held = some held ∧
      ((coldStarted id {} 0 obligingFormat).state = .deviceAbsent ∨
        (coldStarted id {} 0 obligingFormat).recovering = true → held = {})) ∧
    ((coldStarted id {} 0 obligingFormat).state = .streaming → obligingStarted.streaming = true) ∧
    ∀ d', Follows v4l2.env obligingStarted [Observation.stopped, Observation.closed] d' →
      d'.kernel.held = some {} :=
  no_leak (coldStart_run id {} 0 obligingFormat) obliging_follows

end obliging

end Hamstercam
