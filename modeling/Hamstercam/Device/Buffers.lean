import Mathlib.Data.List.Nodup
import Hamstercam.Device.Leaks
import Hamstercam.Lib.Contract

/-!
# Every buffer goes back to the driver

* `BufferQueue` — the buffers of the device as the driver sees them, moved by the calls of the log.
  `bufferContract` is what either side promises of a call: the driver dequeues a buffer that it has; the
  device returns one that the driver does not have, and starts the stream with all of them queued.
* `Between I d d' J` — what the device does from `d` to `d'` takes the buffers from `I` to `J`, within the
  contract. One lemma for each method says where it takes them.
* `DeviceUse.legal` — the protocol of `ICaptureDevice`, and that a device that has been stopped is closed
  next. The machine keeps to it as well.
* `buffers_return` — in every run of the daemon the device keeps its part of the contract, and while it
  streams every buffer is with the driver, but for those whose return has failed.
-/

namespace Hamstercam

open Interaction Contracts CaptureStateMachine

/-! ## The buffers, as the driver sees them -/

/-- Source: `v4l2_capture_device.cpp` (`VIDIOC_REQBUFS`, `VIDIOC_QBUF`, `VIDIOC_DQBUF`,
`VIDIOC_STREAMON`, `VIDIOC_STREAMOFF`) -/
structure BufferQueue where
  /-- How many buffers there are. -/
  count : UInt32 := 0
  /-- Those the driver has. -/
  queued : List UInt32 := []
  /-- Those whose return has failed. -/
  failed : List UInt32 := []
  /-- Whether the stream is on. -/
  streaming : Bool := false
  deriving DecidableEq

namespace BufferQueue

/-- The numbers of all buffers. Source: `v4l2_capture_device.cpp` `V4L2CaptureDevice::start_streaming` -/
def all (q : BufferQueue) : List UInt32 := (List.range q.count.toNat).map UInt32.ofNat

/-- What a call does to the buffers. One that fails does nothing, but for a buffer that is not returned.
Source: `v4l2_capture_device.cpp` -/
def next (q : BufferQueue) : Obs KernelCall.Answer → BufferQueue
  | ⟨.ioctl _ (.reqBufs _), .ok count⟩ => { count := count }
  | ⟨.ioctl _ (.qBuf i), .ok _⟩ => { q with queued := q.queued ++ [i] }
  | ⟨.ioctl _ (.qBuf i), .error e⟩ => if e = .eintr then q else { q with failed := q.failed ++ [i] }
  | ⟨.ioctl _ .dqBuf, .ok buf⟩ => { q with queued := q.queued.erase buf.index }
  | ⟨.ioctl _ .streamOn, .ok _⟩ => { q with streaming := true }
  | ⟨.ioctl _ .streamOff, .ok _⟩ => { q with queued := [], streaming := false }
  | ⟨.close _, _⟩ => {}
  | _ => q

/-- What the driver promises: it reports on the buffer it is asked about, and gives out one that it has.
Source: `v4l2_capture_device.cpp` (`VIDIOC_QUERYBUF`, `VIDIOC_DQBUF`) -/
def DriverPromise (q : BufferQueue) : Obs KernelCall.Answer → Prop
  | ⟨.ioctl _ (.queryBuf i), .ok buf⟩ => buf.index = i
  | ⟨.ioctl _ .dqBuf, .ok buf⟩ => buf.index ∈ q.queued
  | _ => True

/-- What the device promises: it requests buffers while the stream is off, returns a buffer of the device
that the driver does not have, and turns the stream on with all of them in order; it dequeues, and turns the
stream off, while it is on. Source: `v4l2_capture_device.cpp` -/
def DevicePromise (q : BufferQueue) : KernelCall → Prop
  | .ioctl _ (.reqBufs _) => q.streaming = false
  | .ioctl _ (.qBuf i) => i ∈ q.all ∧ i ∉ q.queued
  | .ioctl _ .streamOn => q.streaming = false ∧ q.queued = q.all
  | .ioctl _ .dqBuf => q.streaming = true
  | .ioctl _ .streamOff => q.streaming = true
  | _ => True

/-- The stream is on, and every buffer is with the driver, but for those of `held` and those whose return
has failed. Source: `v4l2_capture_device.cpp` -/
def Streams (held : List UInt32) (q : BufferQueue) : Prop :=
  q.streaming = true ∧ (held ++ q.queued ++ q.failed).Perm q.all

/-- The mapping loop has done the first `i` of `count` buffers.
Source: `v4l2_capture_device.cpp` `V4L2CaptureDevice::start_streaming` -/
def Starts (count : UInt32) (i : Nat) (q : BufferQueue) : Prop :=
  q = { count := count, queued := (List.range i).map UInt32.ofNat }

variable {q : BufferQueue} {i : UInt32}

/-- An interrupted call does nothing. Source: `v4l2_capture_device.cpp` `xioctl` -/
theorem next_eintr (q : BufferQueue) (fd : Int) (request : Request) :
    q.next ⟨.ioctl fd request, .error .eintr⟩ = q := by
  cases request <;> rfl

/-- Source: none: infrastructure -/
theorem nodup_numbers {n : Nat} (hn : n < 2 ^ 32) : ((List.range n).map UInt32.ofNat).Nodup := by
  refine List.Nodup.map_on ?_ List.nodup_range
  intro i hi j hj h
  rw [List.mem_range] at hi hj
  have hnat := congrArg UInt32.toNat h
  rwa [UInt32.toNat_ofNat_of_lt' (hi.trans hn), UInt32.toNat_ofNat_of_lt' (hj.trans hn)] at hnat

/-- Source: none: infrastructure -/
theorem nodup_all (q : BufferQueue) : q.all.Nodup := nodup_numbers q.count.toNat_lt

/-- The next buffer of the mapping loop is one of the device's, and the driver does not have it.
Source: `v4l2_capture_device.cpp` `V4L2CaptureDevice::start_streaming` -/
theorem Starts.fresh {count : UInt32} {k : Nat} (h : Starts count k q) (hk : k < count.toNat) :
    UInt32.ofNat k ∈ q.all ∧ UInt32.ofNat k ∉ q.queued := by
  rw [h]
  refine ⟨List.mem_map.mpr ⟨k, List.mem_range.mpr hk, rfl⟩, fun hmem => ?_⟩
  have hnodup := nodup_numbers (Nat.lt_of_le_of_lt hk count.toNat_lt)
  rw [List.range_succ, List.map_append, List.map_singleton, ← List.concat_eq_append,
    List.nodup_concat] at hnodup
  exact hnodup.1 hmem

/-- Taking a buffer. Source: `v4l2_capture_device.cpp` `V4L2CaptureDevice::dequeue_frame` -/
theorem Streams.take (h : q.Streams []) (hi : i ∈ q.queued) :
    Streams [i] { q with queued := q.queued.erase i } := by
  refine ⟨h.1, List.Perm.trans ?_ h.2⟩
  show (i :: (q.queued.erase i ++ q.failed)).Perm ([] ++ q.queued ++ q.failed)
  exact (List.perm_cons_erase hi).symm.append_right q.failed

/-- A buffer that is held is one of the device's, and the driver does not have it.
Source: `v4l2_capture_device.cpp` `V4L2CaptureDevice::requeue_frame` -/
theorem Streams.held (h : q.Streams [i]) : i ∈ q.all ∧ i ∉ q.queued := by
  have hnodup := h.2.nodup_iff.mpr q.nodup_all
  refine ⟨h.2.mem_iff.mp (by simp), fun hi => ?_⟩
  rw [List.append_assoc, List.singleton_append, List.nodup_cons] at hnodup
  exact hnodup.1 (List.mem_append_left _ hi)

/-- Returning a buffer. Source: `v4l2_capture_device.cpp` `V4L2CaptureDevice::requeue_frame` -/
theorem Streams.give (h : q.Streams [i]) : Streams [] { q with queued := q.queued ++ [i] } := by
  refine ⟨h.1, List.Perm.trans ?_ h.2⟩
  show (q.queued ++ [i] ++ q.failed).Perm ([i] ++ q.queued ++ q.failed)
  exact List.perm_append_comm.append_right q.failed

/-- A return that fails. Source: `v4l2_capture_device.cpp` `V4L2CaptureDevice::requeue_frame` -/
theorem Streams.fail (h : q.Streams [i]) : Streams [] { q with failed := q.failed ++ [i] } := by
  refine ⟨h.1, List.Perm.trans ?_ h.2⟩
  show (q.queued ++ (q.failed ++ [i])).Perm ([i] ++ q.queued ++ q.failed)
  rw [← List.append_assoc, List.append_assoc [i]]
  exact List.perm_append_comm

end BufferQueue

open BufferQueue

/-- The contract of the driver and the device about the buffers. Source: `v4l2_capture_device.cpp` -/
def bufferContract : Contract BufferQueue (Obs KernelCall.Answer) where
  next := BufferQueue.next
  relies := DriverPromise
  guarantees q o := q.DevicePromise o.1

/-! ## What a method does to them -/

/-- From `d` to `d'` the device takes the buffers from `I` to `J`, within the contract.
Source: `v4l2_capture_device.cpp` -/
def Between (I : BufferQueue → Prop) (d d' : V4L2CaptureDevice) (J : BufferQueue → Prop) : Prop :=
  ∃ tr, d'.kernel.log = d.kernel.log ++ tr ∧ bufferContract.Triple I tr J

section between

variable {I J K : BufferQueue → Prop} {d d' d'' : V4L2CaptureDevice} {i : UInt32} {n : Nat}

/-- Source: none: infrastructure -/
theorem Between.same (h : d'.kernel.log = d.kernel.log) : Between I d d' I :=
  ⟨[], by rw [h, List.append_nil], Contract.triple_nil I⟩

/-- Source: none: infrastructure -/
theorem Between.trans (h : Between I d d' J) (h' : Between J d' d'' K) : Between I d d'' K := by
  obtain ⟨tr, hlog, htr⟩ := h
  obtain ⟨tr', hlog', htr'⟩ := h'
  exact ⟨tr ++ tr', by rw [hlog', hlog, List.append_assoc], htr.append htr'⟩

/-- Source: none: infrastructure -/
theorem Between.weaken (h : Between I d d' J) (hJ : ∀ q, J q → K q) : Between I d d' K := by
  obtain ⟨tr, hlog, htr⟩ := h
  exact ⟨tr, hlog, htr.weaken hJ⟩

/-- Source: none: infrastructure -/
theorem Between.strengthen (h : Between J d d' K) (hI : ∀ q, I q → J q) : Between I d d' K := by
  obtain ⟨tr, hlog, htr⟩ := h
  exact ⟨tr, hlog, htr.strengthen hI⟩

/-- One call. Source: `v4l2_capture_device.cpp` -/
theorem between_call {c : KernelCall} (hg : ∀ q, I q → q.DevicePromise c)
    (hnext : ∀ q, I q → q.DriverPromise ⟨c, (d.call c).1⟩ → J (q.next ⟨c, (d.call c).1⟩)) :
    Between I d (d.call c).2 J :=
  ⟨_, Kernel.call_log d.kernel c, Contract.triple_one hg hnext⟩

/-- The log of `xioctl`: the request, interrupted some times, and then once more.
Source: `v4l2_capture_device.cpp` `xioctl` -/
theorem ioctlLoop_log {fd : Int} {request : Request} {log : List (Obs KernelCall.Answer)}
    (replies : List Reply) : ∃ k,
    (V4L2CaptureDevice.ioctlLoop fd request log replies).2.log =
      log ++ (List.replicate k ⟨.ioctl fd request, .error .eintr⟩ ++
        [⟨.ioctl fd request, (V4L2CaptureDevice.ioctlLoop fd request log replies).1⟩]) := by
  induction replies generalizing log with
  | nil => exact ⟨0, Kernel.call_log _ _⟩
  | cons reply replies ih =>
      unfold V4L2CaptureDevice.ioctlLoop
      split
      · obtain ⟨k, hk⟩ := @ih (log ++ [⟨.ioctl fd request, .error .eintr⟩])
        refine ⟨k + 1, ?_⟩
        rw [hk, List.append_assoc]
        rfl
      · exact ⟨0, rfl⟩

/-- A request. Source: `v4l2_capture_device.cpp` `xioctl` -/
theorem between_xioctl {request : Request} (hg : ∀ q, I q → q.DevicePromise (.ioctl d.fd request))
    (hnext : ∀ q, I q → q.DriverPromise ⟨.ioctl d.fd request, (d.xioctl request).1⟩ →
      J (q.next ⟨.ioctl d.fd request, (d.xioctl request).1⟩)) :
    Between I d (d.xioctl request).2 J := by
  obtain ⟨k, hk⟩ := @ioctlLoop_log d.fd request d.kernel.log d.kernel.replies
  have hstutter : bufferContract.Triple I
      (List.replicate k ⟨.ioctl d.fd request, .error .eintr⟩) I := by
    refine Contract.triple_stutter fun o ho q hq => ?_
    rw [List.eq_of_mem_replicate ho]
    exact ⟨hg q hq, next_eintr q d.fd request⟩
  exact ⟨_, hk, hstutter.append (Contract.triple_one hg hnext)⟩

/-- A request that is none of the buffers' business. Source: `v4l2_capture_device.cpp` `xioctl` -/
theorem between_query {request : Request}
    (hg : ∀ q, I q → q.DevicePromise (.ioctl d.fd request))
    (hnext : ∀ q : BufferQueue, q.next ⟨.ioctl d.fd request, (d.xioctl request).1⟩ = q) :
    Between I d (d.xioctl request).2 I := by
  refine between_xioctl hg fun q hq _ => ?_
  rw [hnext]
  exact hq

/-- Source: `v4l2_capture_device.cpp` `V4L2CaptureDevice::unmap_buffers` -/
theorem between_unmapBuffers (I : BufferQueue → Prop) (d : V4L2CaptureDevice) :
    Between I d d.unmapBuffers I := by
  have hloop : ∀ bs : List MappedBuffer, Between I d (bs.foldl (fun d b =>
      if b.address ≠ 0 then (d.call (.munmap b.address b.length)).2 else d) d) I := by
    intro bs
    induction bs using List.reverseRecOn with
    | nil => exact .same rfl
    | append_singleton bs b ih =>
        rw [List.foldl_append, List.foldl_cons, List.foldl_nil]
        split_ifs
        · exact ih.trans (between_call (fun _ _ => trivial) fun _ hq _ => hq)
        · exact ih
  exact (hloop d.buffers).trans (.same rfl)

/-- Source: `v4l2_capture_device.cpp` `V4L2CaptureDevice::query_compressed` -/
theorem between_queryCompressedFrom (I : BufferQueue → Prop) (d : V4L2CaptureDevice)
    (fourcc index : UInt32) : Between I d (d.queryCompressedFrom fourcc index).2 I := by
  have hone : ∀ (d : V4L2CaptureDevice) (index : UInt32), Between I d (d.xioctl (.enumFmt index)).2 I := by
    intro d index
    exact between_query (fun _ _ => trivial) fun _ => by cases (d.xioctl (.enumFmt index)).1 <;> rfl
  fun_induction V4L2CaptureDevice.queryCompressedFrom d fourcc index with
  | case1 d index _ hr => exact hone d index
  | case2 d index desc hr hf => exact hone d index
  | case3 d index desc hr hf ih => exact (hone d index).trans ih

/-- Source: `v4l2_capture_device.cpp` `V4L2CaptureDevice::query_format` -/
theorem between_queryFormat (I : BufferQueue → Prop) (d : V4L2CaptureDevice) :
    Between I d d.queryFormat.2 I := by
  have hquery : Between I d (d.xioctl .gFmt).2 I :=
    between_query (fun _ _ => trivial) fun _ => by cases (d.xioctl .gFmt).1 <;> rfl
  unfold V4L2CaptureDevice.queryFormat
  split
  · next hr =>
      rw [hr] at hquery
      exact hquery
  · next pix d₁ hr =>
      rw [hr] at hquery
      exact hquery.trans (between_queryCompressedFrom I d₁ _ 0)

/-- Source: `v4l2_capture_device.cpp` `xioctl` -/
theorem xioctl_ne_eintr (d : V4L2CaptureDevice) (request : Request) :
    (d.xioctl request).1 ≠ .error .eintr := by
  have hloop : ∀ (replies : List Reply) (log : List (Obs KernelCall.Answer)),
      (V4L2CaptureDevice.ioctlLoop d.fd request log replies).1 ≠ .error .eintr := by
    intro replies
    induction replies with
    | nil => exact fun log h => by cases h
    | cons reply replies ih =>
        intro log
        unfold V4L2CaptureDevice.ioctlLoop
        split
        · exact ih _
        · next hr => exact hr
  exact hloop d.kernel.replies d.kernel.log

/-- One turn of the mapping loop. Source: `v4l2_capture_device.cpp`
`V4L2CaptureDevice::start_streaming` -/
theorem between_mapBuffer {count : UInt32} {k : Nat} (hk : k < count.toNat) {ok : Bool}
    (h : d.mapBuffer (UInt32.ofNat k) = (ok, d')) :
    Between (Starts count k) d d' (if ok then Starts count (k + 1) else (·.streaming = false)) := by
  have hoff : ∀ q, Starts count k q → q.streaming = false := by
    rintro q rfl
    rfl
  have hquery : Between (Starts count k) d (d.xioctl (.queryBuf (UInt32.ofNat k))).2 fun q =>
      Starts count k q ∧
        ∀ buf, (d.xioctl (.queryBuf (UInt32.ofNat k))).1 = .ok buf → buf.index = UInt32.ofNat k := by
    refine between_xioctl (fun _ _ => trivial) fun q hq hpromise => ?_
    cases hr : (d.xioctl (.queryBuf (UInt32.ofNat k))).1 with
    | error e => exact ⟨hq, nofun⟩
    | ok buf =>
        rw [hr] at hpromise
        refine ⟨hq, ?_⟩
        rintro _ ⟨⟩
        exact hpromise
  unfold V4L2CaptureDevice.mapBuffer at h
  split at h
  · next e d₁ hr =>
      obtain ⟨rfl, rfl⟩ := Prod.mk.inj h
      rw [hr] at hquery
      exact (hquery.weaken fun q hq => hoff q hq.1).trans (between_unmapBuffers _ _)
  · next buf d₁ hr =>
      rw [hr] at hquery
      have hindex : Between (Starts count k) d d₁ fun q => Starts count k q ∧ buf.index = UInt32.ofNat k :=
        hquery.weaken fun q hq => ⟨hq.1, hq.2 buf rfl⟩
      have hmap : Between (fun q => Starts count k q ∧ buf.index = UInt32.ofNat k) d₁
          (d₁.call (.mmap d₁.fd buf.length buf.offset)).2
          fun q => Starts count k q ∧ buf.index = UInt32.ofNat k :=
        between_call (fun _ _ => trivial) fun _ hq _ => hq
      split at h
      · next d₂ hm =>
          obtain ⟨rfl, rfl⟩ := Prod.mk.inj h
          rw [hm] at hmap
          exact ((hindex.trans hmap).weaken fun q hq => hoff q hq.1).trans (between_unmapBuffers _ _)
      · next address d₂ hm =>
          rw [hm] at hmap
          dsimp only at h
          generalize hd₃ : ({ d₂ with buffers := d₂.buffers ++ [MappedBuffer.mk address.1 buf.length] } :
            V4L2CaptureDevice) = d₃ at h
          have hmapped : Between (Starts count k) d d₃
              fun q => Starts count k q ∧ buf.index = UInt32.ofNat k := by
            refine (hindex.trans hmap).trans (.same ?_)
            rw [← hd₃]
          have hqueue : Between (fun q => Starts count k q ∧ buf.index = UInt32.ofNat k) d₃
              (d₃.xioctl (.qBuf buf.index)).2
              (if (d₃.xioctl (.qBuf buf.index)).1 = .ok () then Starts count (k + 1)
                else (·.streaming = false)) := by
            refine between_xioctl ?_ ?_
            · rintro q ⟨hq, hi⟩
              rw [hi]
              exact hq.fresh hk
            · rintro q ⟨rfl, hi⟩ -
              cases hr' : (d₃.xioctl (.qBuf buf.index)).1 with
              | error e =>
                  rw [if_neg nofun]
                  simp only [BufferQueue.next]
                  split_ifs <;> rfl
              | ok u =>
                  rw [if_pos rfl]
                  simp [BufferQueue.next, Starts, hi, List.range_succ]
          split at h
          · next e d₄ hr' =>
              obtain ⟨rfl, rfl⟩ := Prod.mk.inj h
              rw [hr', if_neg nofun] at hqueue
              exact (hmapped.trans hqueue).trans (between_unmapBuffers _ _)
          · next u d₄ hr' =>
              obtain ⟨rfl, rfl⟩ := Prod.mk.inj h
              rw [hr', if_pos rfl] at hqueue
              exact hmapped.trans hqueue

/-- **The mapping loop** queues every buffer, or gives up before the stream is on.
Source: `v4l2_capture_device.cpp` `V4L2CaptureDevice::start_streaming` -/
theorem between_mapBuffers {count : UInt32} {ok : Bool} (n : Nat) {k : Nat}
    (hk : k + n = count.toNat) (h : d.mapBuffers (UInt32.ofNat k) n = (ok, d')) :
    Between (Starts count k) d d' (if ok then Starts count count.toNat else (·.streaming = false)) := by
  induction n generalizing d k with
  | zero =>
      obtain ⟨rfl, rfl⟩ := Prod.mk.inj h
      rw [if_pos rfl, ← hk]
      exact .same rfl
  | succ n ih =>
      unfold V4L2CaptureDevice.mapBuffers at h
      split at h
      · next d₁ hr =>
          obtain ⟨rfl, rfl⟩ := Prod.mk.inj h
          exact between_mapBuffer (by omega) hr
      · next d₁ hr =>
          have hone : Between (Starts count k) d d₁ _ := between_mapBuffer (by omega) hr
          have hnext : UInt32.ofNat k + 1 = UInt32.ofNat (k + 1) := by
            rw [UInt32.ofNat_add]
            rfl
          rw [hnext] at h
          exact hone.trans (ih (by omega) h)

/-- **Starting the stream.** Source: `v4l2_capture_device.cpp` `V4L2CaptureDevice::start_streaming` -/
theorem between_startStreaming {n : UInt32} {r : StreamStartResult} (h : d.startStreaming n = (r, d')) :
    Between (·.streaming = false) d d' (if r = .started then Streams [] else (·.streaming = false)) := by
  have hrequest : Between (·.streaming = false) d (d.xioctl (.reqBufs n)).2 fun q =>
      q.streaming = false ∧ ∀ count, (d.xioctl (.reqBufs n)).1 = .ok count → Starts count 0 q := by
    refine between_xioctl (fun _ hq => hq) fun q hq _ => ?_
    cases hr : (d.xioctl (.reqBufs n)).1 with
    | error e => exact ⟨hq, nofun⟩
    | ok count =>
        refine ⟨rfl, ?_⟩
        rintro _ ⟨⟩
        rfl
  unfold V4L2CaptureDevice.startStreaming at h
  split at h
  · next e d₁ hr =>
      obtain ⟨rfl, rfl⟩ := Prod.mk.inj h
      rw [hr] at hrequest
      exact hrequest.weaken fun q hq => hq.1
  · next count d₁ hr =>
      rw [hr] at hrequest
      have hcleared : Between (·.streaming = false) d { d₁ with buffers := [] } (Starts count 0) :=
        (hrequest.weaken fun q hq => hq.2 count rfl).trans (.same rfl)
      split at h
      · next d₂ hm =>
          obtain ⟨rfl, rfl⟩ := Prod.mk.inj h
          exact hcleared.trans (between_mapBuffers count.toNat (Nat.zero_add _) hm)
      · next d₂ hm =>
          have hmapped := hcleared.trans (between_mapBuffers count.toNat (Nat.zero_add _) hm)
          rw [if_pos rfl] at hmapped
          have hon : Between (Starts count count.toNat) d₂ (d₂.xioctl .streamOn).2
              (if (d₂.xioctl .streamOn).1 = .ok () then Streams [] else (·.streaming = false)) := by
            refine between_xioctl ?_ ?_
            · rintro q rfl
              exact ⟨rfl, rfl⟩
            · rintro q rfl -
              cases (d₂.xioctl .streamOn).1 with
              | error e =>
                  rw [if_neg nofun]
                  rfl
              | ok u =>
                  rw [if_pos rfl]
                  refine ⟨rfl, ?_⟩
                  show ([] ++ _ ++ []).Perm _
                  rw [List.nil_append, List.append_nil]
                  exact .refl _
          split at h
          · next e d₃ hr' =>
              obtain ⟨rfl, rfl⟩ := Prod.mk.inj h
              rw [hr', if_neg nofun] at hon
              exact (hmapped.trans hon).trans (between_unmapBuffers _ _)
          · next u d₃ hr' =>
              obtain ⟨rfl, rfl⟩ := Prod.mk.inj h
              rw [hr', if_pos rfl] at hon
              exact (hmapped.trans hon).trans (.same rfl)

/-- **Taking a frame.** Source: `v4l2_capture_device.cpp` `V4L2CaptureDevice::dequeue_frame` -/
theorem between_dequeueFrame {t : Millis} {r : DequeueResult} {f : FrameDescriptor}
    (h : d.dequeueFrame t = ((r, f), d')) :
    Between (Streams []) d d' (if r = .frame then Streams [f.bufferIndex] else Streams []) := by
  have hpoll : Between (Streams []) d (d.call (.poll d.fd t)).2 (Streams []) :=
    between_call (fun _ _ => trivial) fun _ hq _ => hq
  unfold V4L2CaptureDevice.dequeueFrame at h
  split at h
  · next d₁ hr =>
      obtain ⟨⟨rfl, rfl⟩, rfl⟩ := And.imp_left Prod.mk.inj (Prod.mk.inj h)
      rw [hr] at hpoll
      exact hpoll
  · next e d₁ hr =>
      obtain ⟨⟨rfl, rfl⟩, rfl⟩ := And.imp_left Prod.mk.inj (Prod.mk.inj h)
      rw [hr] at hpoll
      split_ifs <;> first | exact hpoll | simp_all
  · next revents d₁ hr =>
      rw [hr] at hpoll
      have hdequeue : Between (Streams []) d₁ (d₁.xioctl .dqBuf).2 fun q =>
          match (d₁.xioctl .dqBuf).1 with
          | .error _ => q.Streams []
          | .ok buf => q.Streams [buf.index] := by
        refine between_xioctl (fun q hq => hq.1) fun q hq hpromise => ?_
        cases hr' : (d₁.xioctl .dqBuf).1 with
        | error e => exact hq
        | ok buf =>
            rw [hr'] at hpromise
            exact hq.take hpromise
      split at h
      · obtain ⟨⟨rfl, rfl⟩, rfl⟩ := And.imp_left Prod.mk.inj (Prod.mk.inj h)
        exact hpoll
      · split at h
        · next e d₂ hr' =>
            rw [hr'] at hdequeue
            have hfailed : Between (Streams []) d d₂ (Streams []) := hpoll.trans hdequeue
            split_ifs at h
            all_goals
              obtain ⟨⟨rfl, rfl⟩, rfl⟩ := And.imp_left Prod.mk.inj (Prod.mk.inj h)
              exact hfailed
        · next buf d₂ hr' =>
            rw [hr'] at hdequeue
            obtain ⟨⟨rfl, rfl⟩, rfl⟩ := And.imp_left Prod.mk.inj (Prod.mk.inj h)
            have hnow : Between (Streams [buf.index]) d₂ (d₂.call .steadyNow).2 (Streams [buf.index]) :=
              between_call (fun _ _ => trivial) fun _ hq _ => hq
            exact (hpoll.trans hdequeue).trans hnow

/-- **Returning a frame.** Source: `v4l2_capture_device.cpp` `V4L2CaptureDevice::requeue_frame` -/
theorem between_requeueFrame (i : UInt32) (d : V4L2CaptureDevice) :
    Between (Streams [i]) d (d.requeueFrame i) (Streams []) := by
  refine between_xioctl (fun q hq => hq.held) fun q hq _ => ?_
  have hne := xioctl_ne_eintr d (.qBuf i)
  cases hr : (d.xioctl (.qBuf i)).1 with
  | error e =>
      have he : e ≠ .eintr := fun he => hne (by rw [hr, he])
      rw [BufferQueue.next, if_neg he]
      exact hq.fail
  | ok u => exact hq.give

/-- Source: `v4l2_capture_device.cpp` `V4L2CaptureDevice::stop_streaming` -/
theorem between_stopStreaming (hI : d.streaming = true → ∀ q, I q → q.streaming = true) :
    Between I d d.stopStreaming (if d.streaming = true then fun _ => True else I) := by
  unfold V4L2CaptureDevice.stopStreaming
  dsimp only
  by_cases hs : d.streaming = true
  · rw [if_pos hs, if_pos hs]
    have hoff : Between I d (d.xioctl .streamOff).2 fun _ => True :=
      between_xioctl (hI hs) fun _ _ _ => trivial
    exact (hoff.trans (.same rfl)).trans (between_unmapBuffers _ _)
  · rw [if_neg hs, if_neg hs]
    exact between_unmapBuffers _ _

/-- Closing frees the buffers. Source: `v4l2_capture_device.cpp` `V4L2CaptureDevice::close` -/
theorem between_closeDevice (I : BufferQueue → Prop) (d : V4L2CaptureDevice) :
    Between I d d.closeDevice (if 0 ≤ d.fd then (· = {}) else I) := by
  have hunmap := between_unmapBuffers I d
  unfold V4L2CaptureDevice.closeDevice
  dsimp only
  by_cases hfd : 0 ≤ d.fd
  · rw [unmapBuffers_fd, if_pos hfd, if_pos hfd]
    have hclose : Between I d.unmapBuffers (d.unmapBuffers.call (.close d.fd)).2 (· = {}) :=
      between_call (fun _ _ => trivial) fun _ _ _ => rfl
    exact (hunmap.trans hclose).trans (.same rfl)
  · rw [unmapBuffers_fd, if_neg hfd, if_neg hfd]
    exact hunmap

end between

/-! ## A device that was stopped is closed next -/

/-- The typestate of a device, and whether its stream has been stopped since it was opened.
Source: `capture_device.hpp` `ICaptureDevice` -/
structure DeviceUse where
  typestate : DeviceTypestate := .closed
  stopped : Bool := false

/-- The protocol of `ICaptureDevice`, and that a device whose stream has been stopped is closed next: its
driver may not have turned the stream off.
Source: `capture_device.hpp` `ICaptureDevice`, `capture_state_machine.cpp` -/
def DeviceUse.legal (s : DeviceUse) : Observation → Option DeviceUse
  | .closed => (s.typestate.legal .closed).map (⟨·, false⟩)
  | .stopped =>
      if s.stopped then none
      else (s.typestate.legal .stopped).map (⟨·, s.typestate.isStreaming⟩)
  | o => if s.stopped then none else (s.typestate.legal o).map (⟨·, false⟩)

section protocol

variable {rnd : ℚ → ℚ} {config : DaemonConfig} {now : TimePoint} {ls : List Turn}
  {m m' : CaptureStateMachine} {t : Millis} {tr : List Observation} {out : StepOutcome}

/-- Source: none: infrastructure -/
theorem DeviceUse.legal_emitted (s : DeviceTypestate) (es : List Event) :
    (es.map Observation.emitted).foldlM DeviceUse.legal ⟨s, false⟩ = some ⟨s, false⟩ := by
  induction es with
  | nil => rfl
  | cons e es ih =>
      rw [List.map_cons, List.foldlM_cons]
      exact ih

open DeviceTypestate in
/-- **One step keeps to it.** Source: `capture_state_machine.cpp` `CaptureStateMachine::step` -/
theorem CaptureStateMachine.StepCase.uses (hm : Resting m) (h : StepCase rnd t m tr out m') :
    tr.foldlM DeviceUse.legal ⟨m.typestate, false⟩ = some ⟨m'.typestate, false⟩ := by
  unfold CaptureStateMachine.typestate
  cases h with
  | absentWaits hs hw => simp [hs, DeviceUse.legal, legal]
  | absentOpens hs hw =>
      have hr : m.recovering = false := hm.not_recovering (by simp [hs])
      simp [hs, hr, DeviceUse.legal, legal]
  | absentFails hs hw => simp [hs, DeviceUse.legal, legal]
  | waitingWaits hs hr hw => simp [hs, hr, DeviceUse.legal, legal]
  | waitingNoProducer hs hr hw => simp [hs, hr, DeviceUse.legal, legal]
  | waitingQueryFails hs hr hw => simp [hs, hr, DeviceUse.legal, legal]
  | waitingStartFails hs hr hw => simp [hs, hr, DeviceUse.legal, legal]
  | waitingStarts hs hr hw hb => simp [hs, hr, DeviceUse.legal, legal]
  | waitingReconnects hs hr hw hb => simp [hs, hr, DeviceUse.legal, legal]
  | recoveringWaits hs hr hw => simp [hs, hr, DeviceUse.legal, legal]
  | recoveringLoses hs hr hw => simp [hs, hr, DeviceUse.legal, legal, isStreaming]
  | recoveringNoProducer hs hr hw => simp [hs, hr, DeviceUse.legal, legal]
  | recoveringQueryFails hs hr hw => simp [hs, hr, DeviceUse.legal, legal]
  | recoveringStartFails hs hr hw => simp [hs, hr, DeviceUse.legal, legal]
  | recoveringStarts hs hr hw =>
      rw [List.foldlM_append]
      simp [hs, hr, DeviceUse.legal, legal, DeviceUse.legal_emitted]
  | streamsFrame hs hp => simp [hs, DeviceUse.legal, legal]
  | streamsMismatch hs hc hp => simp [hs, DeviceUse.legal, legal, isStreaming]
  | streamsTimeout hs hq => simp [hs, DeviceUse.legal, legal]
  | streamsStall hs hq => simp [hs, DeviceUse.legal, legal, isStreaming]
  | streamsError hs => simp [hs, DeviceUse.legal, legal]
  | streamsLoses hs => simp [hs, DeviceUse.legal, legal, isStreaming]
  | transient hs => simp

/-- **A run keeps to it.** Source: `capture_state_machine.cpp` `CaptureStateMachine::step` -/
theorem CaptureRun.uses (h : CaptureRun rnd config now ls m) :
    (exchange ls).foldlM DeviceUse.legal {} = some ⟨m.typestate, false⟩ := by
  refine Run.history_invariant (fun ls m =>
    (exchange ls).foldlM DeviceUse.legal {} = some ⟨m.typestate, false⟩) rfl ?_ h
  intro ls m l m' hrun ih hl
  have hstep := hl.case.uses (CaptureRun.resting hrun)
  rw [exchange_snoc, List.foldlM_append, ih]
  exact hstep

end protocol

/-! ## The daemon -/

/-- What the typestate says of the buffers. Of a device that has been stopped and not closed it says
nothing. Source: `v4l2_capture_device.cpp` -/
def DeviceUse.Buffers (s : DeviceUse) (q : BufferQueue) : Prop :=
  match s.typestate, s.stopped with
  | .closed, _ => q = {}
  | .opened, true => True
  | .opened, false => q.streaming = false
  | .known, _ => q.streaming = false
  | .streaming, _ => q.Streams []
  | .holding i, _ => q.Streams [i]

/-- The device owns what the typestate says, and its calls have kept the contract.
Source: `v4l2_capture_device.cpp` `V4L2CaptureDevice` -/
structure Queues (s : DeviceUse) (d : V4L2CaptureDevice) : Prop where
  owns : Owns s.typestate d
  calls : bufferContract.Triple (· = {}) d.kernel.log s.Buffers

section daemon

variable {rnd : ℚ → ℚ} {config : DaemonConfig} {now : TimePoint} {ls : List Turn}
  {m : CaptureStateMachine} {path : String} {replies : List Reply} {d d' : V4L2CaptureDevice}
  {s s' : DeviceUse}

/-- The log goes on. Source: none: infrastructure -/
theorem Between.calls {I J K : BufferQueue → Prop} (h : Between J d d' K)
    (hlog : bufferContract.Triple I d.kernel.log J) : bufferContract.Triple I d'.kernel.log K := by
  obtain ⟨tr, htr, hJ⟩ := h
  rw [htr]
  exact hlog.append hJ

/-- Source: none: infrastructure -/
theorem DeviceUse.legal_typestate {o : Observation} (h : s.legal o = some s') :
    s.typestate.legal o = some s'.typestate := by
  have hmap : ∀ {x : Option DeviceTypestate} {b : Bool},
      x.map (DeviceUse.mk · b) = some s' → x = some s'.typestate := by
    intro x b hx
    obtain ⟨typestate, rfl, rfl⟩ := Option.map_eq_some_iff.mp hx
    rfl
  unfold DeviceUse.legal at h
  split at h
  · exact hmap h
  · split_ifs at h
    exact hmap h
  · split_ifs at h
    exact hmap h

/-- What a legal call does to the buffers. Source: `v4l2_capture_device.cpp` `V4L2CaptureDevice` -/
theorem between_answer {o : Observation} (hd : Owns s.typestate d) (hlegal : s.legal o = some s')
    (henv : v4l2.env d o d') : Between s.Buffers d d' s'.Buffers := by
  obtain ⟨typestate, stopped⟩ := s
  obtain ⟨c, r⟩ := o
  cases c with
  | device c =>
      have hanswer : v4l2.answer d c = (r, d') := henv
      cases c with
      | openDevice =>
          have hopen : ∀ I : BufferQueue → Prop, Between I d d.openDevice.2 I := fun I =>
            (between_call (c := .open d.devicePath) (fun _ _ => trivial) fun _ hq _ => hq).trans (.same rfl)
          obtain rfl : d.openDevice.2 = d' := congrArg Prod.snd hanswer
          cases stopped <;> cases typestate <;> cases r <;>
            simp [DeviceUse.legal, DeviceTypestate.legal] at hlegal <;> subst hlegal
          · refine (hopen _).weaken ?_
            rintro q rfl
            rfl
          · exact hopen _
      | closeDevice =>
          have hclose := between_closeDevice (DeviceUse.Buffers ⟨typestate, stopped⟩) d
          obtain ⟨-, rfl⟩ := Prod.mk.inj hanswer
          cases typestate <;> simp [DeviceUse.legal, DeviceTypestate.legal] at hlegal <;> subst hlegal
          · have hfd : ¬ 0 ≤ d.fd := fun h => by cases hd.fd.mp h
            rw [if_neg hfd] at hclose
            exact hclose
          · rw [if_pos (hd.fd.mpr rfl)] at hclose
            exact hclose
          · rw [if_pos (hd.fd.mpr rfl)] at hclose
            exact hclose
      | queryFormat =>
          have hquery := between_queryFormat (·.streaming = false) d
          obtain rfl : d.queryFormat.2 = d' := congrArg Prod.snd hanswer
          obtain ⟨r, f⟩ := r
          cases stopped <;> cases typestate <;> cases r <;>
            simp [DeviceUse.legal, DeviceTypestate.legal] at hlegal <;> subst hlegal <;> exact hquery
      | startStreaming n =>
          have hstart := between_startStreaming hanswer
          cases stopped <;> cases typestate <;> cases r <;>
            simp [DeviceUse.legal, DeviceTypestate.legal] at hlegal <;> subst hlegal <;> exact hstart
      | stopStreaming =>
          have hstop := @between_stopStreaming (DeviceUse.Buffers ⟨typestate, stopped⟩) d
          have hstreaming := hd.streaming
          obtain ⟨-, rfl⟩ := Prod.mk.inj hanswer
          cases stopped <;> cases typestate <;>
            simp [DeviceUse.legal, DeviceTypestate.legal] at hlegal <;> subst hlegal <;>
            simp only [hstreaming, DeviceTypestate.isStreaming] at hstop
          · exact hstop fun h => absurd h Bool.false_ne_true
          · exact hstop fun h => absurd h Bool.false_ne_true
          · exact hstop fun h => absurd h Bool.false_ne_true
          · exact hstop fun _ q hq => hq.1
      | dequeueFrame t =>
          obtain ⟨r, f⟩ := r
          have htake := between_dequeueFrame hanswer
          cases stopped <;> cases typestate <;> cases r <;>
            simp [DeviceUse.legal, DeviceTypestate.legal] at hlegal <;> subst hlegal <;> exact htake
      | requeueFrame i =>
          have hgive := between_requeueFrame i d
          obtain ⟨-, rfl⟩ := Prod.mk.inj hanswer
          cases stopped <;> cases typestate <;> simp [DeviceUse.legal, DeviceTypestate.legal] at hlegal
          obtain ⟨rfl, rfl⟩ := hlegal
          exact hgive
  | steadyNow =>
      obtain rfl : d' = d := henv
      cases stopped <;> simp [DeviceUse.legal, DeviceTypestate.legal] at hlegal
      subst hlegal
      exact .same rfl
  | wallNow =>
      obtain rfl : d' = d := henv
      cases stopped <;> simp [DeviceUse.legal, DeviceTypestate.legal] at hlegal
      subst hlegal
      exact .same rfl
  | emit e =>
      obtain rfl : d' = d := henv
      cases stopped <;> simp [DeviceUse.legal, DeviceTypestate.legal] at hlegal
      subst hlegal
      exact .same rfl

/-- **Every legal call keeps the contract.** Source: `v4l2_capture_device.cpp` `V4L2CaptureDevice` -/
theorem Queues.keeps {o : Observation} (hd : Queues s d) (hlegal : s.legal o = some s')
    (henv : v4l2.env d o d') : Queues s' d' where
  owns := hd.owns.keeps (DeviceUse.legal_typestate hlegal) henv
  calls := (between_answer hd.owns hlegal henv).calls hd.calls

/-- **Every buffer goes back to the driver.** In every run of the daemon, whatever the kernel answers, the
device keeps its part of the contract as long as the driver has kept its own; and if the driver keeps it to
the end, then while the machine streams the stream is on and every buffer is with the driver, but for those
whose return has failed; there is no buffer while the device is absent or in recovery, and the stream is off
while it waits for its first producer.
Source: `v4l2_capture_device.cpp` `V4L2CaptureDevice`, `capture_state_machine.cpp`
`CaptureStateMachine::step` -/
theorem buffers_return (h : CaptureRun rnd config now ls m)
    (hd : Follows v4l2.env (.new path replies) (exchange ls) d) :
    bufferContract.Keeps {} d.kernel.log ∧
      (bufferContract.Relies {} d.kernel.log →
        let q := bufferContract.after {} d.kernel.log
        (m.state = .streaming → q.streaming = true ∧ (q.queued ++ q.failed).Perm q.all) ∧
        (m.state = .deviceAbsent ∨ m.recovering = true → q = {}) ∧
        (m.state = .awaitingProducer → q.streaming = false)) := by
  have hnew : Queues {} (.new path replies) := ⟨owns_new, Contract.triple_nil _⟩
  have hqueues : Queues ⟨m.typestate, false⟩ d :=
    hd.invariant_of_accepts (fun hs hlegal henv => hs.keeps hlegal henv) hnew h.uses
  obtain ⟨hkeeps, hafter⟩ := hqueues.calls {} rfl
  have hm := CaptureRun.resting h
  refine ⟨hkeeps, fun hr => ?_⟩
  have hbuffers := hafter hr
  unfold CaptureStateMachine.typestate at hbuffers
  refine ⟨fun hs => ?_, fun hs => ?_, fun hs => ?_⟩
  · rw [hs] at hbuffers
    exact hbuffers
  · rcases hs with hs | hrecovering
    · rw [hs] at hbuffers
      exact hbuffers
    · rw [hm.recovers hrecovering, hrecovering] at hbuffers
      exact hbuffers
  · rw [hs] at hbuffers
    cases hrecovering : m.recovering with
    | false =>
        rw [hrecovering] at hbuffers
        exact hbuffers
    | true =>
        rw [hrecovering] at hbuffers
        have hempty : bufferContract.after {} d.kernel.log = {} := hbuffers
        rw [hempty]

end daemon

/-- After a cold start the driver has every buffer. Source: none: infrastructure -/
theorem buffers_return_coldStart :
    let q := bufferContract.after {} obligingStarted.kernel.log
    bufferContract.Keeps {} obligingStarted.kernel.log ∧ q.streaming = true ∧
      (q.queued ++ q.failed).Perm q.all := by
  have hrelies : bufferContract.Relies {} obligingStarted.kernel.log :=
    ⟨trivial, trivial, trivial, trivial, rfl, trivial, trivial, trivial, trivial⟩
  obtain ⟨hkeeps, hafter⟩ := buffers_return (coldStart_run id {} 0 obligingFormat) obliging_follows
  exact ⟨hkeeps, (hafter hrelies).1 rfl⟩

end Hamstercam
