import Hamstercam.Capture.Runs

/-!
# The device call protocol

* `DeviceTypestate` — what a device is in the middle of, seen from its callers, and
  `DeviceTypestate.legal`, the protocol of `ICaptureDevice`: which call is legal in which typestate,
  and where it leads.
* `StepCase.accepted` — one step keeps to the protocol, from the typestate of the machine before it to
  the typestate of the machine after it.
* `CaptureRun.accepted` — so does a whole run; `device_protocol` spells out where it ends.
* `CaptureDevice.env` — an implementation of the interface, as the environment of a run;
  `step_exists` says that the machine can always take a step on it.

The protocol is stricter than the interface in two points: it does not let a client query the format of
a device that is streaming, nor close one without stopping it first. The machine does neither.
-/

namespace Hamstercam

open Interaction CaptureStateMachine

/-! ## The protocol -/

/-- The typestate of a capture device.
Source: `capture_device.hpp` `ICaptureDevice` -/
inductive DeviceTypestate
  /-- Never opened, absent at the last `open`, or closed since. -/
  | closed
  /-- Open; a format has to be queried before streaming. -/
  | opened
  /-- Open, and the last call was a `query_format` that answered `Known`. -/
  | known
  /-- Between a `Started` and the next `stop_streaming` or `close`. -/
  | streaming
  /-- Streaming, with the dequeued buffer `index` not yet returned. -/
  | holding (index : UInt32)
  deriving DecidableEq

namespace DeviceTypestate

/-- After an `open`. Source: `capture_device.hpp` `ICaptureDevice::open` -/
@[simp] def onOpen : DeviceTypestate → OpenResult → Option DeviceTypestate
  | closed, .opened => some opened
  | closed, .absent => some closed
  | _, _ => none

/-- After a `query_format`. Source: `capture_device.hpp` `ICaptureDevice::query_format` -/
@[simp] def onQuery : DeviceTypestate → FormatResult → Option DeviceTypestate
  | opened, .known | known, .known => some known
  | opened, _ | known, _ => some opened
  | _, _ => none

/-- After a `start_streaming`. Source: `capture_device.hpp` `ICaptureDevice::start_streaming` -/
@[simp] def onStart : DeviceTypestate → StreamStartResult → Option DeviceTypestate
  | known, .started => some streaming
  | known, .bufferError => some opened
  | _, _ => none

/-- After a `dequeue_frame`. Source: `capture_device.hpp` `ICaptureDevice::dequeue_frame` -/
@[simp] def onDequeue (f : FrameDescriptor) : DeviceTypestate → DequeueResult → Option DeviceTypestate
  | streaming, .frame => some (holding f.bufferIndex)
  | streaming, _ => some streaming
  | _, _ => none

/-- After a `requeue_frame`. Source: `capture_device.hpp` `ICaptureDevice::requeue_frame` -/
@[simp] def onRequeue (i : UInt32) : DeviceTypestate → Option DeviceTypestate
  | holding j => if i = j then some streaming else none
  | _ => none

/-- After a `stop_streaming`. Source: `capture_device.hpp` `ICaptureDevice::stop_streaming` -/
@[simp] def onStop : DeviceTypestate → Option DeviceTypestate
  | closed => some closed
  | opened | known | streaming => some opened
  | holding _ => none

/-- After a `close`. Source: `capture_device.hpp` `ICaptureDevice::close` -/
@[simp] def onClose : DeviceTypestate → Option DeviceTypestate
  | closed | opened | known => some closed
  | streaming | holding _ => none

/-- The protocol of `ICaptureDevice`: the typestate after an exchange, `none` if the call is illegal.
Clock readings and events are no business of the device.
Source: `capture_device.hpp` `ICaptureDevice` -/
def legal (s : DeviceTypestate) : Observation → Option DeviceTypestate
  | .opened r => s.onOpen r
  | .queried r _ => s.onQuery r
  | .started _ r => s.onStart r
  | .dequeued _ r f => s.onDequeue f r
  | .requeued i => s.onRequeue i
  | .stopped => s.onStop
  | .closed => s.onClose
  | .steady _ | .wall _ | .emitted _ => some s

/-- Whether the device is open. Source: `capture_device.hpp` `ICaptureDevice` -/
def isOpen : DeviceTypestate → Bool
  | closed => false
  | _ => true

/-- Whether the device is streaming. Source: `capture_device.hpp` `ICaptureDevice` -/
def isStreaming : DeviceTypestate → Bool
  | streaming => true
  | holding _ => true
  | _ => false

/-- Emitting events is legal at any time, and changes nothing.
Source: none: infrastructure -/
theorem legal_emitted (s : DeviceTypestate) (es : List Event) :
    (es.map .emitted).foldlM legal s = some s := by
  induction es with
  | nil => rfl
  | cons e es ih =>
      rw [List.map_cons, List.foldlM_cons]
      exact ih

end DeviceTypestate

/-- An implementation of the interface as an environment: it answers the device calls, and the clocks
and the event sink do not touch it.
Source: `capture_device.hpp` `ICaptureDevice` -/
def CaptureDevice.env {δ : Type} (dev : CaptureDevice δ) (d : δ) : Observation → δ → Prop
  | ⟨.device c, r⟩, d' => dev.answer d c = (r, d')
  | _, d' => d' = d

/-- A device call is answered by the implementation. Source: none: infrastructure -/
@[simp] theorem env_device {δ : Type} {dev : CaptureDevice δ} {d d' : δ} {c : DeviceCall}
    {r : (Call.device c).Answer} : dev.env d ⟨.device c, r⟩ d' ↔ dev.answer d c = (r, d') := Iff.rfl

/-- A clock reading leaves the device alone. Source: none: infrastructure -/
@[simp] theorem env_steady {δ : Type} {dev : CaptureDevice δ} {d d' : δ} {t : TimePoint} :
    dev.env d (.steady t) d' ↔ d' = d := Iff.rfl

/-- An event leaves the device alone. Source: none: infrastructure -/
@[simp] theorem env_emitted {δ : Type} {dev : CaptureDevice δ} {d d' : δ} {e : Event} :
    dev.env d (.emitted e) d' ↔ d' = d := Iff.rfl

/-- An implementation of the interface together with a clock that shows `now`, as a functional
environment.
Source: `capture_device.hpp` `ICaptureDevice`, `clock.hpp` `Clock` -/
def CaptureDevice.handler {δ : Type} (dev : CaptureDevice δ) (now : TimePoint) (d : δ) :
    (c : Call) → c.Answer × δ
  | .device c => dev.answer d c
  | .steadyNow => (now, d)
  | .wallNow => (0, d)
  | .emit _ => ((), d)

/-- **On every implementation the machine can take a step**, at any clock reading.
Source: `capture_state_machine.cpp` `CaptureStateMachine::step` -/
theorem step_exists {δ : Type} (dev : CaptureDevice δ) (rnd : ℚ → ℚ) (t : Millis) (now : TimePoint)
    (m : CaptureStateMachine) (d : δ) :
    ∃ tr out m' d', Does (step rnd t) m tr out m' ∧ Follows dev.env d tr d' ∧
      ∀ reading rest, tr = Observation.steady reading :: rest → reading = now := by
  have hfollows := Prog.eval_follows (dev.handler now) d ((step rnd t).run m)
  refine ⟨_, _, _, _, Prog.eval_exec (dev.handler now) d ((step rnd t).run m), hfollows.mono ?_, ?_⟩
  · rintro d ⟨c, r⟩ d' h
    cases c with
    | device c => exact h
    | steadyNow => exact (Prod.mk.inj h).2.symm
    | wallNow => exact (Prod.mk.inj h).2.symm
    | emit e => exact (Prod.mk.inj h).2.symm
  · intro reading rest htr
    rw [htr, follows_cons] at hfollows
    obtain ⟨d₁, hhead, -⟩ := hfollows
    exact (Prod.mk.inj hhead).1.symm

/-! ## The machine keeps to it -/

/-- The typestate in which the machine leaves the device.
Source: `capture_state_machine.cpp` `CaptureStateMachine::step` -/
def CaptureStateMachine.typestate (m : CaptureStateMachine) : DeviceTypestate :=
  match m.state, m.recovering with
  | .streaming, _ => .streaming
  | .awaitingProducer, false => .opened
  | _, _ => .closed

section protocol

variable {rnd : ℚ → ℚ} {config : DaemonConfig} {now : TimePoint} {ls : List Turn}
  {m m' : CaptureStateMachine} {t : Millis} {tr : List Observation} {out : StepOutcome}

open DeviceTypestate

/-- **One step keeps to the protocol.**
Source: `capture_state_machine.cpp` `CaptureStateMachine::step` -/
theorem CaptureStateMachine.StepCase.accepted (hm : Resting m) (h : StepCase rnd t m tr out m') :
    tr.foldlM legal m.typestate = some m'.typestate := by
  unfold CaptureStateMachine.typestate
  cases h with
  | absentWaits hs hw => simp [hs, legal]
  | absentOpens hs hw =>
      have hr : m.recovering = false := hm.not_recovering (by simp [hs])
      simp [hs, hr, legal]
  | absentFails hs hw => simp [hs, legal]
  | waitingWaits hs hr hw => simp [hs, hr, legal]
  | waitingNoProducer hs hr hw => simp [hs, hr, legal]
  | waitingQueryFails hs hr hw => simp [hs, hr, legal]
  | waitingStartFails hs hr hw => simp [hs, hr, legal]
  | waitingStarts hs hr hw hb => simp [hs, hr, legal]
  | waitingReconnects hs hr hw hb => simp [hs, hr, legal]
  | recoveringWaits hs hr hw => simp [hs, hr, legal]
  | recoveringLoses hs hr hw => simp [hs, hr, legal]
  | recoveringNoProducer hs hr hw => simp [hs, hr, legal]
  | recoveringQueryFails hs hr hw => simp [hs, hr, legal]
  | recoveringStartFails hs hr hw => simp [hs, hr, legal]
  | recoveringStarts hs hr hw =>
      rw [List.foldlM_append]
      simp [hs, hr, legal, legal_emitted]
  | streamsFrame hs hp => simp [hs, legal]
  | streamsMismatch hs hc hp => simp [hs, legal]
  | streamsTimeout hs hq => simp [hs, legal]
  | streamsStall hs hq => simp [hs, legal]
  | streamsError hs => simp [hs, legal]
  | streamsLoses hs => simp [hs, legal]
  | transient hs => simp

/-- **A run keeps to the protocol**, and leaves the device in the typestate of the machine.
Source: `capture_state_machine.cpp` `CaptureStateMachine::step` -/
theorem CaptureRun.accepted (h : CaptureRun rnd config now ls m) :
    (exchange ls).foldlM legal .closed = some m.typestate := by
  refine Run.history_invariant (fun ls m =>
    (exchange ls).foldlM legal .closed = some m.typestate) rfl ?_ h
  intro ls m l m' hrun ih hl
  have hstep := hl.case.accepted (CaptureRun.resting hrun)
  rw [exchange_snoc, List.foldlM_append, ih]
  exact hstep

/-- The device call protocol: from a closed device, the calls of a run are legal one after the other;
the last step has returned every buffer it took; and the device is open exactly when the machine is
streaming or holds it to wait for its first producer.
Source: `capture_state_machine.cpp` `CaptureStateMachine::step`, `capture_device.hpp`
`ICaptureDevice` -/
theorem device_protocol (h : CaptureRun rnd config now ls m) :
    ∃ s, (exchange ls).foldlM legal .closed = some s ∧ (∀ index, s ≠ .holding index) ∧
      (s.isOpen = true ↔
        m.state = .streaming ∨ (m.state = .awaitingProducer ∧ m.recovering = false)) ∧
      (s = .closed ↔
        m.state = .deviceAbsent ∨ (m.state = .awaitingProducer ∧ m.recovering = true)) := by
  have hm := CaptureRun.resting h
  refine ⟨m.typestate, h.accepted, ?_⟩
  unfold CaptureStateMachine.typestate
  rcases hm.state with hs | hs | hs
  · simp [hs, isOpen]
  · cases hr : m.recovering <;> simp [hs, isOpen]
  · simp [hs, isOpen]

/-- A cold start leaves the device open.
Source: none: infrastructure -/
theorem device_protocol_coldStart :
    ∃ s, (exchange (coldStart id {} 0 {})).foldlM legal .closed = some s ∧
      (∀ index, s ≠ .holding index) ∧
      (s.isOpen = true ↔ (coldStarted id {} 0 {}).state = .streaming ∨
        ((coldStarted id {} 0 {}).state = .awaitingProducer ∧
          (coldStarted id {} 0 {}).recovering = false)) ∧
      (s = .closed ↔ (coldStarted id {} 0 {}).state = .deviceAbsent ∨
        ((coldStarted id {} 0 {}).state = .awaitingProducer ∧
          (coldStarted id {} 0 {}).recovering = true)) :=
  device_protocol (coldStart_run id {} 0 {})

end protocol

end Hamstercam
