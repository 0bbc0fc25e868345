import Hamstercam.Capture.Accounting
import Hamstercam.Capture.Events
import Hamstercam.Logging.JsonLogger
import Hamstercam.Metrics.Render

/-!
# Losses in the log and in the metrics

* `logLines` — what the sink writes for the events of a run, line by line; `lossReason` — the reason that
  a reader of the log finds in a line.
* `lossReason_emit` — that is the reason of the event, for a loss that passes the level, and nothing for
  any other line.
* `PhaseStep.loss` — the event of a loss has the default reason `Count`, while the loss is counted under
  `device_lost`.
* `losses_agree_iff` — so the log agrees with the metrics if and only if no device is lost.
-/

namespace Hamstercam

open Interaction CaptureStateMachine

/-! ## The log of a run -/

/-- The lines written for some events, the `k`-th of them at time `time k`.
Source: `json_logger.cpp` `JsonEventSink::emit` -/
def logLines (logger : JsonLogger) (time : Nat → Timestamp) (es : List Event) : List (List Byte) :=
  es.mapIdx fun k e => JsonEventSink.emit logger (time k) e

/-- The string under a key of an object. Source: none: infrastructure -/
def stringMember (key : List Byte) (members : List (List Byte × Json.Value)) : Option (List Byte) :=
  match members.lookup key with
  | some (.string value) => some value
  | _ => none

/-- The reason in a line, if it is a `device_lost` line. Source: none: infrastructure -/
def lossReason (line : List Byte) : Option (List Byte) :=
  match Json.parse line with
  | some (.object members) =>
      if stringMember (text "event") members = some (text "device_lost") then
        stringMember (text "reason") members
      else none
  | _ => none

/-- Whether losses pass the level of the logger.
Source: `json_logger.cpp` `JsonLogger::log`, `JsonEventSink::emit` -/
def JsonLogger.LogsLosses (logger : JsonLogger) : Prop :=
  logger.minLevel.toNat ≤ LogLevel.warn.toNat

instance (logger : JsonLogger) : Decidable logger.LogsLosses :=
  inferInstanceAs (Decidable (_ ≤ _))

section log

variable {logger : JsonLogger} {t : Timestamp} {level : LogLevel} {event : List Byte}
  {fields : List Field} {e : Event} {es : List Event} {time : Nat → Timestamp}

/-- A line below the level is not written. Source: `json_logger.cpp` `JsonLogger::log` -/
theorem write_of_lt (hlevel : level.toNat < logger.minLevel.toNat) :
    logger.write t level event fields = [] := by
  have hnothing : fields.foldl Line.field ⟨false, []⟩ = ⟨false, []⟩ := by
    induction fields with
    | nil => rfl
    | cons f fields ih =>
        have hfield : Line.field ⟨false, []⟩ f = ⟨false, []⟩ := by
          cases f <;> rfl
        rw [List.foldl_cons, hfield, ih]
  unfold JsonLogger.write JsonLogger.log
  rw [if_pos hlevel, hnothing]
  rfl

/-- The event of a line is found. Source: `json_logger.cpp` `JsonLogger::log` -/
theorem stringMember_event :
    stringMember (text "event") ((logFields t level event fields).map Field.member) = some event := by
  have hts : (text "event" == text "ts") = false := by decide
  have hlevel : (text "event" == text "level") = false := by decide
  simp [stringMember, logFields, Field.member, List.lookup_cons, hts, hlevel]

/-- A key that no line begins with is looked up in the fields.
Source: `json_logger.cpp` `JsonLogger::log` -/
theorem stringMember_reason :
    stringMember (text "reason") ((logFields t level event fields).map Field.member) =
      stringMember (text "reason") (fields.map Field.member) := by
  have hts : (text "reason" == text "ts") = false := by decide
  have hlevel : (text "reason" == text "level") = false := by decide
  have hevent : (text "reason" == text "event") = false := by decide
  simp [stringMember, logFields, Field.member, List.lookup_cons, hts, hlevel, hevent]

/-- The labels of the reasons are plain. Source: `error_reason.hpp` `to_string` -/
theorem plain_toText (r : ErrorReason) : Json.Plain r.toText := by
  cases r <;> decide

/-- The record of a loss. Source: `json_logger.cpp` `JsonEventSink::emit` -/
theorem record_deviceLost (he : e.type = .deviceLost) :
    e.record = (.warn, text "device_lost", [.string (text "reason") e.reason.toText]) := by
  unfold Event.record
  rw [he]

/-- No other record has the name of a loss. Source: `json_logger.cpp` `JsonEventSink::emit` -/
theorem record_other (he : e.type ≠ .deviceLost) : e.record.2.1 ≠ text "device_lost" := by
  unfold Event.record
  cases htype : e.type with
  | deviceLost => exact absurd htype he
  | _ =>
      dsimp only
      decide

/-- What a reader finds in a line that is written. Source: `json_logger.cpp` `JsonLogger::Line` -/
theorem lossReason_write (hlevel : logger.minLevel.toNat ≤ level.toNat) (hevent : Json.Clean event)
    (hkeys : ∀ f ∈ fields, Json.Clean f.key) :
    lossReason (logger.write t level event fields) =
      if (∀ f ∈ fields, f.Plain) ∧ event = text "device_lost" then
        stringMember (text "reason") (fields.map Field.member)
      else none := by
  unfold lossReason
  rw [parse_write hlevel hevent hkeys]
  by_cases hplain : ∀ f ∈ fields, f.Plain
  · rw [if_pos hplain]
    simp only [stringMember_event, stringMember_reason, Option.some.injEq]
    by_cases hname : event = text "device_lost"
    · rw [if_pos hname, if_pos ⟨hplain, hname⟩]
    · rw [if_neg hname, if_neg fun h => hname h.2]
  · rw [if_neg hplain, if_neg fun h => hplain h.1]

/-- **The reason in the line of an event** is the reason of the event, if it is a loss that passes the
level. Source: `json_logger.cpp` `JsonEventSink::emit` -/
theorem lossReason_emit : lossReason (JsonEventSink.emit logger t e) =
    if e.type = .deviceLost ∧ logger.LogsLosses then some e.reason.toText else none := by
  obtain ⟨-, hevents, hfields⟩ := clean_names e.record.1
  obtain ⟨hevent, hkeys⟩ := record_callSite e
  have hwrite : logger.minLevel.toNat ≤ e.record.1.toNat →
      lossReason (JsonEventSink.emit logger t e) = _ := fun hlevel =>
    lossReason_write hlevel (hevents _ hevent) fun f hf => hfields f.key (hkeys f hf)
  have hnothing : e.record.1.toNat < logger.minLevel.toNat →
      lossReason (JsonEventSink.emit logger t e) = none := by
    intro hlevel
    unfold JsonEventSink.emit
    rw [write_of_lt hlevel]
    rfl
  by_cases he : e.type = .deviceLost
  · have hrecord := record_deviceLost he
    by_cases hlevel : logger.LogsLosses
    · rw [if_pos ⟨he, hlevel⟩, hwrite (by rw [hrecord]; exact hlevel), hrecord]
      have hplain : ∀ f ∈ [Field.string (text "reason") e.reason.toText], f.Plain := by
        intro f hf
        rw [List.mem_singleton.mp hf]
        exact plain_toText e.reason
      rw [if_pos ⟨hplain, rfl⟩]
      rfl
    · rw [if_neg fun h => hlevel h.2]
      apply hnothing
      rw [hrecord]
      exact Nat.lt_of_not_le hlevel
  · rw [if_neg fun h => he h.1]
    by_cases hlevel : logger.minLevel.toNat ≤ e.record.1.toNat
    · rw [hwrite hlevel, if_neg fun h => record_other he h.2]
    · exact hnothing (Nat.lt_of_not_le hlevel)

/-- The reasons in a log. Source: `json_logger.cpp` `JsonEventSink::emit` -/
theorem map_lossReason_logLines : (logLines logger time es).map lossReason =
    es.map fun e => if e.type = .deviceLost ∧ logger.LogsLosses then some e.reason.toText else none := by
  unfold logLines
  apply List.ext_getElem?
  intro i
  simp [lossReason_emit, Function.comp_def]

end log

/-! ## Losses of a run -/

/-- The log agrees with the metrics: every loss names a reason whose counter its step raises, no reason
is logged more often than it is counted, and every logged reason is a label of
`hamstercam_capture_errors_total`.
Source: `event.hpp` `Event`, `json_logger.cpp` `JsonEventSink::emit`, `error_reason.hpp` `ErrorReason` -/
structure LossesAgree (logger : JsonLogger) (time : Nat → Timestamp) (ls : List Turn)
    (stats : CaptureStats) : Prop where
  counted : ∀ l ∈ ls, ∀ e ∈ l.events, e.type = .deviceLost → e.reason ∈ errorReasons ∧
    l.post.stats.errors e.reason = l.pre.stats.errors e.reason + 1
  bounded : ∀ r ∈ errorReasons,
    ((logLines logger time (events ls)).map lossReason).count (some r.toText) ≤ (stats.errors r).toNat
  labelled : ∀ reason, some reason ∈ (logLines logger time (events ls)).map lossReason →
    reason ∈ errorReasons.map ErrorReason.toText

section losses

variable {rnd : ℚ → ℚ} {config : DaemonConfig} {now : TimePoint} {ls : List Turn} {l : Turn}
  {m : CaptureStateMachine} {es : List Event} {e : Event}

/-- An observation is an event of a turn. Source: none: infrastructure -/
theorem mem_turnEvents : e ∈ l.events ↔ .emitted e ∈ l.trace := by
  unfold Turn.events
  rw [List.mem_filterMap]
  constructor
  · rintro ⟨⟨c, r⟩, hmem, hevent⟩
    cases c with
    | emit e' =>
        obtain rfl : e' = e := Option.some.inj hevent
        exact hmem
    | _ => cases hevent
  · intro hmem
    exact ⟨_, hmem, rfl⟩

/-- A turn without an event of a kind counts none. Source: none: infrastructure -/
theorem count_isEvent_eq_zero {k : EventType} :
    l.count (Observation.isEvent k) = 0 ↔ ∀ e ∈ l.events, e.type ≠ k := by
  unfold Turn.count
  rw [List.countP_eq_zero]
  constructor
  · intro h e he htype
    apply h _ (mem_turnEvents.mp he)
    simp [htype]
  · rintro h ⟨c, r⟩ hmem hevent
    cases c with
    | emit e => exact h e (mem_turnEvents.mpr hmem) (by simpa using hevent)
    | _ => cases hevent

/-- **The event of a loss has the default reason.**
Source: `capture_state_machine.cpp` `CaptureStateMachine::lose_device`, `event.hpp` `Event` -/
theorem PhaseStep.loss {streamed : Prop} {p q : Phase} (h : PhaseStep streamed p q es) (he : e ∈ es)
    (htype : e.type = .deviceLost) : e.reason = .count := by
  cases h with
  | stays => cases he
  | opens => rcases List.mem_pair.mp he with rfl | rfl <;> cases htype
  | loses was => rw [List.mem_singleton.mp he]
  | restarts f change changed =>
      rcases List.mem_cons.mp he with rfl | he
      · cases htype
      · rcases List.mem_append.mp he with he | he
        · rw [changed e (Option.mem_toList.mp he)] at htype
          cases htype
        · rw [List.mem_singleton.mp he] at htype
          cases htype
  | _ =>
      rw [List.mem_singleton.mp he] at htype
      cases htype

/-- A turn without a loss: no dequeue answers `DeviceLost`, and no probe fails to open the device.
Source: `capture_state_machine.cpp` `step_recovering`, `step_streaming` -/
def Turn.KeepsDevice (l : Turn) : Prop :=
  l.count Observation.isDequeueLost = 0 ∧ l.probeOpenFailures = 0

/-- A turn of a run reports a loss unless it keeps the device.
Source: `capture_state_machine.cpp` `step_recovering`, `step_streaming` -/
theorem CaptureRun.keepsDevice_iff (h : CaptureRun rnd config now ls m) (hl : l ∈ ls) :
    l.KeepsDevice ↔ ∀ e ∈ l.events, e.type ≠ .deviceLost := by
  obtain ⟨before, m₁, m₂, -, hbefore, hturn⟩ := h.at_mem hl
  have hlosses := hturn.case.losses (CaptureRun.resting hbefore)
  obtain ⟨rfl, rfl, -⟩ := hturn
  rw [← count_isEvent_eq_zero]
  unfold Turn.KeepsDevice
  rw [← Nat.add_eq_zero_iff, ← hlosses]

/-- A loss in a run has the default reason.
Source: `capture_state_machine.cpp` `CaptureStateMachine::lose_device`, `event.hpp` `Event` -/
theorem CaptureRun.loss_reason (h : CaptureRun rnd config now ls m) (hl : l ∈ ls) (he : e ∈ l.events)
    (htype : e.type = .deviceLost) : e.reason = .count := by
  obtain ⟨before, m₁, m₂, -, hbefore, hturn⟩ := h.at_mem hl
  obtain ⟨p, q, -, -, hphase⟩ := hturn.case.phaseStep (CaptureRun.resting hbefore)
  exact hphase.loss he htype

/-- **The log agrees with the metrics if and only if no device is lost.**
Source: `capture_state_machine.cpp` `CaptureStateMachine::lose_device`, `event.hpp` `Event`,
`json_logger.cpp` `JsonEventSink::emit` -/
theorem losses_agree_iff (logger : JsonLogger) (time : Nat → Timestamp)
    (h : CaptureRun rnd config now ls m) :
    LossesAgree logger time ls m.stats ↔ ∀ l ∈ ls, l.KeepsDevice := by
  constructor
  · intro hagree l hl
    rw [h.keepsDevice_iff hl]
    intro e he htype
    obtain ⟨hreason, -⟩ := hagree.counted l hl e he htype
    rw [h.loss_reason hl he htype] at hreason
    simp [errorReasons] at hreason
  · intro hkeeps
    have hnone : ∀ e ∈ events ls, e.type ≠ .deviceLost := by
      intro e he
      obtain ⟨l, hl, he⟩ := List.mem_flatMap.mp he
      exact (h.keepsDevice_iff hl).mp (hkeeps l hl) e he
    have hlog : ∀ reason, some reason ∉ (logLines logger time (events ls)).map lossReason := by
      intro reason hmem
      rw [map_lossReason_logLines] at hmem
      obtain ⟨e, he, hshown⟩ := List.mem_map.mp hmem
      rw [if_neg fun hloss => hnone e he hloss.1] at hshown
      cases hshown
    constructor
    · intro l hl e he htype
      exact absurd htype ((h.keepsDevice_iff hl).mp (hkeeps l hl) e he)
    · intro r hr
      rw [List.count_eq_zero.mpr (hlog r.toText)]
      exact Nat.zero_le _
    · intro reason hmem
      exact absurd hmem (hlog reason)

end losses

/-- A cold start keeps the device. Source: none: infrastructure -/
theorem losses_agree_coldStart :
    LossesAgree ⟨.info⟩ (fun _ => {}) (coldStart id {} 0 {}) (coldStarted id {} 0 {}).stats ↔
      ∀ l ∈ coldStart id {} 0 {}, l.KeepsDevice :=
  losses_agree_iff ⟨.info⟩ (fun _ => {}) (coldStart_run id {} 0 {})

/-- A cold start, and a dequeue that answers `DeviceLost`. Source: none: infrastructure -/
def unpluggedTurns : List Turn :=
  coldStart id {} 0 {} ++ [⟨coldStarted id {} 0 {}, 200,
    [.dequeued 200 .deviceLost {}, .stopped, .closed, .emitted { type := .deviceLost }, .steady 0], {},
    (coldStarted id {} 0 {}).lost 0⟩]

/-- **A lost device does not agree**: its line says `unknown`, and the error is counted under
`device_lost`. Source: `capture_state_machine.cpp` `CaptureStateMachine::lose_device` -/
theorem loss_logged_as_unknown :
    CaptureRun id {} 0 unpluggedTurns ((coldStarted id {} 0 {}).lost 0) ∧
      some (text "unknown") ∈ (logLines ⟨.info⟩ (fun _ => {}) (events unpluggedTurns)).map lossReason ∧
      ((coldStarted id {} 0 {}).lost 0).stats.errors .deviceLost = 1 ∧
      ¬ LossesAgree ⟨.info⟩ (fun _ => {}) unpluggedTurns ((coldStarted id {} 0 {}).lost 0).stats := by
  have hlogged : some (text "unknown") ∈
      (logLines ⟨.info⟩ (fun _ => {}) (events unpluggedTurns)).map lossReason := by
    have hloss : { type := .deviceLost } ∈ events unpluggedTurns := by
      simp [events, unpluggedTurns, coldStart, Turn.events, Observation.event]
    rw [map_lossReason_logLines]
    exact List.mem_map.mpr ⟨_, hloss, rfl⟩
  refine ⟨(coldStart_run id {} 0 {}).snoc (t := 200) (.streamsLoses rfl), hlogged, rfl, ?_⟩
  intro hagree
  have hlabel := hagree.labelled _ hlogged
  revert hlabel
  decide

end Hamstercam
