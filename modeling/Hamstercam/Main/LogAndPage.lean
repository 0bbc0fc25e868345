import Hamstercam.Main.Daemon
import Hamstercam.Metrics.CounterSeries

/-!
# The log and the page agree

The daemon tells what happens in two ways: a line of the log for every event, and the counters of the page.

* `CounterSeries.event` — the event that is logged whenever a counter goes up, for those that have one.
* `countP_readLog` — how often a reader finds the name of an event in the log.
* `log_agrees_with_page` — this is the number on the page, modulo `2 ^ 64`.
-/

namespace Hamstercam

open Interaction CaptureStateMachine
open Exposition (Clean page)

/-! ## Events and their counters -/

/-- The event that is emitted whenever the counter goes up, if there is one.
Source: `capture_state_machine.cpp` `lose_device`, `step_awaiting_producer`, `begin_release_cycle` -/
def CounterSeries.event : CounterSeries → Option EventType
  | .errors .deviceLost => some .deviceLost
  | .reconnects => some .reconnecting
  | .stalls => some .stallDetected
  | _ => none

namespace EventType

/-- Source: `json_logger.cpp` `JsonEventSink::emit` -/
def level (k : EventType) : LogLevel := (Event.record { type := k }).1

/-- Source: `json_logger.cpp` `JsonEventSink::emit` -/
def name (k : EventType) : List Byte := (Event.record { type := k }).2.1

/-- Different events have different names. Source: `json_logger.cpp` `JsonEventSink::emit` -/
theorem name_injective : Function.Injective name := by
  intro k k' h
  cases k <;> cases k' <;> first | rfl | exact absurd h (text_ne (by decide))

end EventType

section events

variable {x : CounterSeries} {e : Event} {k : EventType}

/-- The level and the name depend on the type only. Source: `json_logger.cpp` `JsonEventSink::emit` -/
theorem record_type (e : Event) : e.record.1 = e.type.level ∧ e.record.2.1 = e.type.name := by
  obtain ⟨type, format, previousFormat, reason⟩ := e
  cases type <;> exact ⟨rfl, rfl⟩

/-- Source: `capture_state_machine.cpp` -/
theorem CounterSeries.count_eq (hx : x.event = some k) : x.count = Turn.count (Observation.isEvent k) := by
  unfold CounterSeries.event at hx
  split at hx
  all_goals
    cases hx
    try rfl

/-- Counted events carry no text of the driver. Source: `error_reason.hpp` `to_string` -/
theorem CounterSeries.plain_record (hx : x.event = some e.type) : ∀ f ∈ e.record.2.2, f.Plain := by
  obtain ⟨type, format, previousFormat, reason⟩ := e
  have hreason : (Field.string (text "reason") reason.toText).Plain := by
    cases reason <;> decide
  have htype : type = .deviceLost ∨ type = .reconnecting ∨ type = .stallDetected := by
    unfold CounterSeries.event at hx
    split at hx
    all_goals
      cases hx
      try simp
  rcases htype with rfl | rfl | rfl
  · exact List.forall_mem_singleton.mpr hreason
  · exact fun f hf => absurd hf List.not_mem_nil
  · exact fun f hf => absurd hf List.not_mem_nil

/-- The events of the turns are the events of the run. Source: none: infrastructure -/
theorem total_isEvent (k : EventType) (ls : List Turn) :
    total (Turn.count (Observation.isEvent k)) ls = (events ls).countP fun e => e.type = k := by
  have hturn : ∀ l : Turn, Turn.count (Observation.isEvent k) l = l.events.countP fun e => e.type = k := by
    intro l
    rw [Turn.count, Turn.events, List.countP_filterMap]
    refine List.countP_congr fun o _ => ?_
    obtain ⟨c, r⟩ := o
    cases c <;> simp [Observation.isEvent, Observation.event]
  induction ls with
  | nil => rfl
  | cons l ls ih =>
      have hcons : events (l :: ls) = l.events ++ events ls := List.flatMap_cons
      rw [total_cons, ih, hturn, hcons, List.countP_append]

end events

/-! ## Counting lines -/

/-- The line has this name. Source: none: infrastructure -/
def isNamed (name : List Byte) : Option (List (List Byte × Json.Value)) → Bool
  | some (_ :: (_, .string n) :: _) => n == name
  | _ => false

/-- Source: `json_logger.cpp` `JsonLogger::log` -/
theorem isNamed_read (name : List Byte) (r : LogRecord) :
    isNamed name r.read = true ↔ (∀ f ∈ r.2.2, f.Plain) ∧ r.2.1 = name := by
  unfold LogRecord.read
  by_cases hplain : ∀ f ∈ r.2.2, f.Plain
  · rw [if_pos hplain]
    show (r.2.1 == name) = true ↔ _
    rw [beq_iff_eq]
    exact ⟨fun h => ⟨hplain, h⟩, And.right⟩
  · rw [if_neg hplain]
    exact ⟨fun h => absurd h Bool.false_ne_true, fun h => absurd h.1 hplain⟩

/-- The record is shown, and a reader finds this name in its line.
Source: `json_logger.cpp` `JsonLogger::log` -/
def JsonLogger.showsNamed (logger : JsonLogger) (name : List Byte) (r : LogRecord) : Bool :=
  isNamed name r.read && logger.shows r

/-- Source: `json_logger.cpp` `JsonLogger::log` -/
theorem showsNamed_other {logger : JsonLogger} {name : List Byte} {r : LogRecord} (h : r.2.1 ≠ name) :
    ¬ logger.showsNamed name r = true := by
  intro hboth
  exact h ((isNamed_read name r).mp (Bool.and_eq_true_iff.mp hboth).1).2

section agree

variable {rnd : ℚ → ℚ} {build : BuildInfo}
  {getaddrinfo : List Byte → List Byte → Option (List Candidate)} {argv : List (List Byte)}
  {getenv : List Byte → Option (List Byte)} {s : Daemon.Settings} {its : List Iteration}
  {acts : List MainAction} {code : Option Int} {cerr : List Byte} {x : CounterSeries} {k : EventType}

/-- **How often a reader finds the name of a counted event.** Source: `main.cpp` `main`, `json_logger.cpp`
`JsonEventSink::emit` -/
theorem countP_readLog (h : Daemon.Main rnd build getaddrinfo argv getenv its acts code cerr)
    (hs : Daemon.startup argv getenv = .goesOn s)
    (hlines : ∀ r ∈ Daemon.records build s (its.map Iteration.turn) code, ∀ f ∈ r.2.2, f.OneLine)
    (hx : x.event = some k) (hlevel : s.logLevel.toNat ≤ k.level.toNat) :
    (readLog (cout acts)).countP (isNamed k.name) =
      (events (its.map Iteration.turn)).countP fun e => e.type = k := by
  obtain ⟨-, hprinted⟩ := h.printed hs
  obtain ⟨hread, -⟩ := readLog_of_printed hprinted (Daemon.oneLine_records _ hlines)
  have hstartup : (Daemon.startupRecord build s).2.1 ≠ k.name := by
    cases k <;> exact text_ne (by decide)
  have hshutdown : Daemon.shutdownRecord.2.1 ≠ k.name := by
    cases k <;> exact text_ne (by decide)
  have htail : (if code = some 0 then [Daemon.shutdownRecord] else []).countP
      (s.logger.showsNamed k.name) = 0 := by
    rw [List.countP_eq_zero]
    intro r hr
    split_ifs at hr
    · rw [List.mem_singleton.mp hr]
      exact showsNamed_other hshutdown
    · exact absurd hr List.not_mem_nil
  have hevent : ∀ e : Event, s.logger.showsNamed k.name e.record = decide (e.type = k) := by
    intro e
    rw [Bool.eq_iff_iff, JsonLogger.showsNamed, Bool.and_eq_true, isNamed_read, (record_type e).2,
      decide_eq_true_iff]
    constructor
    · exact fun hboth => EventType.name_injective hboth.1.2
    · rintro rfl
      refine ⟨⟨x.plain_record hx, rfl⟩, decide_eq_true ?_⟩
      rw [(record_type e).1]
      exact hlevel
  calc (readLog (cout acts)).countP (isNamed k.name)
      = (Daemon.records build s (its.map Iteration.turn) code).countP (s.logger.showsNamed k.name) := by
        rw [hread, List.countP_map, List.countP_filter]
        rfl
    _ = ((events (its.map Iteration.turn)).map Event.record).countP (s.logger.showsNamed k.name) := by
        rw [Daemon.records, List.countP_cons_of_neg (showsNamed_other hstartup), List.countP_append, htail,
          Nat.add_zero]
    _ = (events (its.map Iteration.turn)).countP fun e => e.type = k := by
        rw [List.countP_map]
        exact congrArg (fun p => (events (its.map Iteration.turn)).countP p) (funext hevent)

/-- **The log and the page agree.** For each counter of something that is also logged as an event (the stalls,
the reconnections and the losses of the device), a page that is made between two turns of the loop shows how
often the event's name stands in the log by then, modulo `2 ^ 64`, if the log level lets the event through, no
string in the log has a newline and the page needs no escape.
Source: `main.cpp` `main`, `json_logger.cpp` `JsonEventSink::emit`, `metrics.cpp` `render_metrics`,
`capture_state_machine.cpp` `CaptureStateMachine::step` -/
theorem log_agrees_with_page (h : Daemon.Main rnd build getaddrinfo argv getenv its acts code cerr)
    (hs : Daemon.startup argv getenv = .goesOn s)
    (hlines : ∀ r ∈ Daemon.records build s (its.map Iteration.turn) code, ∀ f ∈ r.2.2, f.OneLine) :
    ∃ now m, CaptureRun rnd s.config now (its.map Iteration.turn) m ∧ ∀ seen : Scrape,
      seen.stats = m.stats → (∀ format, m.stats.streamInfo = some format → Clean format.pixelFormatString) →
      Clean seen.build.version → Clean seen.build.gitSha →
      ∃ entries, page seen.body = some entries ∧ ∀ (x : CounterSeries) (k : EventType),
        x.event = some k → s.logLevel.toNat ≤ k.level.toNat →
        counterValue x.name x.labels entries =
          some ((readLog (cout acts)).countP (isNamed k.name) % 2 ^ 64) := by
  obtain ⟨⟨now, m, hrun⟩, -⟩ := h.printed hs
  refine ⟨now, m, hrun, fun seen hseen hformat hversion hsha => ⟨seen.entries, ?_, fun x k hx hlevel => ?_⟩⟩
  · rw [Scrape.body, renderMetrics_eq]
    apply (Exposition.page_plain (isPlain_metricsEntries _ _ _ _)).mpr
    rw [readable_metricsEntries_iff, hseen]
    exact ⟨hformat, hversion, hsha⟩
  · have hshown : x.Shown := by
      rintro rfl
      cases hx
    rw [Scrape.entries, counterValue_metricsEntries _ _ _ _ hshown, hseen, hrun.series_eq x,
      CounterSeries.count_eq hx, total_isEvent, countP_readLog h hs hlines hx hlevel]
    exact congrArg some UInt64.toNat_ofNat'

end agree

/-- The daemon whose device comes late has logged no stall, and its page shows none.
Source: `main.cpp` `main` -/
theorem log_agrees_with_page_late :
    let seen : Scrape := ⟨openRetried.stats, ⟨text "1.0.0", text "deadbee"⟩, 0, 0⟩
    ∃ entries, page seen.body = some entries ∧
      counterValue CounterSeries.stalls.name CounterSeries.stalls.labels entries =
        some ((readLog (cout (lateLoop ++ lateEnd))).countP (isNamed EventType.stallDetected.name) % 2 ^ 64) := by
  intro seen
  obtain ⟨now, m, hrun, hpage⟩ := log_agrees_with_page late_main defaultSettings_startup (by
    rw [late_records]
    decide)
  have hlast : m = openRetried := by
    obtain ⟨v, -, hturn⟩ := run_snoc.mp (show Run _ _ ([failedOpen] ++ [retriedOpen]) m from hrun)
    exact hturn.post.symm
  subst hlast
  have hformat : ∀ format, openRetried.stats.streamInfo = some format →
      Clean format.pixelFormatString := fun format h => by cases h
  obtain ⟨entries, hread, hcounters⟩ := hpage seen rfl hformat (by decide) (by decide)
  exact ⟨entries, hread, hcounters .stalls .stallDetected rfl (by decide)⟩

end Hamstercam
