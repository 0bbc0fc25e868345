import Hamstercam.Capture.Events
import Hamstercam.Capture.Retries
import Hamstercam.Device.Buffers
import Hamstercam.Http.Server
import Hamstercam.Logging.Reading
import Hamstercam.Main.Settings
import Hamstercam.Metrics.Render

/-!
# The main thread of the daemon

`main` of `main.cpp` from its command line to its exit.

* `MainAction` — what the main thread does: it looks at the flag of the signal handler, calls the device and
  the clock, prints and sleeps. `Iteration` is one turn of its loop, `Daemon.Main` all that it can do.
* `daemon_log` — the log is the account of the run; `log_tells_phase` — who reads the log knows the phase of
  the machine.
* `stop_honoured` — from the moment a stop is requested the thread does little more, and waits hardly at
  all.
* `steps_attempt` — on a clock that counts what is slept, the daemon never wakes up before a deadline.
* `daemon_releases` — however the daemon ends, it holds no descriptor and no mapping.
* `late_main` — a daemon whose device comes late.
-/

namespace Hamstercam

open Interaction CaptureStateMachine Contracts

/-! ## What the main thread does -/

/-- One action of the main thread. Source: `main.cpp` `main`, `interruptible_sleep` -/
inductive MainAction
  /-- `g_stop_requested.load()` -/
  | look (stop : Bool)
  /-- A call of the device or of the clock, with its answer. -/
  | call (o : Observation)
  /-- A write to `std::cout`. -/
  | print (s : List Byte)
  /-- `std::this_thread::sleep_for(d)` -/
  | sleep (d : Millis)
  /-- `server.stop(); http_thread.join()` -/
  | join

/-- What the main thread does for an exchange of the machine: an event is printed, at some time.
Source: `json_logger.cpp` `JsonEventSink::emit`, `main.cpp` `main` -/
inductive Logged (logger : JsonLogger) : Observation → MainAction → Prop
  | event (e : Event) (t : Timestamp) :
      Logged logger (.emitted e) (.print (JsonEventSink.emit logger t e))
  | call {o : Observation} (h : o.event = none) : Logged logger o (.call o)

/-- What `interruptible_sleep(remaining)` does. Source: `main.cpp` `interruptible_sleep` -/
inductive Sleeps : Millis → List MainAction → Prop
  | passed {remaining : Millis} (h : remaining ≤ 0) : Sleeps remaining []
  | stopped {remaining : Millis} (h : 0 < remaining) : Sleeps remaining [.look true]
  | chunk {remaining : Millis} {acts : List MainAction} (h : 0 < remaining)
      (rest : Sleeps (remaining - min remaining 100) acts) :
      Sleeps remaining (.look false :: .sleep (min remaining 100) :: acts)

/-- One turn of the loop of `main`. Source: `main.cpp` `main` -/
structure Iteration where
  /-- The step of the machine. -/
  turn : Turn
  /-- What the thread does in the step. -/
  logged : List MainAction
  /-- What the thread does in `interruptible_sleep`. -/
  slept : List MainAction

/-- Source: `main.cpp` `main` -/
def Iteration.acts (i : Iteration) : List MainAction := .look false :: (i.logged ++ i.slept)

/-- What the thread does in some turns of the loop. Source: `main.cpp` `main` -/
def iterated (its : List Iteration) : List MainAction := its.flatMap Iteration.acts

/-- The turn of the loop `i` leads from `m` to `m'`. Source: `main.cpp` `main` -/
structure Iteration.Of (rnd : ℚ → ℚ) (logger : JsonLogger) (m : CaptureStateMachine) (i : Iteration)
    (m' : CaptureStateMachine) : Prop where
  turn : i.turn.Of rnd m m'
  pollTimeout : i.turn.pollTimeout = 200
  logged : List.Forall₂ (Logged logger) i.turn.trace i.logged
  slept : Sleeps i.turn.outcome.recommendedWait i.slept

/-- Nothing clears the flag: once it is seen set, it is never seen clear.
Source: `main.cpp` `g_stop_requested`, `handle_signal` -/
def FlagKept (acts : List MainAction) : Prop :=
  AtEach (fun before a => a = .look false → .look true ∉ before) acts

namespace Daemon

/-- Source: `main.cpp` `main` -/
def startupRecord (build : BuildInfo) (s : Settings) : LogRecord :=
  (.info, text "startup", [.string (text "version") build.version,
    .string (text "git_sha") build.gitSha, .string (text "device") s.devicePath,
    .string (text "metrics_addr") s.metricsAddr])

/-- Source: `main.cpp` `main` -/
def shutdownRecord : LogRecord := (.info, text "shutdown", [])

/-- The logger of `main`. Source: `main.cpp` `main` -/
def Settings.logger (s : Settings) : JsonLogger := ⟨s.logLevel⟩

/-- What the thread does before it starts the HTTP server: the machine and `start_time` read the clock.
Source: `main.cpp` `main` -/
def beginning (build : BuildInfo) (s : Settings) (t : Timestamp) (now start : TimePoint) :
    List MainAction :=
  [.print (s.logger.writeRecord t (startupRecord build s)), .call (.steady now), .call (.steady start)]

/-- The device is stopped and closed, by `main` and again by its destructor.
Source: `main.cpp` `main`, `v4l2_capture_device.cpp` `V4L2CaptureDevice::~V4L2CaptureDevice` -/
def release : List MainAction := [.call .stopped, .call .closed]

/-- How it goes on after the turns of the loop `its`: the metrics address cannot be bound and there are
none, the thread is about to look at the flag again, or it finds it set.
Source: `main.cpp` `main` -/
inductive Ending (getaddrinfo : List Byte → List Byte → Option (List Candidate)) (s : Settings) :
    List Iteration → List MainAction → Option Int → List Byte → Prop
  | unbound (hstart : (HttpServer.start getaddrinfo { address := s.metricsAddr }).1 = false) :
      Ending getaddrinfo s [] release (some 1)
        (text "failed to bind metrics address: " ++ s.metricsAddr ++ text "\n")
  | running {its : List Iteration}
      (hstart : (HttpServer.start getaddrinfo { address := s.metricsAddr }).1 = true) :
      Ending getaddrinfo s its [] none []
  | ends {its : List Iteration} (t : Timestamp)
      (hstart : (HttpServer.start getaddrinfo { address := s.metricsAddr }).1 = true) :
      Ending getaddrinfo s its (.look true :: (release ++
        .join :: .print (s.logger.writeRecord t shutdownRecord) :: release)) (some 0) []

/-- What the main thread does, its exit status if it has ended, and what it writes to `std::cerr`.
Source: `main.cpp` `main` -/
inductive Main (rnd : ℚ → ℚ) (build : BuildInfo)
    (getaddrinfo : List Byte → List Byte → Option (List Candidate)) (argv : List (List Byte))
    (getenv : List Byte → Option (List Byte)) :
    List Iteration → List MainAction → Option Int → List Byte → Prop
  | exits {code : Int} {cout cerr : List Byte}
      (hstartup : startup argv getenv = .exits code cout cerr) :
      Main rnd build getaddrinfo argv getenv [] [.print cout] (some code) cerr
  | goesOn {s : Settings} {t : Timestamp} {now start : TimePoint} {its : List Iteration}
      {m : CaptureStateMachine} {tail : List MainAction} {code : Option Int} {cerr : List Byte}
      (hstartup : startup argv getenv = .goesOn s)
      (hrun : Run (Iteration.Of rnd s.logger) (.new rnd s.config now) its m)
      (hkept : FlagKept (beginning build s t now start ++ iterated its ++ tail))
      (hend : Ending getaddrinfo s its tail code cerr) :
      Main rnd build getaddrinfo argv getenv its
        (beginning build s t now start ++ iterated its ++ tail) code cerr

end Daemon

/-! ## The run of the machine -/

section main

variable {rnd : ℚ → ℚ} {logger : JsonLogger} {i : Iteration} {its : List Iteration}
  {m m' : CaptureStateMachine}

/-- Source: none: infrastructure -/
theorem iterated_append (its js : List Iteration) :
    iterated (its ++ js) = iterated its ++ iterated js := List.flatMap_append

/-- Source: none: infrastructure -/
theorem iterated_snoc (its : List Iteration) (i : Iteration) :
    iterated (its ++ [i]) = iterated its ++ i.acts := by
  rw [iterated_append]
  simp [iterated]

/-- The turns of the loop are a run of the machine. Source: `main.cpp` `main` -/
theorem run_turns (h : Run (Iteration.Of rnd logger) m its m') :
    Run (Turn.Of rnd) m (its.map Iteration.turn) m' := by
  induction h with
  | nil => exact .nil
  | snoc init last ih =>
      rw [List.map_append]
      exact .snoc ih last.turn

/-- Every step of the loop is given 200 ms to poll. Source: `main.cpp` `main` -/
theorem pollTimeout_turns (h : Run (Iteration.Of rnd logger) m its m') :
    ∀ i ∈ its, i.turn.pollTimeout = 200 := by
  intro i hi
  obtain ⟨-, v, w, -, -, hstep⟩ := h.at_mem hi
  exact hstep.pollTimeout

/-! ## What is printed -/

/-- Source: `main.cpp` `main` -/
def MainAction.printed : MainAction → List Byte
  | .print s => s
  | _ => []

/-- What the thread writes to `std::cout`. Source: `main.cpp` `main` -/
def cout (acts : List MainAction) : List Byte := acts.flatMap MainAction.printed

/-- Source: none: infrastructure -/
@[simp] theorem cout_append (as bs : List MainAction) : cout (as ++ bs) = cout as ++ cout bs :=
  List.flatMap_append

/-- Source: none: infrastructure -/
@[simp] theorem cout_cons (a : MainAction) (as : List MainAction) :
    cout (a :: as) = a.printed ++ cout as := List.flatMap_cons

/-- Source: none: infrastructure -/
@[simp] theorem cout_nil : cout [] = [] := rfl

/-- Sleeping prints nothing. Source: `main.cpp` `interruptible_sleep` -/
theorem Sleeps.cout_eq {remaining : Millis} {acts : List MainAction} (h : Sleeps remaining acts) :
    cout acts = [] := by
  induction h with
  | passed h => rfl
  | stopped h => rfl
  | chunk h rest ih => simp [MainAction.printed, ih]

/-- A step prints its events. Source: `json_logger.cpp` `JsonEventSink::emit` -/
theorem printed_logged {tr : List Observation} {acts : List MainAction}
    (h : List.Forall₂ (Logged logger) tr acts) :
    Printed logger (cout acts) ((tr.filterMap Observation.event).map Event.record) := by
  induction h with
  | nil => exact .nil
  | cons head tail ih =>
      cases head with
      | event e t => exact .cons t e.record ih
      | call hnone =>
          rw [List.filterMap_cons_none hnone]
          exact ih

/-- The loop prints the events of the run. Source: `main.cpp` `main` -/
theorem printed_iterated (h : Run (Iteration.Of rnd logger) m its m') :
    Printed logger (cout (iterated its)) ((events (its.map Iteration.turn)).map Event.record) := by
  induction h with
  | nil => exact .nil
  | snoc init last ih =>
      rw [iterated_snoc, cout_append, List.map_append, List.map_singleton, events_snoc, List.map_append]
      refine ih.append ?_
      rw [Iteration.acts, cout_cons, cout_append, last.slept.cout_eq, List.append_nil]
      exact printed_logged last.logged

end main

/-! ## The log -/

section log

variable {rnd : ℚ → ℚ} {build : BuildInfo}
  {getaddrinfo : List Byte → List Byte → Option (List Candidate)} {argv : List (List Byte)}
  {getenv : List Byte → Option (List Byte)} {s : Daemon.Settings} {its : List Iteration}
  {acts : List MainAction} {code : Option Int} {cerr : List Byte}

/-- What a daemon with settings `s` has logged after the turns `ls` of its machine.
Source: `main.cpp` `main`, `json_logger.cpp` `JsonEventSink::emit` -/
def Daemon.records (build : BuildInfo) (s : Daemon.Settings) (ls : List Turn) (code : Option Int) :
    List LogRecord :=
  startupRecord build s :: ((events ls).map Event.record ++
    if code = some 0 then [shutdownRecord] else [])

/-- A daemon that goes on with settings has a run of the machine, and has printed its log.
Source: `main.cpp` `main` -/
theorem Daemon.Main.printed (h : Daemon.Main rnd build getaddrinfo argv getenv its acts code cerr)
    (hs : Daemon.startup argv getenv = .goesOn s) :
    (∃ now m, CaptureRun rnd s.config now (its.map Iteration.turn) m) ∧
      Printed s.logger (cout acts) (Daemon.records build s (its.map Iteration.turn) code) := by
  cases h with
  | exits hstartup =>
      rw [hs] at hstartup
      cases hstartup
  | @goesOn s' t now start _ m tail _ _ hstartup hrun hkept hend =>
      obtain rfl : s = s' := by
        rw [hs] at hstartup
        exact Startup.goesOn.inj hstartup
      refine ⟨⟨now, m, run_turns hrun⟩, ?_⟩
      have htail : Printed s.logger (cout tail) (if code = some 0 then [shutdownRecord] else []) := by
        cases hend with
        | unbound hstart => exact .nil
        | running hstart => exact .nil
        | ends t hstart =>
            have hshutdown : Printed s.logger (s.logger.writeRecord t shutdownRecord) [shutdownRecord] :=
              printed_one t shutdownRecord
            simpa [release, MainAction.printed] using hshutdown
      have hlog := ((printed_one t (startupRecord build s)).append (printed_iterated hrun)).append htail
      simpa [beginning, MainAction.printed, records] using hlog

/-- What the daemon logs uses the names and keys of its call sites.
Source: `main.cpp` `main`, `json_logger.cpp` `JsonEventSink::emit` -/
theorem Daemon.oneLine_records (ls : List Turn)
    (hlines : ∀ r ∈ Daemon.records build s ls code, ∀ f ∈ r.2.2, f.OneLine) :
    ∀ r ∈ Daemon.records build s ls code, r.OneLine := by
  intro r hr
  have hfields := hlines r hr
  simp only [records, List.mem_cons, List.mem_append, List.mem_map] at hr
  rcases hr with rfl | ⟨e, -, rfl⟩ | hr
  · exact ⟨by simp [startupRecord, eventNames], by simp [startupRecord, fieldKeys, Field.key], hfields⟩
  · exact ⟨(record_callSite e).1, (record_callSite e).2, hfields⟩
  · split_ifs at hr
    · obtain rfl := List.mem_singleton.mp hr
      exact ⟨by simp [shutdownRecord, eventNames], by simp [shutdownRecord], hfields⟩
    · exact absurd hr List.not_mem_nil

/-- **The log of the daemon is the account of its run.** In whatever state the daemon is, its output is a
sequence of whole lines, and who reads them gets what was logged, as far as the level lets it through and in
its order: the startup with the build and the settings, then the events of the run of the machine, and the
shutdown just if the daemon has ended in the regular way. Only a newline in a string would break this up;
any other control character costs the line it is in.
Source: `main.cpp` `main`, `json_logger.cpp` `JsonLogger::log`, `JsonLogger::Line`, `JsonEventSink::emit` -/
theorem daemon_log (h : Daemon.Main rnd build getaddrinfo argv getenv its acts code cerr)
    (hs : Daemon.startup argv getenv = .goesOn s)
    (hlines : ∀ r ∈ Daemon.records build s (its.map Iteration.turn) code, ∀ f ∈ r.2.2, f.OneLine) :
    (∃ now m, CaptureRun rnd s.config now (its.map Iteration.turn) m) ∧
      readLog (cout acts) = ((Daemon.records build s (its.map Iteration.turn) code).filter
        s.logger.shows).map LogRecord.read ∧
      Lines.pending newline (cout acts) = [] := by
  obtain ⟨hrun, hprinted⟩ := h.printed hs
  exact ⟨hrun, readLog_of_printed hprinted (Daemon.oneLine_records _ hlines)⟩

end log

/-! ## What the log says of the machine -/

section phase

variable {rnd : ℚ → ℚ} {config : DaemonConfig} {now : TimePoint} {ls : List Turn}
  {m : CaptureStateMachine} {build : BuildInfo}
  {getaddrinfo : List Byte → List Byte → Option (List Candidate)} {argv : List (List Byte)}
  {getenv : List Byte → Option (List Byte)} {s : Daemon.Settings} {its : List Iteration}
  {acts : List MainAction} {code : Option Int} {cerr : List Byte}

/-- The phase after an event, as a reader takes it from the name.
Source: `json_logger.cpp` `JsonEventSink::emit` -/
def namedPhase (p : Phase) (name : List Byte) : Phase :=
  if name = text "awaiting_producer" then .waiting
  else if name = text "streaming_started" ∨ name = text "reconnecting" then .streaming
  else if name = text "stall_detected" then .recovering
  else if name = text "device_lost" then .absent
  else p

/-- The phase after a line of the log, as a reader takes it from what stands after the time.
Source: `json_logger.cpp` `JsonEventSink::emit` -/
def readPhase (p : Phase) : Option (List (List Byte × Json.Value)) → Phase
  | some (_ :: (_, .string name) :: _) => namedPhase p name
  | _ => p

/-- The phase that an event leads to. Source: `event.hpp` `EventType` -/
def EventType.leadsTo (p : Phase) : EventType → Phase
  | .awaitingProducer => .waiting
  | .streamingStarted | .reconnecting => .streaming
  | .stallDetected => .recovering
  | .deviceLost => .absent
  | .deviceOpened | .stallCleared | .formatChanged => p

/-- The reader takes the right phase from a name. Source: `json_logger.cpp` `JsonEventSink::emit` -/
theorem namedPhase_record (p : Phase) (e : Event) : namedPhase p e.record.2.1 = e.type.leadsTo p := by
  obtain ⟨type, format, previousFormat, reason⟩ := e
  cases type <;> simp +decide [namedPhase, Event.record, EventType.leadsTo]

/-- The events of a phase step lead to its phase. Source: `capture_state_machine.cpp` -/
theorem PhaseStep.leadsTo {streamed : Prop} {p q : Phase} {es : List Event} (h : PhaseStep streamed p q es) :
    es.foldl (fun p e => e.type.leadsTo p) p = q := by
  cases h with
  | stays p => rfl
  | opens => rfl
  | starts f first => rfl
  | reconnects again => rfl
  | releases => rfl
  | restarts f change changed =>
      rw [List.foldl_cons, List.foldl_append]
      rfl
  | loses was => rfl

/-- **The events of a run lead to the phase of the machine.**
Source: `capture_state_machine.cpp` `CaptureStateMachine::step` -/
theorem CaptureRun.phase_eq (h : CaptureRun rnd config now ls m) :
    m.phase = some ((events ls).foldl (fun p e => e.type.leadsTo p) .absent) := by
  refine Run.history_invariant (fun ls m =>
    m.phase = some ((events ls).foldl (fun p e => e.type.leadsTo p) .absent)) rfl ?_ h
  intro ls m l m' hrun ih hl
  obtain ⟨p, q, hp, hq, hstep⟩ := hl.case.phaseStep (CaptureRun.resting hrun)
  obtain rfl := Option.some.inj (ih.symm.trans hp)
  rw [hq, events_snoc, List.foldl_append]
  exact congrArg some hstep.leadsTo.symm

/-- At the level `info` everything is shown. Source: `main.cpp` `main` -/
theorem Daemon.shows_records (hlevel : s.logLevel.toNat ≤ LogLevel.info.toNat) (ls : List Turn) :
    ∀ r ∈ Daemon.records build s ls code, s.logger.shows r = true := by
  have hinfo : ∀ r ∈ Daemon.records build s ls code, LogLevel.info.toNat ≤ r.1.toNat := by
    intro r hr
    simp only [records, List.mem_cons, List.mem_append, List.mem_map] at hr
    rcases hr with rfl | ⟨e, -, rfl⟩ | hr
    · exact Nat.le_refl _
    · obtain ⟨type, format, previousFormat, reason⟩ := e
      cases type <;> simp [Event.record, LogLevel.toNat]
    · split_ifs at hr
      · obtain rfl := List.mem_singleton.mp hr
        exact Nat.le_refl _
      · exact absurd hr List.not_mem_nil
  intro r hr
  exact decide_eq_true (Nat.le_trans hlevel (hinfo r hr))

/-- The startup and the shutdown say nothing of the phase. Source: `main.cpp` `main` -/
theorem Daemon.namedPhase_records (ls : List Turn) :
    (Daemon.records build s ls code).foldl (fun p r => namedPhase p r.2.1) .absent =
      (events ls).foldl (fun p e => e.type.leadsTo p) .absent := by
  have hname : namedPhase .absent (text "startup") = .absent := by decide
  have hstartup : namedPhase .absent (startupRecord build s).2.1 = .absent := hname
  have hshutdown : ∀ p, namedPhase p shutdownRecord.2.1 = p := by
    intro p
    cases p <;> decide
  have htail : ∀ p, (if code = some 0 then [shutdownRecord] else []).foldl
      (fun p r => namedPhase p r.2.1) p = p := by
    intro p
    split_ifs
    · exact hshutdown p
    · rfl
  rw [records, List.foldl_cons, hstartup, List.foldl_append, htail, List.foldl_map]
  exact List.foldl_ext _ _ _ fun p e _ => namedPhase_record p e

/-- **Who reads the log knows the phase of the machine.** At the level `info` or below, and if no string has
a control character, the names in the log alone tell, whenever the daemon has finished a turn of its loop,
whether the device is absent, waits for a producer, streams or recovers from a stall.
Source: `main.cpp` `main`, `json_logger.cpp` `JsonEventSink::emit`, `capture_state_machine.cpp`
`CaptureStateMachine::step` -/
theorem log_tells_phase (h : Daemon.Main rnd build getaddrinfo argv getenv its acts code cerr)
    (hs : Daemon.startup argv getenv = .goesOn s) (hlevel : s.logLevel.toNat ≤ LogLevel.info.toNat)
    (hplain : ∀ r ∈ Daemon.records build s (its.map Iteration.turn) code, ∀ f ∈ r.2.2, f.Plain) :
    ∃ now m, CaptureRun rnd s.config now (its.map Iteration.turn) m ∧
      m.phase = some ((readLog (cout acts)).foldl readPhase .absent) := by
  obtain ⟨⟨now, m, hrun⟩, hprinted⟩ := h.printed hs
  have hlines : ∀ r ∈ Daemon.records build s (its.map Iteration.turn) code, ∀ f ∈ r.2.2, f.OneLine :=
    fun r hr f hf => (hplain r hr f hf).oneLine
  obtain ⟨hread, -⟩ := readLog_of_printed hprinted (Daemon.oneLine_records _ hlines)
  refine ⟨now, m, hrun, hrun.phase_eq.trans (congrArg some ?_)⟩
  have hall : ∀ r ∈ Daemon.records build s (its.map Iteration.turn) code,
      ∀ p, readPhase p r.read = namedPhase p r.2.1 := by
    intro r hr p
    rw [LogRecord.read, if_pos (hplain r hr)]
    rfl
  rw [hread, List.filter_eq_self.mpr (Daemon.shows_records hlevel _), List.foldl_map,
    List.foldl_ext _ _ _ fun p r hr => hall r hr p, Daemon.namedPhase_records]

end phase

/-! ## A stop is honoured -/

/-- How many milliseconds an action may block: a sleep, or the poll of a dequeue.
Source: `main.cpp` `interruptible_sleep`, `v4l2_capture_device.cpp` `V4L2CaptureDevice::dequeue_frame` -/
def MainAction.blocked : MainAction → Nat
  | .sleep d => d.toNat
  | .call ⟨.device (.dequeueFrame timeout), _⟩ => timeout.toNat
  | _ => 0

/-- How many milliseconds some actions may block. Source: none: infrastructure -/
def blocked (acts : List MainAction) : Nat := (acts.map MainAction.blocked).sum

/-- Source: none: infrastructure -/
@[simp] theorem blocked_append (as bs : List MainAction) :
    blocked (as ++ bs) = blocked as + blocked bs := by
  rw [blocked, List.map_append, List.sum_append]
  rfl

/-- Source: none: infrastructure -/
@[simp] theorem blocked_cons (a : MainAction) (as : List MainAction) :
    blocked (a :: as) = a.blocked + blocked as := rfl

/-- Source: none: infrastructure -/
@[simp] theorem blocked_nil : blocked [] = 0 := rfl

/-- Source: none: infrastructure -/
theorem blocked_le_of_suffix {as bs : List MainAction} (h : as <:+ bs) : blocked as ≤ blocked bs := by
  obtain ⟨before, rfl⟩ := h
  rw [blocked_append]
  exact Nat.le_add_left _ _

section stop

variable {rnd : ℚ → ℚ} {logger : JsonLogger} {t : Millis} {m m' : CaptureStateMachine}
  {tr : List Observation} {out : StepOutcome} {i : Iteration} {acts after : List MainAction}

/-- **A step polls once at most**, and exchanges little.
Source: `capture_state_machine.cpp` `CaptureStateMachine::step` -/
theorem CaptureStateMachine.StepCase.blocked_le (h : StepCase rnd t m tr out m') :
    blocked (tr.map .call) ≤ t.toNat ∧ tr.length ≤ 8 := by
  cases h with
  | @recoveringStarts now now' f hs hr hw =>
      unfold recoveryEvents
      split_ifs <;> simp [MainAction.blocked]
  | _ => simp [MainAction.blocked]

/-- To print an event blocks no more than to emit it. Source: `json_logger.cpp` `JsonEventSink::emit` -/
theorem blocked_logged (h : List.Forall₂ (Logged logger) tr acts) :
    blocked acts = blocked (tr.map .call) := by
  induction h with
  | nil => rfl
  | cons head tail ih =>
      rw [List.map_cons, blocked_cons, blocked_cons, ih]
      cases head with
      | event e t => rfl
      | call hnone => rfl

/-- After the last look that finds the flag clear. Source: none: infrastructure -/
theorem suffix_of_look {before rest : List MainAction} (h : after <:+ before ++ .look false :: rest)
    (hstop : .look false ∉ after) : after <:+ rest := by
  have hrest : .look false :: rest <:+ before ++ .look false :: rest := List.suffix_append _ _
  rcases List.suffix_or_suffix_of_suffix h hrest with hafter | hafter
  · rcases List.suffix_cons_iff.mp hafter with rfl | hafter
    · exact absurd List.mem_cons_self hstop
    · exact hafter
  · exact absurd (hafter.subset List.mem_cons_self) hstop

/-- **A wait is cut short**: after `before`, what is left of it once no look finds the flag clear is one chunk
at most. Source: `main.cpp` `interruptible_sleep` -/
theorem Sleeps.cut {remaining : Millis} (h : Sleeps remaining acts) {before tail : List MainAction}
    {ms n : Nat} (hms : 100 ≤ ms) (hn : 1 ≤ n) (hblocked : blocked before ≤ ms) (hlength : before.length ≤ n)
    (hafter : after <:+ before ++ acts ++ tail) (hstop : .look false ∉ after) :
    blocked after ≤ ms + blocked tail ∧ after.length ≤ n + 1 + tail.length := by
  induction h generalizing before with
  | passed h =>
      have hle := blocked_le_of_suffix hafter
      have hlen := hafter.length_le
      simp only [List.append_nil, blocked_append, List.length_append] at hle hlen
      omega
  | stopped h =>
      have hle := blocked_le_of_suffix hafter
      have hlen := hafter.length_le
      simp only [blocked_append, blocked_cons, blocked_nil, MainAction.blocked, List.length_append,
        List.length_singleton] at hle hlen
      omega
  | @chunk remaining acts h rest ih =>
      have hsleep : blocked [.sleep (min remaining 100)] ≤ ms := by
        simp only [blocked_cons, blocked_nil, MainAction.blocked]
        omega
      have hlook : after <:+ before ++ .look false :: ([.sleep (min remaining 100)] ++ acts ++ tail) := by
        simpa using hafter
      exact ih hsleep hn (suffix_of_look hlook hstop)

end stop

section stop

variable {rnd : ℚ → ℚ} {build : BuildInfo}
  {getaddrinfo : List Byte → List Byte → Option (List Candidate)} {argv : List (List Byte)}
  {getenv : List Byte → Option (List Byte)} {s : Daemon.Settings} {its : List Iteration}
  {acts tail before after : List MainAction} {code : Option Int} {cerr : List Byte}

/-- After the loop the thread does not wait. Source: `main.cpp` `main` -/
theorem Daemon.Ending.blocked_eq (h : Daemon.Ending getaddrinfo s its tail code cerr) :
    blocked tail = 0 ∧ tail.length ≤ 7 := by
  cases h with
  | unbound hstart => exact ⟨rfl, by decide⟩
  | running hstart => exact ⟨rfl, by decide⟩
  | ends t hstart => exact ⟨rfl, Nat.le_refl 7⟩

/-- **A stop is honoured.** Cut what the main thread does at any moment after which no look finds the flag of
the signal handler clear, whatever it is in the middle of. Then it does sixteen things more at most, and
all its polling and sleeping together, what it is in the middle of included, may take 200 ms at most, besides
what the HTTP thread takes to be joined.
Source: `main.cpp` `main`, `interruptible_sleep`, `capture_state_machine.cpp` `CaptureStateMachine::step` -/
theorem stop_honoured (h : Daemon.Main rnd build getaddrinfo argv getenv its acts code cerr)
    (hcut : acts = before ++ after) (hstop : .look false ∉ after) :
    blocked after ≤ 200 ∧ after.length ≤ 16 := by
  have hafter : after <:+ acts := ⟨before, hcut.symm⟩
  cases h with
  | exits hstartup =>
      have hle := blocked_le_of_suffix hafter
      have hlen := hafter.length_le
      simp only [blocked_cons, blocked_nil, MainAction.blocked, List.length_singleton] at hle hlen
      omega
  | @goesOn s t now start _ m tail _ _ hstartup hrun hkept hend =>
      obtain ⟨htail, htaillen⟩ := hend.blocked_eq
      rcases List.eq_nil_or_concat' its with rfl | ⟨init, i, rfl⟩
      · have hle := blocked_le_of_suffix hafter
        have hlen := hafter.length_le
        simp only [iterated, List.flatMap_nil, Daemon.beginning, blocked_append, blocked_cons, blocked_nil,
          MainAction.blocked, List.length_append, List.length_cons, List.length_nil] at hle hlen
        omega
      · obtain ⟨v, -, hstep⟩ := run_snoc.mp hrun
        obtain ⟨hpoll, hexchange⟩ := hstep.turn.case.blocked_le
        rw [← blocked_logged hstep.logged, hstep.pollTimeout] at hpoll
        rw [hstep.logged.length_eq] at hexchange
        have hlook : after <:+ Daemon.beginning build s t now start ++ iterated init ++
            .look false :: (i.logged ++ i.slept ++ tail) := by
          rw [iterated_snoc, Iteration.acts] at hafter
          simpa using hafter
        have hlast := suffix_of_look hlook hstop
        obtain ⟨hle, hlen⟩ := hstep.slept.cut (by decide) (by decide) hpoll hexchange hlast hstop
        rw [htail] at hle
        exact ⟨hle, hlen.trans (by omega)⟩

end stop

/-! ## No step comes too early -/

/-- Source: `main.cpp` `main`, `clock.hpp` `SteadyClock::steady_now` -/
def MainAction.reading : MainAction → Option TimePoint
  | .call o => o.reading
  | _ => none

/-- The time an action ends at, at least: a reading tells it, and a sleep lets it pass.
Source: `clock.hpp` `SteadyClock::steady_now`, `main.cpp` `interruptible_sleep` -/
def MainAction.ticks (now : TimePoint) : MainAction → TimePoint
  | .call o => o.reading.getD now
  | .sleep d => now + d.toNanos
  | _ => now

/-- The time some actions end at, at least. Source: none: infrastructure -/
def timeAfter (now : TimePoint) (acts : List MainAction) : TimePoint := acts.foldl MainAction.ticks now

/-- From `now` on, the clock never goes back, and a sleep is never cut short.
Source: `clock.hpp` `SteadyClock::steady_now`, `main.cpp` `interruptible_sleep` -/
def OnClock : TimePoint → List MainAction → Prop
  | _, [] => True
  | now, a :: acts => (∀ r, a.reading = some r → now ≤ r) ∧ OnClock (a.ticks now) acts

section clock

variable {rnd : ℚ → ℚ} {logger : JsonLogger} {m m' : CaptureStateMachine} {i : Iteration}
  {its : List Iteration} {now : TimePoint} {acts bs : List MainAction} {tr : List Observation}

/-- Source: none: infrastructure -/
theorem timeAfter_append (now : TimePoint) (acts bs : List MainAction) :
    timeAfter now (acts ++ bs) = timeAfter (timeAfter now acts) bs := List.foldl_append

/-- Source: none: infrastructure -/
theorem onClock_append :
    OnClock now (acts ++ bs) ↔ OnClock now acts ∧ OnClock (timeAfter now acts) bs := by
  induction acts generalizing now with
  | nil => exact ⟨fun h => ⟨trivial, h⟩, And.right⟩
  | cons a acts ih =>
      rw [List.cons_append, OnClock, OnClock, ih, and_assoc]
      rfl

/-- The time of a step is that of its readings. Source: `capture_state_machine.cpp` -/
theorem onClock_logged (h : List.Forall₂ (Logged logger) tr acts) (hclock : OnClock now acts) :
    (now :: tr.filterMap Observation.reading).IsChain (· ≤ ·) ∧
      timeAfter now acts = (tr.filterMap Observation.reading).getLastD now := by
  induction h generalizing now with
  | nil => exact ⟨List.isChain_singleton now, rfl⟩
  | @cons o a tr acts head tail ih =>
      obtain ⟨hread, hrest⟩ := hclock
      cases head with
      | event e t => exact ih hrest
      | call hnone =>
          cases hr : o.reading with
          | none =>
              have htime : (MainAction.call o).ticks now = now := by
                rw [MainAction.ticks, hr, Option.getD_none]
              rw [htime] at hrest
              rw [List.filterMap_cons_none hr, timeAfter, List.foldl_cons, htime]
              exact ih hrest
          | some r =>
              have htime : (MainAction.call o).ticks now = r := by
                rw [MainAction.ticks, hr, Option.getD_some]
              rw [htime] at hrest
              obtain ⟨hchain, hlast⟩ := ih hrest
              rw [List.filterMap_cons_some hr, timeAfter, List.foldl_cons, htime, List.getLastD_cons]
              exact ⟨List.isChain_cons_cons.mpr ⟨hread r hr, hchain⟩, hlast⟩

/-- A wait that is not cut short lets all its time pass. Source: `main.cpp` `interruptible_sleep` -/
theorem Sleeps.timeAfter_eq {remaining : Millis} (h : Sleeps remaining acts) (hgoes : .look true ∉ acts) :
    timeAfter now acts = now + (max remaining 0).toNanos := by
  induction h generalizing now with
  | passed h =>
      rw [max_eq_right h]
      simp [timeAfter, Millis.toNanos]
  | stopped h => exact absurd List.mem_cons_self hgoes
  | @chunk remaining acts h rest ih =>
      have hrest := @ih (now + (min remaining 100).toNanos) fun hmem => hgoes (by simp [hmem])
      have hsum : ∀ a r : Int, 0 < r →
          a + min r 100 * 1000000 + max (r - min r 100) 0 * 1000000 = a + max r 0 * 1000000 := by
        intro a r hr
        omega
      exact hrest.trans (hsum now remaining h)

/-- The time of a turn of the loop is that of the readings of its step and, unless its wait is cut short, of
the whole wait. Source: `main.cpp` `main`, `interruptible_sleep` -/
theorem Iteration.Of.timeAfter_eq (h : Iteration.Of rnd logger m i m') (hclock : OnClock now i.acts) :
    (now :: i.turn.readings).IsChain (· ≤ ·) ∧ (.look true ∉ i.acts → timeAfter now i.acts =
      i.turn.readings.getLastD now + (max i.turn.outcome.recommendedWait 0).toNanos) := by
  have hlogged : OnClock now i.logged := (onClock_append.mp hclock.2).1
  obtain ⟨hchain, hlast⟩ := onClock_logged h.logged hlogged
  refine ⟨hchain, fun hgoes => ?_⟩
  have hslept : .look true ∉ i.slept := fun hmem =>
    hgoes (List.mem_cons_of_mem _ (List.mem_append_right _ hmem))
  calc timeAfter now i.acts
      = timeAfter (timeAfter now i.logged) i.slept :=
        timeAfter_append now i.logged i.slept
    _ = timeAfter now i.logged + (max i.turn.outcome.recommendedWait 0).toNanos :=
        h.slept.timeAfter_eq hslept
    _ = i.turn.readings.getLastD now + (max i.turn.outcome.recommendedWait 0).toNanos := by
        rw [hlast, Turn.readings]

/-- Outside a stream, the deadline has come. Source: `capture_state_machine.hpp` member `next_attempt_at_` -/
def Due (m : CaptureStateMachine) (now : TimePoint) : Prop := m.state ≠ .streaming → m.nextAttemptAt ≤ now

/-- **After the wait that a step recommends the next deadline has come.**
Source: `capture_state_machine.cpp` `CaptureStateMachine::step` -/
theorem RetryStep.due {l : Turn} (h : RetryStep m l m') (hdue : Due m now)
    (hchain : (now :: l.readings).IsChain (· ≤ ·)) :
    Due m' (l.readings.getLastD now + (max l.outcome.recommendedWait 0).toNanos) := by
  have hwait : 0 ≤ (max l.outcome.recommendedWait 0).toNanos :=
    Int.mul_nonneg (le_max_right _ _) (by decide)
  have hlast : ∀ r, l.readings.getLast? = some r → l.readings.getLastD now = r := by
    intro r hr
    rw [List.getLastD_eq_getLast?, hr, Option.getD_some]
  have hfails : (∃ r, l.readings.getLast? = some r ∧
      m'.nextAttemptAt = r + l.outcome.recommendedWait.toNanos) →
      m'.nextAttemptAt ≤ l.readings.getLastD now + (max l.outcome.recommendedWait 0).toNanos := by
    rintro ⟨r, hr, hdeadline⟩
    rw [hlast r hr, hdeadline]
    exact Int.add_le_add_left (Int.mul_le_mul_of_nonneg_right (le_max_left _ _) (by decide)) r
  intro hs
  cases h with
  | keeps hb hf state absent waiting deadline =>
      rw [deadline]
      have hle := (hdue (state ▸ hs)).trans (le_getLastD_of_isChain hchain now List.mem_cons_self)
      exact hle.trans (Int.le_add_of_nonneg_right hwait)
  | begins hb absent waiting deadline =>
      obtain ⟨r, hr, hle⟩ := deadline (List.isChain_cons.mp hchain).2
      rw [hlast r hr]
      exact hle.trans (Int.le_add_of_nonneg_right hwait)
  | failsAbsent hb hf was state absent waiting wait deadline => exact hfails deadline
  | failsWaiting hb hf was state absent waiting wait deadline => exact hfails deadline

/-- **A turn of the loop** that begins when the deadline has come makes an attempt, and ends when the next one
has come, unless its wait is cut short.
Source: `main.cpp` `main`, `interruptible_sleep`, `capture_state_machine.cpp` `CaptureStateMachine::step` -/
theorem Iteration.Of.due (h : Iteration.Of rnd logger m i m') (hm : Resting m) (hdue : Due m now)
    (hclock : OnClock now i.acts) :
    (i.turn.pre.state ≠ .streaming → i.turn.attempts = true) ∧
      (.look true ∉ i.acts → Due m' (timeAfter now i.acts)) := by
  obtain ⟨hchain, htime⟩ := h.timeAfter_eq hclock
  have hcase := h.turn.case
  have hretry := hcase.retryStep
  obtain ⟨rfl, rfl, -⟩ := id h.turn
  refine ⟨fun hs => ?_, fun hgoes => ?_⟩
  · obtain ⟨r, hr, hattempt⟩ := hcase.attempts_iff hm hs
    exact hattempt.mpr ((hdue hs).trans (hchain.rel_head? hr))
  · rw [htime hgoes]
    exact hretry.due hdue hchain

/-- Before a look that finds the flag clear it was never seen set.
Source: `main.cpp` `g_stop_requested`, `handle_signal` -/
theorem FlagKept.before (h : FlagKept (acts ++ .look false :: bs)) : .look true ∉ acts :=
  h acts (.look false) bs rfl rfl

/-- Source: none: infrastructure -/
theorem FlagKept.left (h : FlagKept (acts ++ bs)) : FlagKept acts := (atEach_append.mp h).1

/-- **The turns of the loop wait long enough.** Source: `main.cpp` `main`, `interruptible_sleep` -/
theorem due_iterated {before : List MainAction} (h : Run (Iteration.Of rnd logger) m its m')
    (hm : Resting m) (hdue : Due m now) (hkept : FlagKept (before ++ iterated its))
    (hclock : OnClock now (iterated its)) :
    (∀ i ∈ its, i.turn.pre.state ≠ .streaming → i.turn.attempts = true) ∧
      (.look true ∉ iterated its → Due m' (timeAfter now (iterated its))) := by
  induction h with
  | nil => exact ⟨fun i hi => absurd hi List.not_mem_nil, fun _ => hdue⟩
  | @snoc its t u i init last ih =>
      rw [iterated_snoc] at hkept hclock ⊢
      rw [← List.append_assoc] at hkept
      obtain ⟨hinit, hlast⟩ := onClock_append.mp hclock
      obtain ⟨hattempts, hdueInit⟩ := ih hkept.left hinit
      have hgoes : .look true ∉ iterated its := fun hmem =>
        FlagKept.before hkept (List.mem_append_right _ hmem)
      have ht : Resting t := (run_turns init).invariant hm fun hm hl => hm.keeps hl.case
      obtain ⟨hattempt, hdueLast⟩ := last.due ht (hdueInit hgoes) hlast
      refine ⟨?_, ?_⟩
      · intro j hj
        rcases List.mem_append.mp hj with hj | hj
        · exact hattempts j hj
        · obtain rfl := List.mem_singleton.mp hj
          exact hattempt
      · intro hmem
        rw [timeAfter_append]
        exact hdueLast fun hi => hmem (List.mem_append_right _ hi)

end clock

section clock

variable {rnd : ℚ → ℚ} {build : BuildInfo}
  {getaddrinfo : List Byte → List Byte → Option (List Candidate)} {argv : List (List Byte)}
  {getenv : List Byte → Option (List Byte)} {its : List Iteration} {acts : List MainAction}
  {code : Option Int} {cerr : List Byte} {now : TimePoint}

/-- **No step of the daemon comes too early.** On a clock that does not go back and counts what is slept,
every step that the daemon takes outside a stream makes an attempt: it never wakes up before a deadline, only
to wait again.
Source: `main.cpp` `main`, `interruptible_sleep`, `capture_state_machine.cpp` `CaptureStateMachine::step` -/
theorem steps_attempt (h : Daemon.Main rnd build getaddrinfo argv getenv its acts code cerr)
    (hclock : OnClock now acts) :
    ∀ i ∈ its, i.turn.pre.state ≠ .streaming → i.turn.attempts = true := by
  cases h with
  | exits hstartup => exact fun i hi => absurd hi List.not_mem_nil
  | @goesOn s t constructed start _ m tail _ _ hstartup hrun hkept hend =>
      obtain ⟨hbefore, -⟩ := onClock_append.mp hclock
      obtain ⟨hbeginning, hloop⟩ := onClock_append.mp hbefore
      -- the deadline is the reading of the constructor, and `start_time` is read after it
      have hstart : constructed ≤ start := hbeginning.2.2.1 start rfl
      have hdue : Due (.new rnd s.config constructed) start := fun _ => hstart
      exact (due_iterated hrun resting_new hdue hkept.left hloop).1

end clock

/-! ## However the daemon ends -/

/-- Source: `main.cpp` `main` -/
def MainAction.observation : MainAction → Option Observation
  | .call o => some o
  | _ => none

/-- The calls of the device and of the clock, with their answers. Source: `main.cpp` `main` -/
def called (acts : List MainAction) : List Observation := acts.filterMap MainAction.observation

section release

variable {rnd : ℚ → ℚ} {logger : JsonLogger} {config : DaemonConfig} {now : TimePoint}
  {m m' : CaptureStateMachine} {its : List Iteration} {acts bs : List MainAction}
  {tr : List Observation} {u v : DeviceUse}

/-- Source: none: infrastructure -/
@[simp] theorem called_append (acts bs : List MainAction) : called (acts ++ bs) = called acts ++ called bs :=
  List.filterMap_append

/-- Source: `main.cpp` `interruptible_sleep` -/
theorem Sleeps.called_eq {remaining : Millis} (h : Sleeps remaining acts) : called acts = [] := by
  induction h with
  | passed h => rfl
  | stopped h => rfl
  | chunk h rest ih => exact ih

/-- The calls of a step are legal where its exchange is: an event is no call.
Source: `json_logger.cpp` `JsonEventSink::emit` -/
theorem legal_called (h : List.Forall₂ (Logged logger) tr acts)
    (hlegal : tr.foldlM DeviceUse.legal u = some v) : (called acts).foldlM DeviceUse.legal u = some v := by
  induction h generalizing u with
  | nil => exact hlegal
  | cons head tail ih =>
      rw [List.foldlM_cons] at hlegal
      obtain ⟨w, hw, hrest⟩ := Option.bind_eq_some_iff.mp hlegal
      cases head with
      | event e t =>
          have hsame : u = w := by
            obtain ⟨typestate, stopped⟩ := u
            cases stopped with
            | false => exact Option.some.inj hw
            | true => cases hw
          subst hsame
          exact ih hrest
      | call hnone =>
          refine Option.bind_eq_some_iff.mpr ⟨w, hw, ih hrest⟩

/-- The calls of the loop are legal. Source: `main.cpp` `main` -/
theorem legal_iterated (h : Run (Iteration.Of rnd logger) (.new rnd config now) its m) :
    (called (iterated its)).foldlM DeviceUse.legal {} = some ⟨m.typestate, false⟩ := by
  induction h with
  | nil => rfl
  | @snoc its t u i init last ih =>
      have huses := last.turn.case.uses (CaptureRun.resting (run_turns init))
      have hcalled : called i.acts = called i.logged := by
        show called (i.logged ++ i.slept) = called i.logged
        rw [called_append, last.slept.called_eq, List.append_nil]
      rw [iterated_snoc, called_append, hcalled, List.foldlM_append, ih]
      exact legal_called last.logged huses

/-- However the main thread ends, its calls have been legal and the device is closed.
Source: `main.cpp` `main`, `v4l2_capture_device.cpp` `V4L2CaptureDevice::~V4L2CaptureDevice` -/
theorem Daemon.Main.legal_called {build : BuildInfo}
    {getaddrinfo : List Byte → List Byte → Option (List Candidate)} {argv : List (List Byte)}
    {getenv : List Byte → Option (List Byte)} {status : Int} {cerr : List Byte}
    (h : Daemon.Main rnd build getaddrinfo argv getenv its acts (some status) cerr) :
    (called acts).foldlM DeviceUse.legal {} = some {} := by
  cases h with
  | exits hstartup => rfl
  | @goesOn s t now start _ m tail _ _ hstartup hrun hkept hend =>
      have hbefore : (called (Daemon.beginning build s t now start ++ iterated its)).foldlM
          DeviceUse.legal {} = some ⟨m.typestate, false⟩ := by
        rw [called_append, List.foldlM_append]
        exact legal_iterated hrun
      rw [called_append, List.foldlM_append, hbefore]
      show (called tail).foldlM DeviceUse.legal ⟨m.typestate, false⟩ = some {}
      cases hend with
      | unbound hstart =>
          obtain rfl := run_nil.mp hrun
          rfl
      | ends t hstart =>
          have hstate := (CaptureRun.resting (run_turns hrun)).state
          unfold CaptureStateMachine.typestate
          rcases hstate with hs | hs | hs
          · rw [hs]
            rfl
          · rw [hs]
            cases m.recovering <;> rfl
          · rw [hs]
            rfl

/-- **However the daemon ends**, by a bad command line, an address that cannot be bound or a stop, and whatever
the kernel has answered, it holds no descriptor and no mapping, none has been closed or unmapped twice, and it
has kept the contract of the buffers; there is none left if the driver has kept the contract too.
Source: `main.cpp` `main`, `v4l2_capture_device.cpp` `V4L2CaptureDevice`, `capture_state_machine.cpp`
`CaptureStateMachine::step` -/
theorem daemon_releases {build : BuildInfo}
    {getaddrinfo : List Byte → List Byte → Option (List Candidate)} {argv : List (List Byte)}
    {getenv : List Byte → Option (List Byte)} {status : Int} {cerr : List Byte} {path : String}
    {replies : List Reply} {d : V4L2CaptureDevice}
    (h : Daemon.Main rnd build getaddrinfo argv getenv its acts (some status) cerr)
    (hd : Follows v4l2.env (.new path replies) (called acts) d) :
    d.kernel.held = some {} ∧ bufferContract.Keeps {} d.kernel.log ∧
      (bufferContract.Relies {} d.kernel.log → bufferContract.after {} d.kernel.log = {}) := by
  have hnew : Queues {} (.new path replies) := ⟨owns_new, Contract.triple_nil _⟩
  have hend : Queues {} d :=
    hd.invariant_of_accepts (fun hs hlegal henv => hs.keeps hlegal henv) hnew h.legal_called
  obtain ⟨hkeeps, hafter⟩ := hend.calls {} rfl
  have hfd : ¬ 0 ≤ d.fd := by
    rw [hend.owns.fd]
    exact Bool.false_ne_true
  refine ⟨?_, hkeeps, hafter⟩
  rw [hend.owns.consistent.held, V4L2CaptureDevice.descriptor, if_neg hfd, hend.owns.buffers rfl]

end release

/-! ## A daemon whose device comes late

The first `open` fails. After 200 ms the device is opened, and then a stop is requested. -/

section late

/-- The settings that are the defaults. Source: `main.cpp` `main` -/
def defaultSettings : Daemon.Settings := ⟨text "/dev/video40", text "127.0.0.1:9843", {}, .info⟩

/-- Source: `main.cpp` `main` -/
theorem defaultSettings_startup :
    Daemon.startup [text "hamstercamd"] (fun _ => none) = .goesOn defaultSettings :=
  Daemon.goesOn_iff.mpr ⟨[], rfl, rfl, rfl, rfl, by decide, by decide, by decide, by decide, by decide, rfl⟩

/-- The two turns of the loop. Source: none: infrastructure -/
def lateIterations : List Iteration :=
  [⟨failedOpen, [.call (.steady 0), .call (.opened .absent)],
      [.look false, .sleep 100, .look false, .sleep 100]⟩,
    ⟨retriedOpen, [.call (.steady 200000000), .call (.opened .opened),
      .print (JsonEventSink.emit defaultSettings.logger {} { type := .deviceOpened }),
      .print (JsonEventSink.emit defaultSettings.logger {} { type := .awaitingProducer })], []⟩]

/-- What the main thread does up to the end of the loop. Source: none: infrastructure -/
def lateLoop : List MainAction :=
  Daemon.beginning ⟨text "1.0.0", text "deadbee"⟩ defaultSettings {} 0 0 ++ iterated lateIterations

/-- What it does after the loop. Source: none: infrastructure -/
def lateEnd : List MainAction :=
  .look true :: (Daemon.release ++ .join ::
    .print (defaultSettings.logger.writeRecord {} Daemon.shutdownRecord) :: Daemon.release)

/-- Source: none: infrastructure -/
theorem late_main : Daemon.Main id ⟨text "1.0.0", text "deadbee"⟩ (fun _ _ => some [⟨3, 0, 0⟩])
    [text "hamstercamd"] (fun _ => none) lateIterations (lateLoop ++ lateEnd) (some 0) [] := by
  have hfailed : Turn.Of id (.new id {} 0) failedOpen openFailed :=
    Turn.of_case (.absentFails rfl (Int.le_refl 0))
  have hrun : Run (Iteration.Of id defaultSettings.logger) (.new id {} 0) lateIterations openRetried := by
    refine run_cons.mpr ⟨openFailed, ⟨hfailed, rfl, ?_, ?_⟩,
      run_cons.mpr ⟨openRetried, ⟨retriedOpen_turn, rfl, ?_, ?_⟩, .nil⟩⟩
    · exact .cons (.call rfl) (.cons (.call rfl) .nil)
    · exact .chunk (by decide) (.chunk (by decide) (.passed (by decide)))
    · exact .cons (.call rfl) (.cons (.call rfl) (.cons (.event _ {}) (.cons (.event _ {}) .nil)))
    · exact .passed (by decide)
  refine .goesOn defaultSettings_startup hrun ?_ (.ends {} rfl)
  simp [FlagKept, Daemon.beginning, iterated, lateIterations, Iteration.acts, lateEnd, Daemon.release]

/-- What it logs. Source: none: infrastructure -/
theorem late_records : Daemon.records ⟨text "1.0.0", text "deadbee"⟩ defaultSettings
    (lateIterations.map Iteration.turn) (some 0) =
      [Daemon.startupRecord ⟨text "1.0.0", text "deadbee"⟩ defaultSettings,
        (.info, text "device_opened", []), (.info, text "awaiting_producer", []),
        Daemon.shutdownRecord] := rfl

/-- It logs four lines. Source: `main.cpp` `main` -/
theorem daemon_log_late : (readLog (cout (lateLoop ++ lateEnd))).length = 4 := by
  obtain ⟨-, hread, -⟩ := daemon_log late_main defaultSettings_startup (by
    rw [late_records]
    decide)
  rw [hread, late_records]
  rfl

/-- Its log says that it waits for a producer. Source: `main.cpp` `main` -/
theorem log_tells_phase_late :
    (readLog (cout (lateLoop ++ lateEnd))).foldl readPhase .absent = .waiting := by
  obtain ⟨now, m, hrun, hphase⟩ := log_tells_phase late_main defaultSettings_startup (Nat.le_refl 1) (by
    rw [late_records]
    decide)
  have hwaiting := hrun.phase_eq.symm.trans hphase
  exact (Option.some.inj hwaiting).symm

/-- A stop before its last look is honoured within 200 ms. Source: `main.cpp` `main` -/
theorem stop_honoured_late : blocked lateEnd ≤ 200 ∧ lateEnd.length ≤ 16 := by
  have hcut : lateLoop ++ lateEnd = lateLoop ++ lateEnd := rfl
  exact stop_honoured late_main hcut (by simp [lateEnd, Daemon.release])

/-- It opens the device at once, and again after the wait. Source: `main.cpp` `main` -/
theorem steps_attempt_late : failedOpen.attempts = true ∧ retriedOpen.attempts = true := by
  have hclock : OnClock 0 (lateLoop ++ lateEnd) := by
    simp [OnClock, lateLoop, lateEnd, lateIterations, iterated, Iteration.acts, Daemon.beginning,
      Daemon.release, MainAction.reading, MainAction.ticks, Millis.toNanos]
  have hattempts := steps_attempt late_main hclock
  exact ⟨hattempts _ List.mem_cons_self (by decide),
    hattempts _ (List.mem_cons_of_mem _ List.mem_cons_self) (by decide)⟩

/-- On a kernel that opens the device the second time, it closes the device.
Source: `main.cpp` `main`, `v4l2_capture_device.cpp` `V4L2CaptureDevice` -/
theorem daemon_releases_late :
    ∃ d, Follows v4l2.env (.new "/dev/video40" [KernelCall.failure, obliging])
      (called (lateLoop ++ lateEnd)) d ∧ d.kernel.held = some {} := by
  obtain ⟨d, hd⟩ : ∃ d, Follows v4l2.env (.new "/dev/video40" [KernelCall.failure, obliging])
      (called (lateLoop ++ lateEnd)) d := by
    exact ⟨_, .cons rfl (.cons rfl (.cons rfl (.cons rfl (.cons rfl (.cons rfl (.cons rfl (.cons rfl
      (.cons rfl (.cons rfl (.nil _))))))))))⟩
  exact ⟨d, hd, (daemon_releases late_main hd).1⟩

end late

end Hamstercam
