import Hamstercam.Logging.JsonLogger
import Hamstercam.Main.Values

/-!
# What the programs start with

The first part of `main` in `main.cpp` and in `exporter_main.cpp`, up to the settings that the rest works
with.

* `Startup σ` — the program exits, with what it prints, or goes on with settings `σ`. `Daemon.startup` and
  `Exporter.startup` are the two of them.
* `valueOfFlag` — the value of a setting: its last flag, else its environment variable, else its default.
* `daemon_startup_iff`, `exporter_startup_iff` — with which settings the programs go on, for every command
  line and every environment; whatever can be accepted can be set by flags alone, and every other command
  line ends the program with a message.
-/

namespace Hamstercam

open Decimal

/-! ## From the command line to the settings -/

/-- How `main` begins: it exits with what it has printed, or goes on.
Source: `main.cpp` `main`, `exporter_main.cpp` `main` -/
inductive Startup (σ : Type)
  | exits (code : Int) (cout cerr : List Byte)
  | goesOn (settings : σ)
  deriving DecidableEq

/-- Source: `main.cpp` `main` -/
structure Daemon.Settings where
  /-- `device_path` -/
  devicePath : List Byte
  /-- `metrics_addr` -/
  metricsAddr : List Byte
  /-- `config` -/
  config : DaemonConfig
  /-- `log_level` -/
  logLevel : LogLevel

/-- Source: `main.cpp` `main` -/
def Daemon.startup (argv : List (List Byte)) (getenv : List Byte → Option (List Byte)) :
    Startup Daemon.Settings :=
  match Daemon.parseFlags argv with
  | .error message => .exits 1 [] message
  | .ok flags =>
      let devicePath := resolve flags getenv (text "--device") (text "HAMSTERCAM_DEVICE")
        (text "/dev/video40")
      let metricsAddr := resolve flags getenv (text "--metrics-addr") (text "HAMSTERCAM_METRICS_ADDR")
        (text "127.0.0.1:9843")
      let logLevelStr := resolve flags getenv (text "--log-level") (text "HAMSTERCAM_LOG_LEVEL")
        (text "info")
      match daemonConfig flags getenv with
      | none => .exits 1 [] (text "invalid flag value\n")
      | some config =>
          match parseLogLevel logLevelStr with
          | none => .exits 1 [] (text "invalid --log-level: " ++ logLevelStr ++ text "\n")
          | some logLevel => .goesOn ⟨devicePath, metricsAddr, config, logLevel⟩

/-- Source: `exporter_main.cpp` `main` -/
structure Exporter.Settings where
  /-- `socket_path` -/
  socketPath : List Byte
  /-- `metrics_addr` -/
  metricsAddr : List Byte
  /-- `log_level` -/
  logLevel : LogLevel

/-- The usage is asked for before the flags are parsed. Source: `exporter_main.cpp` `main` -/
def Exporter.startup (argv : List (List Byte)) (getenv : List Byte → Option (List Byte)) :
    Startup Exporter.Settings :=
  if argv.tail.any fun arg => arg = text "--help" ∨ arg = text "-h" then .exits 0 Exporter.usage []
  else
    match Exporter.parseFlags argv with
    | .error message => .exits 1 [] message
    | .ok flags =>
        let socketPath := resolve flags getenv (text "--progress-socket")
          (text "HAMSTERCAM_PROGRESS_SOCKET") (text "/run/hamstercam/ffmpeg-progress.sock")
        let metricsAddr := resolve flags getenv (text "--metrics-addr") (text "HAMSTERCAM_METRICS_ADDR")
          (text "127.0.0.1:9844")
        let logLevelStr := resolve flags getenv (text "--log-level") (text "HAMSTERCAM_LOG_LEVEL")
          (text "info")
        match parseLogLevel logLevelStr with
        | none => .exits 1 [] (text "invalid --log-level: " ++ logLevelStr ++ text "\n")
        | some logLevel => .goesOn ⟨socketPath, metricsAddr, logLevel⟩

/-! ## The value of a setting -/

section values

variable {known : List (List Byte)} {afterUnknown : List Byte} {program : List Byte}
  {args : List (List Byte)} {getenv : List Byte → Option (List Byte)}

/-- The value of a setting: what the settings of the command line say last of its flag, else the
environment variable, else the default. Source: `main.cpp` `resolve`, `exporter_main.cpp` `resolve` -/
def valueOfFlag (ss : List (Setting known)) (getenv : List Byte → Option (List Byte))
    (flag env default : String) : List Byte :=
  ((lastValue ss (text flag)).or (getenv (text env))).getD (text default)

/-- Source: `main.cpp` `resolve`, `exporter_main.cpp` `resolve` -/
theorem resolve_lastValue (ss : List (Setting known)) (flag env default : String) :
    resolve (lastValue ss) getenv (text flag) (text env) (text default) =
      valueOfFlag ss getenv flag env default := by
  unfold resolve valueOfFlag
  cases lastValue ss (text flag) with
  | some value => rfl
  | none => cases getenv (text env) <;> rfl

/-- The command lines that are accepted are those of settings.
Source: `main.cpp` `parse_flags`, `exporter_main.cpp` `parse_flags` -/
theorem parseFlags_ok_iff (hknown : ∀ flag ∈ known, equalsSign ∉ flag) {flags : Flags} :
    parseFlags known afterUnknown (program :: args) = .ok flags ↔
      ∃ ss : List (Setting known), args = arguments ss ∧ flags = lastValue ss := by
  constructor
  · intro h
    obtain ⟨ss, rfl⟩ := arguments_of_parseFlagsLoop h
    rw [(parseFlags_iff hknown program).1 ss] at h
    exact ⟨ss, rfl, (Except.ok.inj h).symm⟩
  · rintro ⟨ss, rfl, rfl⟩
    exact (parseFlags_iff hknown program).1 ss

/-- What is rejected is rejected with a message.
Source: `main.cpp` `parse_flags`, `exporter_main.cpp` `parse_flags` -/
theorem parseFlags_message {argv : List (List Byte)} {message : List Byte}
    (h : parseFlags known afterUnknown argv = .error message) : message ≠ [] := by
  unfold parseFlags at h
  generalize argv.tail = args at h
  generalize (fun _ => none : Flags) = out at h
  fun_induction parseFlagsLoop known afterUnknown args out with
  | case1 => cases h
  | case2 =>
      cases h
      exact List.append_ne_nil_of_left_ne_nil (List.append_ne_nil_of_left_ne_nil (by decide) _) _
  | case3 arg out hname eq args hfind ih => exact ih h
  | case4 =>
      cases h
      exact List.append_ne_nil_of_left_ne_nil (List.append_ne_nil_of_left_ne_nil (by decide) _) _
  | case5 arg out hname value args hfind ih => exact ih h

end values

/-! ## The daemon -/

section daemon

variable {program : List Byte} {args : List (List Byte)} {getenv : List Byte → Option (List Byte)}

/-- The settings `s` are the values of the flags. Source: `main.cpp` `main` -/
structure Daemon.Settings.Chosen (s : Daemon.Settings) (ss : List (Setting Daemon.knownFlags))
    (getenv : List Byte → Option (List Byte)) : Prop where
  devicePath : s.devicePath = valueOfFlag ss getenv "--device" "HAMSTERCAM_DEVICE" "/dev/video40"
  metricsAddr : s.metricsAddr =
    valueOfFlag ss getenv "--metrics-addr" "HAMSTERCAM_METRICS_ADDR" "127.0.0.1:9843"
  logLevel : s.logLevel.levelString =
    valueOfFlag ss getenv "--log-level" "HAMSTERCAM_LOG_LEVEL" "info"
  expectedFps : some s.config.expectedFps =
    parseU32 (valueOfFlag ss getenv "--expected-fps" "HAMSTERCAM_EXPECTED_FPS" "15")
  stallMultiple : some s.config.stallMultiple =
    parseU32 (valueOfFlag ss getenv "--stall-multiple" "HAMSTERCAM_STALL_MULTIPLE" "10")
  bufferCount : some s.config.bufferCount =
    parseU32 (valueOfFlag ss getenv "--buffer-count" "HAMSTERCAM_BUFFER_COUNT" "4")
  reconnectMaxBackoff : some s.config.reconnectMaxBackoff =
    parseDurationMs (valueOfFlag ss getenv "--reconnect-max-backoff"
      "HAMSTERCAM_RECONNECT_MAX_BACKOFF" "30s")
  awaitingProducerMaxBackoff : some s.config.awaitingProducerMaxBackoff =
    parseDurationMs (valueOfFlag ss getenv "--awaiting-producer-max-backoff"
      "HAMSTERCAM_AWAITING_PRODUCER_MAX_BACKOFF" "2s")
  reconnectInitialBackoff : s.config.reconnectInitialBackoff = 200

/-- Source: `main.cpp` `main` -/
theorem daemonConfig_lastValue {ss : List (Setting Daemon.knownFlags)} {config : DaemonConfig} :
    daemonConfig (lastValue ss) getenv = some config ↔
      some config.expectedFps =
        parseU32 (valueOfFlag ss getenv "--expected-fps" "HAMSTERCAM_EXPECTED_FPS" "15") ∧
      some config.stallMultiple =
        parseU32 (valueOfFlag ss getenv "--stall-multiple" "HAMSTERCAM_STALL_MULTIPLE" "10") ∧
      some config.bufferCount =
        parseU32 (valueOfFlag ss getenv "--buffer-count" "HAMSTERCAM_BUFFER_COUNT" "4") ∧
      some config.reconnectMaxBackoff = parseDurationMs (valueOfFlag ss getenv
        "--reconnect-max-backoff" "HAMSTERCAM_RECONNECT_MAX_BACKOFF" "30s") ∧
      some config.awaitingProducerMaxBackoff = parseDurationMs (valueOfFlag ss getenv
        "--awaiting-producer-max-backoff" "HAMSTERCAM_AWAITING_PRODUCER_MAX_BACKOFF" "2s") ∧
      config.reconnectInitialBackoff = 200 := by
  simp only [daemonConfig, resolve_lastValue, Option.bind_eq_bind, Option.pure_def,
    Option.bind_eq_some_iff, Option.some.injEq]
  constructor
  · rintro ⟨_, h₁, _, h₂, _, h₃, _, h₄, _, h₅, rfl⟩
    exact ⟨h₁.symm, h₂.symm, h₃.symm, h₄.symm, h₅.symm, rfl⟩
  · rintro ⟨h₁, h₂, h₃, h₄, h₅, hinitial⟩
    refine ⟨_, h₁.symm, _, h₂.symm, _, h₃.symm, _, h₄.symm, _, h₅.symm, ?_⟩
    obtain ⟨_, _, _, _, _, _⟩ := config
    cases hinitial
    rfl

/-- With which settings the daemon goes on. Source: `main.cpp` `main` -/
theorem Daemon.goesOn_iff {s : Daemon.Settings} :
    Daemon.startup (program :: args) getenv = .goesOn s ↔
      ∃ ss : List (Setting Daemon.knownFlags), args = arguments ss ∧ s.Chosen ss getenv := by
  unfold Daemon.startup
  constructor
  · intro h
    split at h
    · cases h
    · next flags hflags =>
        obtain ⟨ss, rfl, rfl⟩ := (parseFlags_ok_iff Daemon.equals_not_mem).mp hflags
        dsimp only at h
        split at h
        · cases h
        · next config hconfig =>
            split at h
            · cases h
            · next level hlevel =>
                cases h
                obtain ⟨h₁, h₂, h₃, h₄, h₅, h₆⟩ := daemonConfig_lastValue.mp hconfig
                rw [resolve_lastValue] at hlevel
                refine ⟨ss, rfl, ?_, ?_, (parseLogLevel_iff.mp hlevel).symm, h₁, h₂, h₃, h₄, h₅, h₆⟩
                · exact resolve_lastValue ss _ _ _
                · exact resolve_lastValue ss _ _ _
  · rintro ⟨ss, rfl, h⟩
    have hflags : Daemon.parseFlags (program :: arguments ss) = .ok (lastValue ss) :=
      (parseFlags_ok_iff Daemon.equals_not_mem).mpr ⟨ss, rfl, rfl⟩
    have hconfig := daemonConfig_lastValue.mpr ⟨h.expectedFps, h.stallMultiple, h.bufferCount,
      h.reconnectMaxBackoff, h.awaitingProducerMaxBackoff, h.reconnectInitialBackoff⟩
    have hlevel := parseLogLevel_iff.mpr h.logLevel.symm
    rw [hflags]
    simp only [hconfig, resolve_lastValue, hlevel, ← h.devicePath, ← h.metricsAddr]

/-- The daemon goes on, or ends with a message and prints nothing else. Source: `main.cpp` `main` -/
theorem Daemon.startup_cases (argv : List (List Byte)) :
    (∃ s, Daemon.startup argv getenv = .goesOn s) ∨
      ∃ message, Daemon.startup argv getenv = .exits 1 [] message ∧ message ≠ [] := by
  unfold Daemon.startup
  split
  · next message hparse => exact .inr ⟨message, rfl, parseFlags_message hparse⟩
  · dsimp only
    split
    · exact .inr ⟨_, rfl, by decide⟩
    · split
      · refine .inr ⟨_, rfl, ?_⟩
        exact List.append_ne_nil_of_left_ne_nil (List.append_ne_nil_of_left_ne_nil (by decide) _) _
      · exact .inl ⟨_, rfl⟩

/-- Settings of the command line with these values, and texts for the two durations.
Source: `main.cpp` `known_flags` -/
def Daemon.Settings.asFlags (s : Daemon.Settings) (reconnectMax awaitingMax : List Byte) :
    List (Setting Daemon.knownFlags) :=
  [⟨text "--device", s.devicePath, .separate, by simp [Daemon.knownFlags]⟩,
    ⟨text "--metrics-addr", s.metricsAddr, .separate, by simp [Daemon.knownFlags]⟩,
    ⟨text "--expected-fps", decimal s.config.expectedFps.toNat, .joined, by simp [Daemon.knownFlags]⟩,
    ⟨text "--stall-multiple", decimal s.config.stallMultiple.toNat, .joined,
      by simp [Daemon.knownFlags]⟩,
    ⟨text "--buffer-count", decimal s.config.bufferCount.toNat, .joined, by simp [Daemon.knownFlags]⟩,
    ⟨text "--reconnect-max-backoff", reconnectMax, .joined, by simp [Daemon.knownFlags]⟩,
    ⟨text "--awaiting-producer-max-backoff", awaitingMax, .joined, by simp [Daemon.knownFlags]⟩,
    ⟨text "--log-level", s.logLevel.levelString, .joined, by simp [Daemon.knownFlags]⟩]

/-- **With which settings the daemon goes on.** For every command line and every environment: it goes on
just when its arguments are settings of known flags and, of the values that these, the environment and the
defaults give, the numbers, durations and the log level can be read; and then with these values. Every other
command line ends it with a message. All settings that it can ever have can be set by flags, whatever the
environment is.
Source: `main.cpp` `main`, `parse_flags`, `resolve`, `parse_u32`, `parse_duration_ms`,
`json_logger.cpp` `parse_log_level` -/
theorem daemon_startup_iff (program : List Byte) (getenv : List Byte → Option (List Byte)) :
    (∀ args s, Daemon.startup (program :: args) getenv = .goesOn s ↔
      ∃ ss : List (Setting Daemon.knownFlags), args = arguments ss ∧ s.Chosen ss getenv) ∧
    (∀ args, (∃ message, Daemon.startup (program :: args) getenv = .exits 1 [] message ∧
        message ≠ []) ↔
      ¬ ∃ (s : Daemon.Settings) (ss : List (Setting Daemon.knownFlags)),
        args = arguments ss ∧ s.Chosen ss getenv) ∧
    ∀ s : Daemon.Settings, s.config.Accepted →
      ∃ args, Daemon.startup (program :: args) getenv = .goesOn s := by
  refine ⟨fun args s => Daemon.goesOn_iff, fun args => ?_, fun s hs => ?_⟩
  · simp only [← @Daemon.goesOn_iff program]
    constructor
    · rintro ⟨message, hexits, -⟩ ⟨s, hgoes⟩
      rw [hexits] at hgoes
      cases hgoes
    · intro h
      exact (Daemon.startup_cases (program :: args)).resolve_left h
  · obtain ⟨hinitial, ⟨max, hmax⟩, wait, hwait⟩ := s.config.accepted_iff.mp hs
    refine ⟨arguments (s.asFlags max wait), Daemon.goesOn_iff.mpr ⟨s.asFlags max wait, rfl, ?_⟩⟩
    exact ⟨rfl, rfl, rfl, (parseU32_decimal _).symm, (parseU32_decimal _).symm,
      (parseU32_decimal _).symm, hmax.symm, hwait.symm, hinitial⟩

end daemon

/-! ## The exporter -/

section exporter

variable {program : List Byte} {args : List (List Byte)} {getenv : List Byte → Option (List Byte)}

/-- An argument asks for the usage. Source: `exporter_main.cpp` `main` -/
def Exporter.AsksForUsage (args : List (List Byte)) : Prop :=
  text "--help" ∈ args ∨ text "-h" ∈ args

/-- The settings `s` are the values of the flags. Source: `exporter_main.cpp` `main` -/
structure Exporter.Settings.Chosen (s : Exporter.Settings)
    (ss : List (Setting Exporter.knownFlags)) (getenv : List Byte → Option (List Byte)) : Prop where
  socketPath : s.socketPath = valueOfFlag ss getenv "--progress-socket" "HAMSTERCAM_PROGRESS_SOCKET"
    "/run/hamstercam/ffmpeg-progress.sock"
  metricsAddr : s.metricsAddr =
    valueOfFlag ss getenv "--metrics-addr" "HAMSTERCAM_METRICS_ADDR" "127.0.0.1:9844"
  logLevel : s.logLevel.levelString =
    valueOfFlag ss getenv "--log-level" "HAMSTERCAM_LOG_LEVEL" "info"

/-- Source: `exporter_main.cpp` `main` -/
theorem Exporter.any_asksForUsage :
    (args.any fun arg => arg = text "--help" ∨ arg = text "-h") = true ↔ Exporter.AsksForUsage args := by
  simp only [List.any_eq_true, decide_eq_true_eq, Exporter.AsksForUsage]
  constructor
  · rintro ⟨arg, harg, rfl | rfl⟩
    · exact .inl harg
    · exact .inr harg
  · rintro (h | h)
    · exact ⟨_, h, .inl rfl⟩
    · exact ⟨_, h, .inr rfl⟩

/-- With which settings the exporter goes on. Source: `exporter_main.cpp` `main` -/
theorem Exporter.goesOn_iff {s : Exporter.Settings} :
    Exporter.startup (program :: args) getenv = .goesOn s ↔ ¬ Exporter.AsksForUsage args ∧
      ∃ ss : List (Setting Exporter.knownFlags), args = arguments ss ∧ s.Chosen ss getenv := by
  unfold Exporter.startup
  rw [List.tail_cons]
  by_cases husage : Exporter.AsksForUsage args
  · rw [if_pos (Exporter.any_asksForUsage.mpr husage)]
    exact ⟨nofun, fun h => absurd husage h.1⟩
  · rw [if_neg fun h => husage (Exporter.any_asksForUsage.mp h)]
    constructor
    · intro h
      split at h
      · cases h
      · next flags hflags =>
          obtain ⟨ss, rfl, rfl⟩ := (parseFlags_ok_iff Exporter.equals_not_mem).mp hflags
          dsimp only at h
          split at h
          · cases h
          · next level hlevel =>
              cases h
              rw [resolve_lastValue] at hlevel
              refine ⟨husage, ss, rfl, ?_, ?_, (parseLogLevel_iff.mp hlevel).symm⟩
              · exact resolve_lastValue ss _ _ _
              · exact resolve_lastValue ss _ _ _
    · rintro ⟨-, ss, rfl, h⟩
      have hflags : Exporter.parseFlags (program :: arguments ss) = .ok (lastValue ss) :=
        (parseFlags_ok_iff Exporter.equals_not_mem).mpr ⟨ss, rfl, rfl⟩
      have hlevel := parseLogLevel_iff.mpr h.logLevel.symm
      rw [hflags]
      simp only [resolve_lastValue, hlevel, ← h.socketPath, ← h.metricsAddr]

/-- The exporter prints its usage, goes on, or ends with a message.
Source: `exporter_main.cpp` `main` -/
theorem Exporter.startup_cases : ¬ Exporter.AsksForUsage args →
    (∃ s, Exporter.startup (program :: args) getenv = .goesOn s) ∨
      ∃ message, Exporter.startup (program :: args) getenv = .exits 1 [] message ∧ message ≠ [] := by
  intro husage
  unfold Exporter.startup
  rw [List.tail_cons, if_neg fun h => husage (Exporter.any_asksForUsage.mp h)]
  split
  · next message hparse => exact .inr ⟨message, rfl, parseFlags_message hparse⟩
  · dsimp only
    split
    · refine .inr ⟨_, rfl, ?_⟩
      exact List.append_ne_nil_of_left_ne_nil (List.append_ne_nil_of_left_ne_nil (by decide) _) _
    · exact .inl ⟨_, rfl⟩

/-- Settings of the command line with these values. Source: `exporter_main.cpp` `known_flags` -/
def Exporter.Settings.asFlags (s : Exporter.Settings) : List (Setting Exporter.knownFlags) :=
  [⟨text "--progress-socket", s.socketPath, .joined, by simp [Exporter.knownFlags]⟩,
    ⟨text "--metrics-addr", s.metricsAddr, .joined, by simp [Exporter.knownFlags]⟩,
    ⟨text "--log-level", s.logLevel.levelString, .joined, by simp [Exporter.knownFlags]⟩]

/-- **With which settings the exporter goes on.** For every command line and every environment: an argument
that asks for the usage, even as the value of a flag or beside a flag that is not known, gets it and nothing
else happens; else the exporter goes on just when its arguments are settings of known flags and the log level
can be read, with the values that these, the environment and the defaults give; every other command line
ends it with a message. All settings can be set by flags, whatever the environment is.
Source: `exporter_main.cpp` `main`, `parse_flags`, `resolve`, `json_logger.cpp` `parse_log_level` -/
theorem exporter_startup_iff (program : List Byte) (getenv : List Byte → Option (List Byte)) :
    (∀ args, Exporter.startup (program :: args) getenv = .exits 0 Exporter.usage [] ↔
      Exporter.AsksForUsage args) ∧
    (∀ args s, Exporter.startup (program :: args) getenv = .goesOn s ↔
      ¬ Exporter.AsksForUsage args ∧
        ∃ ss : List (Setting Exporter.knownFlags), args = arguments ss ∧ s.Chosen ss getenv) ∧
    (∀ args, (∃ message, Exporter.startup (program :: args) getenv = .exits 1 [] message ∧
        message ≠ []) ↔
      ¬ Exporter.AsksForUsage args ∧
        ¬ ∃ (s : Exporter.Settings) (ss : List (Setting Exporter.knownFlags)),
          args = arguments ss ∧ s.Chosen ss getenv) ∧
    ∀ s : Exporter.Settings, ∃ args, Exporter.startup (program :: args) getenv = .goesOn s := by
  have husage : ∀ args, Exporter.AsksForUsage args →
      Exporter.startup (program :: args) getenv = .exits 0 Exporter.usage [] := by
    intro args h
    unfold Exporter.startup
    rw [List.tail_cons, if_pos (Exporter.any_asksForUsage.mpr h)]
  refine ⟨fun args => ⟨fun h => ?_, husage args⟩, fun args s => Exporter.goesOn_iff,
    fun args => ?_, fun s => ?_⟩
  · by_contra hnot
    obtain ⟨s, hs⟩ | ⟨message, hs, -⟩ := @Exporter.startup_cases program args getenv hnot
    · rw [hs] at h
      cases h
    · rw [hs] at h
      cases h
  · constructor
    · rintro ⟨message, hexits, -⟩
      refine ⟨fun h => ?_, fun ⟨s, ss, h⟩ => ?_⟩
      · rw [husage args h] at hexits
        cases hexits
      · by_cases hasks : Exporter.AsksForUsage args
        · rw [husage args hasks] at hexits
          cases hexits
        · rw [Exporter.goesOn_iff.mpr ⟨hasks, ss, h⟩] at hexits
          cases hexits
    · rintro ⟨hasks, hnot⟩
      refine (Exporter.startup_cases hasks).resolve_left fun ⟨s, hs⟩ => hnot ?_
      exact ⟨s, (Exporter.goesOn_iff.mp hs).2⟩
  · refine ⟨arguments s.asFlags, Exporter.goesOn_iff.mpr ⟨?_, s.asFlags, rfl, ⟨rfl, rfl, rfl⟩⟩⟩
    -- every argument has an `=`, and so is no request for the usage
    have hequals : ∀ arg ∈ arguments s.asFlags, equalsSign ∈ arg := by
      simp [arguments, Exporter.Settings.asFlags, Setting.arguments]
    rintro (h | h)
    · exact absurd (hequals _ h) (by decide)
    · exact absurd (hequals _ h) (by decide)

end exporter

end Hamstercam
