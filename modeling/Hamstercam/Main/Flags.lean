import Mathlib.Logic.Function.Basic
import Hamstercam.Exporter.ProgressParser

/-!
# The command line

`parse_flags` and `resolve`, which the two programs have in the same words: `main.cpp` for the daemon
and `exporter_main.cpp` for the exporter. `parseFlags` has the set of flags and the text after an
unknown name as parameters; `Daemon.parseFlags` and `Exporter.parseFlags` are the two functions.

* A failure is the message on `cerr`. `out` is read only after a success.
* `Setting known` — a flag with its value, and in which of the two spellings it is written;
  `arguments` writes a list of them, `lastValue` is what they say.
* `parseFlagsLoop_arguments` reads such a list back, `arguments_of_parseFlagsLoop` finds the list behind
  every success.
-/

namespace Hamstercam

/-! ## The scanner -/

/-- A `std::map` from names to values. Source: `main.cpp` `parse_flags` -/
abbrev Flags : Type := List Byte → Option (List Byte)

/-- Source: `main.cpp` `parse_flags`, `exporter_main.cpp` `parse_flags` -/
def requiresValue (name : List Byte) : List Byte := text "flag " ++ name ++ text " requires a value\n"

/-- Source: `main.cpp` `parse_flags`, `exporter_main.cpp` `parse_flags` -/
def unknownFlag (name afterUnknown : List Byte) : List Byte :=
  text "unknown flag: " ++ name ++ afterUnknown

/-- What stands before the first `=`, or the whole argument.
Source: `main.cpp` `parse_flags`, `exporter_main.cpp` `parse_flags` -/
def flagName (arg : List Byte) : List Byte :=
  match find arg equalsSign 0 with
  | some eq => arg.take eq
  | none => arg

/-- The loop over `argv[i]`: an argument without `=` takes the next one as its value.
Source: `main.cpp` `parse_flags`, `exporter_main.cpp` `parse_flags` -/
def parseFlagsLoop (known : List (List Byte)) (afterUnknown : List Byte) :
    List (List Byte) → Flags → Except (List Byte) Flags
  | [], out => .ok out
  | arg :: args, out =>
      if flagName arg ∉ known then .error (unknownFlag (flagName arg) afterUnknown)
      else
        match find arg equalsSign 0, args with
        | some eq, args =>
            parseFlagsLoop known afterUnknown args
              (Function.update out (flagName arg) (some (arg.drop (eq + 1))))
        | none, [] => .error (requiresValue (flagName arg))
        | none, value :: args =>
            parseFlagsLoop known afterUnknown args (Function.update out (flagName arg) (some value))

/-- `argv[0]` is the program.
Source: `main.cpp` `parse_flags`, `exporter_main.cpp` `parse_flags` -/
def parseFlags (known : List (List Byte)) (afterUnknown : List Byte) (argv : List (List Byte)) :
    Except (List Byte) Flags :=
  parseFlagsLoop known afterUnknown argv.tail fun _ => none

/-- A flag wins over the environment variable, and that over the default.
Source: `main.cpp` `resolve`, `exporter_main.cpp` `resolve` -/
def resolve (flags : Flags) (getenv : List Byte → Option (List Byte))
    (flagName envName defaultValue : List Byte) : List Byte :=
  match flags flagName, getenv envName with
  | some value, _ => value
  | none, some env => env
  | none, none => defaultValue

/-! ## The two programs -/

/-- Source: `main.cpp` `known_flags` -/
def Daemon.knownFlags : List (List Byte) :=
  [text "--device", text "--metrics-addr", text "--expected-fps", text "--stall-multiple",
    text "--buffer-count", text "--reconnect-max-backoff", text "--awaiting-producer-max-backoff",
    text "--log-level"]

/-- Source: `main.cpp` `parse_flags` -/
def Daemon.parseFlags (argv : List (List Byte)) : Except (List Byte) Flags :=
  Hamstercam.parseFlags knownFlags (text "\n") argv

/-- Source: `exporter_main.cpp` `known_flags` -/
def Exporter.knownFlags : List (List Byte) :=
  [text "--progress-socket", text "--metrics-addr", text "--log-level"]

/-- Source: `exporter_main.cpp` `print_usage` -/
def Exporter.usage : List Byte :=
  text "hamstercam-exporter -- exposes an ffmpeg producer's progress as Prometheus metrics.\n" ++
  text "\n" ++
  text "ffmpeg writes progress to a unix socket; this listens on that socket and serves\n" ++
  text "what it reports over HTTP. Point ffmpeg at it with -progress unix://<path>.\n" ++
  text "\n" ++
  text "  --progress-socket PATH   socket to listen on\n" ++
  text "                           (default /run/hamstercam/ffmpeg-progress.sock)\n" ++
  text "  --metrics-addr HOST:PORT where to serve /metrics (default 127.0.0.1:9844)\n" ++
  text "  --log-level LEVEL        debug, info, warn, or error (default info)\n" ++
  text "  --help                   this text\n" ++
  text "\n" ++
  text "Every flag can also be set by environment variable:\n" ++
  text "HAMSTERCAM_PROGRESS_SOCKET, HAMSTERCAM_METRICS_ADDR, HAMSTERCAM_LOG_LEVEL.\n" ++
  text "A flag wins over the matching variable.\n"

/-- Source: `exporter_main.cpp` `parse_flags` -/
def Exporter.parseFlags (argv : List (List Byte)) : Except (List Byte) Flags :=
  Hamstercam.parseFlags knownFlags (text "\n\n" ++ usage) argv

/-! ## Settings and how they are written -/

/-- `--flag=value` or `--flag value`. Source: none: infrastructure -/
inductive Spelling
  | joined
  | separate
  deriving DecidableEq

/-- A known flag with a value, as it is written. Source: none: infrastructure -/
structure Setting (known : List (List Byte)) where
  /-- The flag. -/
  flag : List Byte
  /-- Its value: any text. -/
  value : List Byte
  /-- How the two are written. -/
  spelling : Spelling
  /-- The flag is one of the program's. -/
  isKnown : flag ∈ known

variable {known : List (List Byte)} {afterUnknown : List Byte}

/-- The arguments of one setting. Source: none: infrastructure -/
def Setting.arguments (s : Setting known) : List (List Byte) :=
  match s.spelling with
  | .joined => [s.flag ++ equalsSign :: s.value]
  | .separate => [s.flag, s.value]

/-- The arguments of a list of settings. Source: none: infrastructure -/
def arguments (ss : List (Setting known)) : List (List Byte) := ss.flatMap Setting.arguments

/-- What settings say of a flag: the value of its last occurrence. Source: none: infrastructure -/
def lastValue (ss : List (Setting known)) : Flags :=
  fun flag => (ss.reverse.find? fun s => s.flag == flag).map Setting.value

/-- Source: none: infrastructure -/
theorem arguments_cons (s : Setting known) (ss : List (Setting known)) :
    arguments (s :: ss) = s.arguments ++ arguments ss := List.flatMap_cons

/-! ## One argument -/

/-- No flag of the two programs has an `=` in its name. Source: none: infrastructure -/
theorem Daemon.equals_not_mem : ∀ flag ∈ Daemon.knownFlags, equalsSign ∉ flag := by
  decide

/-- Source: none: infrastructure -/
theorem Exporter.equals_not_mem : ∀ flag ∈ Exporter.knownFlags, equalsSign ∉ flag := by
  decide

/-- An argument with `=` falls into a name and a value. Source: none: infrastructure -/
theorem find_joined {flag value : List Byte} (h : equalsSign ∉ flag) :
    find (flag ++ equalsSign :: value) equalsSign 0 = some flag.length := by
  rw [find_eq_some (List.drop_zero) h, Nat.zero_add]

/-- Source: none: infrastructure -/
theorem flagName_joined {flag value : List Byte} (h : equalsSign ∉ flag) :
    flagName (flag ++ equalsSign :: value) = flag := by
  simp only [flagName, find_joined h, List.take_left]

/-- Source: none: infrastructure -/
theorem find_separate {flag : List Byte} (h : equalsSign ∉ flag) : find flag equalsSign 0 = none :=
  find_eq_none (by simpa using h)

/-- Source: none: infrastructure -/
theorem flagName_separate {flag : List Byte} (h : equalsSign ∉ flag) : flagName flag = flag := by
  simp only [flagName, find_separate h]

/-- An argument in which the search succeeds is its name, `=` and the rest.
Source: none: infrastructure -/
theorem eq_joined {arg : List Byte} {eq : Nat} (h : find arg equalsSign 0 = some eq) :
    arg = flagName arg ++ equalsSign :: arg.drop (eq + 1) := by
  have hlt := (find_bounds h).2
  have hget : arg[eq] = equalsSign := by
    rw [find, List.drop_zero] at h
    obtain ⟨j, hj, rfl⟩ := Option.map_eq_some_iff.mp h
    simpa using (List.idxOf?_eq_some_iff.mp hj).2.1
  have hname : flagName arg = arg.take eq := by simp only [flagName, h]
  rw [hname, ← hget, ← List.drop_eq_getElem_cons hlt, List.take_append_drop]

/-! ## The loop -/

/-- Source: `main.cpp` `parse_flags`, `exporter_main.cpp` `parse_flags` -/
theorem parseFlagsLoop_joined {arg : List Byte} {eq : Nat} (hname : flagName arg ∈ known)
    (hfind : find arg equalsSign 0 = some eq) (args : List (List Byte)) (out : Flags) :
    parseFlagsLoop known afterUnknown (arg :: args) out =
      parseFlagsLoop known afterUnknown args
        (Function.update out (flagName arg) (some (arg.drop (eq + 1)))) := by
  conv_lhs => unfold parseFlagsLoop
  simp only [hname, not_true_eq_false, if_false, hfind]

/-- Source: `main.cpp` `parse_flags`, `exporter_main.cpp` `parse_flags` -/
theorem parseFlagsLoop_separate {arg : List Byte} (hname : flagName arg ∈ known)
    (hfind : find arg equalsSign 0 = none) (value : List Byte) (args : List (List Byte))
    (out : Flags) :
    parseFlagsLoop known afterUnknown (arg :: value :: args) out =
      parseFlagsLoop known afterUnknown args (Function.update out (flagName arg) (some value)) := by
  conv_lhs => unfold parseFlagsLoop
  simp only [hname, not_true_eq_false, if_false, hfind]

/-- One setting in front is stored, and the loop goes on with the others.
Source: `main.cpp` `parse_flags`, `exporter_main.cpp` `parse_flags` -/
theorem parseFlagsLoop_setting (hknown : ∀ flag ∈ known, equalsSign ∉ flag) (s : Setting known)
    (args : List (List Byte)) (out : Flags) :
    parseFlagsLoop known afterUnknown (s.arguments ++ args) out =
      parseFlagsLoop known afterUnknown args (Function.update out s.flag (some s.value)) := by
  have hflag := hknown s.flag s.isKnown
  unfold Setting.arguments
  cases s.spelling with
  | joined =>
      have hname : flagName (s.flag ++ equalsSign :: s.value) = s.flag := flagName_joined hflag
      have hdrop : (s.flag ++ equalsSign :: s.value).drop (s.flag.length + 1) = s.value := by
        simp
      show parseFlagsLoop known afterUnknown ((s.flag ++ equalsSign :: s.value) :: args) out = _
      rw [parseFlagsLoop_joined (hname.symm ▸ s.isKnown) (find_joined hflag), hname, hdrop]
  | separate =>
      have hname := flagName_separate hflag
      show parseFlagsLoop known afterUnknown (s.flag :: s.value :: args) out = _
      rw [parseFlagsLoop_separate (hname.symm ▸ s.isKnown) (find_separate hflag), hname]

/-- What is stored for a flag is its last value, or what was there before.
Source: `main.cpp` `parse_flags`, `exporter_main.cpp` `parse_flags` -/
theorem parseFlagsLoop_arguments (hknown : ∀ flag ∈ known, equalsSign ∉ flag)
    (ss : List (Setting known)) (out : Flags) :
    parseFlagsLoop known afterUnknown (arguments ss) out =
      .ok fun flag => (lastValue ss flag).or (out flag) := by
  induction ss generalizing out with
  | nil => rfl
  | cons s ss ih =>
      rw [arguments_cons, parseFlagsLoop_setting hknown, ih]
      congr 1
      funext flag
      unfold lastValue
      rw [List.reverse_cons, List.find?_append]
      cases (ss.reverse.find? fun s => s.flag == flag) with
      | some later => simp
      | none =>
          by_cases h : s.flag = flag
          · simp [h]
          · simp [h, Function.update_of_ne (Ne.symm h)]

/-- Behind every success there is a list of settings.
Source: `main.cpp` `parse_flags`, `exporter_main.cpp` `parse_flags` -/
theorem arguments_of_parseFlagsLoop {args : List (List Byte)} {out out' : Flags}
    (h : parseFlagsLoop known afterUnknown args out = .ok out') :
    ∃ ss : List (Setting known), args = arguments ss := by
  fun_induction parseFlagsLoop known afterUnknown args out with
  | case1 => exact ⟨[], rfl⟩
  | case2 => cases h
  | case3 arg out hname eq args hfind ih =>
      obtain ⟨ss, rfl⟩ := ih h
      refine ⟨⟨flagName arg, arg.drop (eq + 1), .joined, not_not.mp hname⟩ :: ss, ?_⟩
      rw [arguments_cons, Setting.arguments, ← eq_joined hfind]
      rfl
  | case4 => cases h
  | case5 arg out hname value args hfind ih =>
      obtain ⟨ss, rfl⟩ := ih h
      have harg : flagName arg = arg := by simp only [flagName, hfind]
      refine ⟨⟨arg, value, .separate, harg ▸ not_not.mp hname⟩ :: ss, ?_⟩
      rw [arguments_cons]
      rfl

/-- The arguments of settings, and no others, are accepted, with the last value of each flag.
Source: `main.cpp` `parse_flags`, `exporter_main.cpp` `parse_flags` -/
theorem parseFlags_iff (hknown : ∀ flag ∈ known, equalsSign ∉ flag) (program : List Byte) :
    (∀ ss : List (Setting known),
        parseFlags known afterUnknown (program :: arguments ss) = .ok (lastValue ss)) ∧
      ∀ args, (∃ message, parseFlags known afterUnknown (program :: args) = .error message) ↔
        ¬ ∃ ss : List (Setting known), args = arguments ss := by
  have hread : ∀ ss : List (Setting known),
      parseFlags known afterUnknown (program :: arguments ss) = .ok (lastValue ss) := by
    intro ss
    rw [parseFlags, List.tail_cons, parseFlagsLoop_arguments hknown]
    simp
  refine ⟨hread, fun args => ⟨?_, fun h => ?_⟩⟩
  · rintro ⟨message, hmessage⟩ ⟨ss, rfl⟩
    rw [hread ss] at hmessage
    cases hmessage
  · cases hparse : parseFlags known afterUnknown (program :: args) with
    | error message => exact ⟨message, rfl⟩
    | ok out => exact absurd (arguments_of_parseFlagsLoop hparse) h

/-- **Command lines round-trip**, for both programs: the arguments of any settings are accepted, with
the last value of each flag, and every other list of arguments is rejected.
Source: `main.cpp` `parse_flags`, `exporter_main.cpp` `parse_flags` -/
theorem command_lines_round_trip (program : List Byte) :
    ((∀ ss : List (Setting Daemon.knownFlags),
        Daemon.parseFlags (program :: arguments ss) = .ok (lastValue ss)) ∧
      ∀ args, (∃ message, Daemon.parseFlags (program :: args) = .error message) ↔
        ¬ ∃ ss : List (Setting Daemon.knownFlags), args = arguments ss) ∧
    (∀ ss : List (Setting Exporter.knownFlags),
        Exporter.parseFlags (program :: arguments ss) = .ok (lastValue ss)) ∧
      ∀ args, (∃ message, Exporter.parseFlags (program :: args) = .error message) ↔
        ¬ ∃ ss : List (Setting Exporter.knownFlags), args = arguments ss :=
  ⟨parseFlags_iff Daemon.equals_not_mem program, parseFlags_iff Exporter.equals_not_mem program⟩

end Hamstercam
