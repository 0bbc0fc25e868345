import Hamstercam.Capture.Machine
import Hamstercam.Lib.Unsigned
import Hamstercam.Main.Flags

/-!
# The values of flags

`parse_u32` and `parse_duration_ms` of `main.cpp`, over `std::stoul` as `Lib/Unsigned.lean` has it, and
the settings that `main` makes of its flags.

* `parseU32_eq_some` — exactly what `parse_u32` accepts: blanks, a sign and a numeral below 2^64, of
  which the low 32 bits are taken.
* `parseDurationMs_eq_some` — the same for a duration: such a text, then `ms` or `s`.
* `MisreadNumber s` — the texts that are accepted and are not the numeral of a 32-bit number. The flags
  mean what they say on all others, and only on them.
* `daemonConfig` — the `DaemonConfig` of `main`; `DaemonConfig.Accepted` are those it can get.
-/

namespace Hamstercam

open Decimal Unsigned

/-! ## Numbers and durations -/

/-- Source: `main.cpp` `parse_u32` -/
def parseU32 (s : List Byte) : Option UInt32 :=
  if s.isEmpty then none
  else
    match stoul s with
    | none => none
    | some (v, pos) => if pos ≠ s.length then none else some (UInt32.ofNat v)

/-- `std::chrono::seconds` as `std::chrono::milliseconds`.
Source: `main.cpp` `parse_duration_ms` -/
def secondsToMillis (seconds : Int) : Millis := seconds * 1000

/-- `"ms"`. Source: `main.cpp` `parse_duration_ms` -/
abbrev msSuffix : List Byte := [109, 115]

/-- `'s'`. Source: `main.cpp` `parse_duration_ms` -/
abbrev secondsSuffix : Byte := 115

/-- Source: `main.cpp` `parse_duration_ms` -/
def parseDurationMs (s : List Byte) : Option Millis :=
  if 2 < s.length ∧ s.drop (s.length - 2) = msSuffix then
    (parseU32 (s.take (s.length - 2))).map fun v => v.toNat
  else if 1 < s.length ∧ s.getLast? = some secondsSuffix then
    (parseU32 (s.take (s.length - 1))).map fun v => secondsToMillis v.toNat
  else none

/-! ## The settings of the daemon -/

/-- The settings that `main` makes of the flags and the environment, or `none` where it says
`invalid flag value`. The initial backoff keeps its default.
Source: `main.cpp` `main` -/
def daemonConfig (flags : Flags) (getenv : List Byte → Option (List Byte)) : Option DaemonConfig := do
  let expectedFps ← parseU32 (resolve flags getenv (text "--expected-fps")
    (text "HAMSTERCAM_EXPECTED_FPS") (text "15"))
  let stallMultiple ← parseU32 (resolve flags getenv (text "--stall-multiple")
    (text "HAMSTERCAM_STALL_MULTIPLE") (text "10"))
  let bufferCount ← parseU32 (resolve flags getenv (text "--buffer-count")
    (text "HAMSTERCAM_BUFFER_COUNT") (text "4"))
  let reconnectMaxBackoff ← parseDurationMs (resolve flags getenv (text "--reconnect-max-backoff")
    (text "HAMSTERCAM_RECONNECT_MAX_BACKOFF") (text "30s"))
  let awaitingProducerMaxBackoff ← parseDurationMs (resolve flags getenv
    (text "--awaiting-producer-max-backoff")
    (text "HAMSTERCAM_AWAITING_PRODUCER_MAX_BACKOFF") (text "2s"))
  return { expectedFps, stallMultiple, bufferCount, reconnectMaxBackoff, awaitingProducerMaxBackoff }

/-- The daemon can start with these settings. Source: `main.cpp` `main` -/
def DaemonConfig.Accepted (config : DaemonConfig) : Prop :=
  ∃ flags getenv, daemonConfig flags getenv = some config

/-! ## What is accepted -/

variable {s body : List Byte} {v : UInt32} {d : Millis}

/-- **What `parse_u32` accepts.** Source: `main.cpp` `parse_u32` -/
theorem parseU32_eq_some : parseU32 s = some v ↔
    ∃ blanks sign digits, Reads s blanks sign digits ∧
      v = UInt32.ofNat (signed sign (value digits)) := by
  unfold parseU32
  constructor
  · intro h
    split at h
    · cases h
    · split at h
      · cases h
      · rename_i n pos hstoul
        split at h
        · cases h
        · rename_i hpos
          obtain rfl := not_not.mp hpos
          have hreads := reads_of_stoul hstoul
          refine ⟨_, _, _, hreads, ?_⟩
          rw [stoul_of_reads hreads] at hstoul
          simp only [Option.some.injEq, Prod.mk.injEq, and_true] at hstoul h
          rw [hstoul, h]
  · rintro ⟨blanks, sign, digits, hreads, rfl⟩
    have hne : ¬ s.isEmpty = true := by
      rw [List.isEmpty_iff, hreads.text_eq]
      simp [hreads.numeral.1]
    rw [if_neg hne, stoul_of_reads hreads]
    exact if_neg (fun h => h rfl)

/-- A plain numeral is read with its low 32 bits. Source: `main.cpp` `parse_u32` -/
theorem parseU32_numeral (h : IsNumeral s) (hfits : value s < 2 ^ 64) :
    parseU32 s = some (UInt32.ofNat (value s)) :=
  parseU32_eq_some.mpr ⟨[], [], s, ⟨rfl, by simp, Or.inl rfl, h, hfits⟩, rfl⟩

/-- Nothing that is accepted ends in a letter. Source: `main.cpp` `parse_u32` -/
theorem parseU32_append_m : parseU32 (body ++ [109]) = none := by
  apply Option.eq_none_iff_forall_ne_some.mpr
  intro v h
  obtain ⟨blanks, sign, digits, hreads, -⟩ := parseU32_eq_some.mp h
  have hlast := congrArg List.getLast? hreads.text_eq
  rw [List.getLast?_append, List.getLast?_append,
    List.getLast?_eq_some_getLast hreads.numeral.1] at hlast
  simp only [List.getLast?_singleton, Option.some_or, Option.some.injEq] at hlast
  have hdigit := hreads.numeral.2 _ (List.getLast_mem hreads.numeral.1)
  rw [← hlast] at hdigit
  exact absurd hdigit (by decide)

/-- Source: `main.cpp` `parse_u32` -/
theorem parseU32_nil : parseU32 [] = none := rfl

/-- A text that ends in `ms`. Source: `main.cpp` `parse_duration_ms` -/
theorem parseDurationMs_ms (body : List Byte) :
    parseDurationMs (body ++ msSuffix) = (parseU32 body).map fun v => (v.toNat : Millis) := by
  have hlength : (body ++ msSuffix).length = body.length + 2 := by simp
  unfold parseDurationMs
  by_cases h : body = []
  · subst h
    rw [if_neg (by simp), if_pos (by simp)]
    show (parseU32 ([] ++ [109])).map _ = _
    rw [parseU32_append_m, parseU32_nil, Option.map_none, Option.map_none]
  · have hpos : 0 < body.length := List.length_pos_iff.mpr h
    have hcut : (body ++ msSuffix).length - 2 = body.length := by omega
    rw [if_pos ⟨by omega, by rw [hcut, List.drop_left]⟩, hcut, List.take_left]

/-- A text that ends in `s`, but not in `ms`. Source: `main.cpp` `parse_duration_ms` -/
theorem parseDurationMs_seconds (h : body.getLast? ≠ some 109) :
    parseDurationMs (body ++ [secondsSuffix]) =
      (parseU32 body).map fun v => secondsToMillis v.toNat := by
  have hlength : (body ++ [secondsSuffix]).length = body.length + 1 := by simp
  have hms : ¬ (2 < (body ++ [secondsSuffix]).length ∧
      (body ++ [secondsSuffix]).drop ((body ++ [secondsSuffix]).length - 2) = msSuffix) := by
    rintro ⟨hsize, hdrop⟩
    apply h
    have hsplit := List.take_append_drop ((body ++ [secondsSuffix]).length - 2)
      (body ++ [secondsSuffix])
    rw [hdrop, show msSuffix = [109] ++ [secondsSuffix] from rfl, ← List.append_assoc] at hsplit
    rw [← List.append_cancel_right hsplit]
    simp
  unfold parseDurationMs
  rw [if_neg hms]
  by_cases hbody : body = []
  · subst hbody
    rw [if_neg (by simp), parseU32_nil, Option.map_none]
  · have hpos : 0 < body.length := List.length_pos_iff.mpr hbody
    have hcut : (body ++ [secondsSuffix]).length - 1 = body.length := by omega
    rw [if_pos ⟨by omega, by simp⟩, hcut, List.take_left]

/-- A duration ends in a suffix. Source: `main.cpp` `parse_duration_ms` -/
theorem suffix_of_parseDurationMs (h : parseDurationMs s = some d) :
    ∃ body, s = body ++ [secondsSuffix] := by
  have hlast : s.getLast? = some secondsSuffix := by
    unfold parseDurationMs at h
    split at h
    · rename_i hms
      rw [← List.take_append_drop (s.length - 2) s, hms.2]
      simp
    · split at h
      · rename_i hseconds
        exact hseconds.2
      · cases h
  exact List.getLast?_eq_some_iff.mp hlast

/-- **What `parse_duration_ms` accepts.** Source: `main.cpp` `parse_duration_ms` -/
theorem parseDurationMs_eq_some : parseDurationMs s = some d ↔
    ∃ body v, parseU32 body = some v ∧
      ((s = body ++ msSuffix ∧ d = v.toNat) ∨
        (s = body ++ [secondsSuffix] ∧ d = 1000 * v.toNat)) := by
  constructor
  · intro h
    obtain ⟨body, rfl⟩ := suffix_of_parseDurationMs h
    by_cases hm : body.getLast? = some 109
    · obtain ⟨front, rfl⟩ := List.getLast?_eq_some_iff.mp hm
      have hms : front ++ [109] ++ [secondsSuffix] = front ++ msSuffix := List.append_assoc _ _ _
      rw [hms, parseDurationMs_ms] at h
      obtain ⟨v, hv, rfl⟩ := Option.map_eq_some_iff.mp h
      exact ⟨_, v, hv, Or.inl ⟨hms, rfl⟩⟩
    · rw [parseDurationMs_seconds hm] at h
      obtain ⟨v, hv, rfl⟩ := Option.map_eq_some_iff.mp h
      exact ⟨_, v, hv, Or.inr ⟨rfl, Int.mul_comm _ _⟩⟩
  · rintro ⟨body, v, hv, ⟨rfl, rfl⟩ | ⟨rfl, rfl⟩⟩
    · rw [parseDurationMs_ms, hv, Option.map_some]
    · have hm : body.getLast? ≠ some 109 := by
        intro hm
        obtain ⟨front, rfl⟩ := List.getLast?_eq_some_iff.mp hm
        rw [parseU32_append_m] at hv
        cases hv
      rw [parseDurationMs_seconds hm, hv, Option.map_some, secondsToMillis, Int.mul_comm]

/-! ## What the flags mean -/

/-- The text is the decimal numeral of a 32-bit number. Source: none: infrastructure -/
def MeansU32 (s : List Byte) (v : UInt32) : Prop := IsNumeral s ∧ value s = v.toNat

/-- The text is such a numeral and a unit. Source: none: infrastructure -/
def MeansDuration (s : List Byte) (d : Millis) : Prop :=
  ∃ body v, MeansU32 body v ∧
    ((s = body ++ msSuffix ∧ d = v.toNat) ∨ (s = body ++ [secondsSuffix] ∧ d = 1000 * v.toNat))

/-- The text is read to its end as blanks, a sign and a number, and it is not the numeral of a number
below 2^32: there are blanks or a sign, or the number needs more than 32 bits.
Source: `main.cpp` `parse_u32` -/
def MisreadNumber (s : List Byte) : Prop :=
  ∃ blanks sign digits, Reads s blanks sign digits ∧
    (blanks ≠ [] ∨ sign ≠ [] ∨ 2 ^ 32 ≤ value digits)

/-- A numeral has no blanks and no sign in front. Source: none: infrastructure -/
theorem plain_of_reads {blanks sign digits : List Byte} (h : Reads s blanks sign digits)
    (hs : IsNumeral s) : blanks = [] ∧ sign = [] ∧ digits = s := by
  have hblanks : blanks = [] := by
    apply List.eq_nil_iff_forall_not_mem.mpr
    intro c hc
    have hdigit := hs.2 c (by rw [h.text_eq]; simp [hc])
    have hspace := ((kinds_disjoint c).1 hdigit).1
    rw [h.blank c hc] at hspace
    cases hspace
  have hsign : sign = [] := by
    apply List.eq_nil_iff_forall_not_mem.mpr
    intro c hc
    have hdigit := hs.2 c (by rw [h.text_eq]; simp [hc])
    have hnot := ((kinds_disjoint c).1 hdigit).2
    obtain hsign | hsign | hsign := h.oneSign
    · rw [hsign] at hc
      cases hc
    · obtain rfl : c = 43 := by simpa [hsign] using hc
      cases hnot
    · obtain rfl : c = 45 := by simpa [hsign] using hc
      cases hnot
  refine ⟨hblanks, hsign, ?_⟩
  rw [h.text_eq, hblanks, hsign]
  rfl

/-- Every numeral of a 32-bit number is read as that number. Source: `main.cpp` `parse_u32` -/
theorem parseU32_of_means (h : MeansU32 s v) : parseU32 s = some v := by
  have hv := v.toNat_lt
  have hvalue : value s = v.toNat := h.2
  rw [parseU32_numeral h.1 (by omega), hvalue, UInt32.ofNat_toNat]

/-- Source: `main.cpp` `parse_u32` -/
theorem means_of_parseU32 (hplain : ¬ MisreadNumber s) (h : parseU32 s = some v) : MeansU32 s v := by
  obtain ⟨blanks, sign, digits, hreads, rfl⟩ := parseU32_eq_some.mp h
  have hparts : blanks = [] ∧ sign = [] ∧ value digits < 2 ^ 32 := by
    refine ⟨?_, ?_, ?_⟩
    · by_contra hne
      exact hplain ⟨_, _, _, hreads, Or.inl hne⟩
    · by_contra hne
      exact hplain ⟨_, _, _, hreads, Or.inr (Or.inl hne)⟩
    · by_contra hle
      exact hplain ⟨_, _, _, hreads, Or.inr (Or.inr (Nat.not_lt.mp hle))⟩
  obtain ⟨rfl, rfl, hlt⟩ := hparts
  obtain rfl : s = digits := hreads.text_eq
  refine ⟨hreads.numeral, ?_⟩
  rw [signed, if_neg (by decide), UInt32.toNat_ofNat']
  exact (Nat.mod_eq_of_lt hlt).symm

/-- What is misread is accepted as something that it does not mean. Source: `main.cpp` `parse_u32` -/
theorem parseU32_of_misread (h : MisreadNumber s) :
    ∃ v, parseU32 s = some v ∧ ∀ w, ¬ MeansU32 s w := by
  obtain ⟨blanks, sign, digits, hreads, hodd⟩ := h
  refine ⟨_, parseU32_eq_some.mpr ⟨_, _, _, hreads, rfl⟩, ?_⟩
  rintro w ⟨hnumeral, hvalue⟩
  obtain ⟨rfl, rfl, rfl⟩ := plain_of_reads hreads hnumeral
  obtain h | h | h := hodd
  · exact h rfl
  · exact h rfl
  · have := w.toNat_lt
    omega

/-- Source: `main.cpp` `parse_u32` -/
theorem parseU32_means_iff : (∀ v, parseU32 s = some v ↔ MeansU32 s v) ↔ ¬ MisreadNumber s := by
  constructor
  · intro h hmisread
    obtain ⟨v, hv, hnot⟩ := parseU32_of_misread hmisread
    exact hnot v ((h v).mp hv)
  · exact fun hplain v => ⟨means_of_parseU32 hplain, parseU32_of_means⟩

/-- Source: `main.cpp` `parse_duration_ms` -/
theorem parseDurationMs_means_iff : (∀ d, parseDurationMs s = some d ↔ MeansDuration s d) ↔
    ∀ body, s = body ++ msSuffix ∨ s = body ++ [secondsSuffix] → ¬ MisreadNumber body := by
  constructor
  · intro h body hs hmisread
    obtain ⟨v, hv, hnot⟩ := parseU32_of_misread hmisread
    have haccepted : ∃ d, parseDurationMs s = some d := by
      obtain hs | hs := hs
      · exact ⟨_, parseDurationMs_eq_some.mpr ⟨body, v, hv, Or.inl ⟨hs, rfl⟩⟩⟩
      · exact ⟨_, parseDurationMs_eq_some.mpr ⟨body, v, hv, Or.inr ⟨hs, rfl⟩⟩⟩
    obtain ⟨d, hd⟩ := haccepted
    obtain ⟨body', w, hw, hs'⟩ := (h d).mp hd
    -- the two readings of `s` have the same suffix: no numeral, misread or not, ends in `m`
    have hsame : body' = body := by
      obtain hs | hs := hs <;> obtain ⟨hs', -⟩ | ⟨hs', -⟩ := hs'
      · exact List.append_cancel_right (hs'.symm.trans hs)
      · have hm : body' = body ++ [109] :=
          List.append_cancel_right
            ((hs'.symm.trans hs).trans (List.append_assoc body [109] [secondsSuffix]).symm)
        rw [hm] at hw
        have hnone := parseU32_of_means hw
        rw [parseU32_append_m] at hnone
        cases hnone
      · have hm : body = body' ++ [109] :=
          List.append_cancel_right
            ((hs.symm.trans hs').trans (List.append_assoc body' [109] [secondsSuffix]).symm)
        rw [hm, parseU32_append_m] at hv
        cases hv
      · exact List.append_cancel_right (hs'.symm.trans hs)
    exact hnot w (hsame ▸ hw)
  · intro hplain d
    rw [parseDurationMs_eq_some]
    constructor
    · rintro ⟨body, v, hv, hs⟩
      have hbody := hplain body (hs.imp And.left And.left)
      exact ⟨body, v, means_of_parseU32 hbody hv, hs⟩
    · rintro ⟨body, v, hv, hs⟩
      exact ⟨body, v, parseU32_of_means hv, hs⟩

/-- **When numeric flags mean what they say**: a number unless it is misread, a duration unless the
number before its unit is.
Source: `main.cpp` `parse_u32`, `parse_duration_ms` -/
theorem numeric_flags_iff (s : List Byte) :
    ((∀ v, parseU32 s = some v ↔ MeansU32 s v) ↔ ¬ MisreadNumber s) ∧
    ((∀ d, parseDurationMs s = some d ↔ MeansDuration s d) ↔
      ∀ body, s = body ++ msSuffix ∨ s = body ++ [secondsSuffix] → ¬ MisreadNumber body) :=
  ⟨parseU32_means_iff, parseDurationMs_means_iff⟩

/-- The number 2^32 is not rejected: it becomes 0. Source: `main.cpp` `parse_u32` -/
theorem misread_flags :
    ¬ ∀ s : List Byte, (∀ v, parseU32 s = some v ↔ MeansU32 s v) ∧
      ∀ d, parseDurationMs s = some d ↔ MeansDuration s d := by
  intro h
  have hzero : parseU32 (text "4294967296") = some 0 := by decide +kernel
  have hmeans := ((h _).1 0).mp hzero
  exact absurd hmeans.2 (by decide +kernel)

/-! ## The settings that are accepted -/

/-- Every 32-bit number has a numeral that is read as it. Source: `main.cpp` `parse_u32` -/
theorem parseU32_decimal (v : UInt32) : parseU32 (decimal v.toNat) = some v :=
  parseU32_of_means (denotes_eq_some.mp (denotes_decimal v.toNat))

/-- **What the daemon starts with**: any two durations that `parse_duration_ms` accepts, any numbers, and
the initial backoff of the defaults.
Source: `main.cpp` `main` -/
theorem DaemonConfig.accepted_iff (config : DaemonConfig) : config.Accepted ↔
    config.reconnectInitialBackoff = 200 ∧
      (∃ s, parseDurationMs s = some config.reconnectMaxBackoff) ∧
      ∃ s, parseDurationMs s = some config.awaitingProducerMaxBackoff := by
  constructor
  · rintro ⟨flags, getenv, h⟩
    simp only [daemonConfig, Option.bind_eq_bind, Option.pure_def, Option.bind_eq_some_iff,
      Option.some.injEq] at h
    obtain ⟨_, -, _, -, _, -, max, hmax, wait, hwait, rfl⟩ := h
    exact ⟨rfl, ⟨_, hmax⟩, _, hwait⟩
  · rintro ⟨hinitial, ⟨max, hmax⟩, wait, hwait⟩
    let flags : Flags := fun flag =>
      [(text "--expected-fps", decimal config.expectedFps.toNat),
        (text "--stall-multiple", decimal config.stallMultiple.toNat),
        (text "--buffer-count", decimal config.bufferCount.toNat),
        (text "--reconnect-max-backoff", max),
        (text "--awaiting-producer-max-backoff", wait)].lookup flag
    refine ⟨flags, fun _ => none, ?_⟩
    have hflags : flags (text "--expected-fps") = some (decimal config.expectedFps.toNat) ∧
        flags (text "--stall-multiple") = some (decimal config.stallMultiple.toNat) ∧
        flags (text "--buffer-count") = some (decimal config.bufferCount.toNat) ∧
        flags (text "--reconnect-max-backoff") = some max ∧
        flags (text "--awaiting-producer-max-backoff") = some wait :=
      ⟨rfl, rfl, rfl, rfl, rfl⟩
    obtain ⟨hfps, hmultiple, hcount, hmaxFlag, hwaitFlag⟩ := hflags
    simp only [daemonConfig, resolve, hfps, hmultiple, hcount, hmaxFlag, hwaitFlag, parseU32_decimal,
      hmax, hwait, Option.bind_eq_bind, Option.bind_some, Option.pure_def, ← hinitial]

end Hamstercam
