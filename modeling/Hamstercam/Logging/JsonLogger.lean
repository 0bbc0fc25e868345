import Hamstercam.Capture.Machine
import Hamstercam.Lib.Json
import Hamstercam.Text

/-!
# The log

`JsonLogger` and `JsonEventSink`, translated from `json_logger.cpp`, with the names and keys that the call
sites of the program use.

* `JsonLogger.write` — what one statement of a call site writes: `log`, a `field` for each field, and the
  destructor of the line. `JsonEventSink.emit` is the statement for an event.
* `write_eq` — the text of a line is that of an object, member by member.
* `members_fields` — the members of a line are read back in order, until a string comes that has a control
  character.
* `reads_back_iff` — a line reads back to what was logged if and only if no string in it has a byte below
  `0x20`: `escape` leaves these as they are.
-/

namespace Hamstercam

open Decimal

/-! ## Levels and times -/

/-- Source: `json_logger.hpp` `LogLevel` -/
inductive LogLevel
  | debug
  | info
  | warn
  | error
  deriving DecidableEq

namespace LogLevel

/-- The levels in their order. Source: `json_logger.hpp` `LogLevel` -/
def toNat : LogLevel → Nat
  | debug => 0
  | info => 1
  | warn => 2
  | error => 3

/-- Source: `json_logger.cpp` `level_string` -/
def levelString : LogLevel → List Byte
  | debug => text "debug"
  | info => text "info"
  | warn => text "warn"
  | error => text "error"

end LogLevel

/-- Source: `json_logger.cpp` `parse_log_level` -/
def parseLogLevel (s : List Byte) : Option LogLevel :=
  if s = text "debug" then some .debug
  else if s = text "info" then some .info
  else if s = text "warn" then some .warn
  else if s = text "error" then some .error
  else none

/-- The levels that can be set are those that are printed.
Source: `json_logger.cpp` `parse_log_level`, `level_string` -/
theorem parseLogLevel_iff {s : List Byte} {level : LogLevel} :
    parseLogLevel s = some level ↔ s = level.levelString := by
  have hnames : text "info" ≠ text "debug" ∧ text "warn" ≠ text "debug" ∧ text "warn" ≠ text "info" ∧
      text "error" ≠ text "debug" ∧ text "error" ≠ text "info" ∧ text "error" ≠ text "warn" :=
    ⟨text_ne (by decide), text_ne (by decide), text_ne (by decide), text_ne (by decide),
      text_ne (by decide), text_ne (by decide)⟩
  obtain ⟨h₁, h₂, h₃, h₄, h₅, h₆⟩ := hnames
  constructor
  · intro h
    unfold parseLogLevel at h
    split_ifs at h with hs hs hs hs
    all_goals
      obtain rfl := Option.some.inj h
      exact hs
  · rintro rfl
    cases level <;> simp [parseLogLevel, LogLevel.levelString, h₁, h₂, h₃, h₄, h₅, h₆]

/-- A reading of `system_clock`, broken down by `gmtime_r`, with its milliseconds.
Source: `json_logger.cpp` `rfc3339_now` -/
structure Timestamp where
  /-- `tm_year` -/
  year : Int := 70
  /-- `tm_mon` -/
  mon : Int := 0
  /-- `tm_mday` -/
  mday : Int := 1
  /-- `tm_hour` -/
  hour : Int := 0
  /-- `tm_min` -/
  min : Int := 0
  /-- `tm_sec` -/
  sec : Int := 0
  /-- `ms` -/
  ms : Int := 0

/-- `"%0*d"` with a width: zeros between the sign and the digits.
Source: `json_logger.cpp` `rfc3339_now` -/
def printPadded (width : Nat) (n : Int) : List Byte :=
  if n < 0 then 45 :: (decimal n.natAbs).leftpad (width - 1) 48 else (decimal n.natAbs).leftpad width 48

/-- The time as `rfc3339_now` prints it into a buffer of 64 bytes, the last one for the `'\0'`.
Source: `json_logger.cpp` `rfc3339_now` -/
def Timestamp.rfc3339 (t : Timestamp) : List Byte :=
  (printPadded 4 (t.year + 1900) ++ 45 :: printPadded 2 (t.mon + 1) ++ 45 :: printPadded 2 t.mday ++
    84 :: printPadded 2 t.hour ++ 58 :: printPadded 2 t.min ++ 58 :: printPadded 2 t.sec ++
    46 :: printPadded 3 t.ms ++ [90]).take 63

/-! ## The logger -/

/-- Source: `json_logger.cpp` `escape` -/
def escape (s : List Byte) : List Byte := s.flatMap fun c => if c = 34 || c = 92 then [92, c] else [c]

/-- An argument list of one of the two `field` functions.
Source: `json_logger.hpp` `JsonLogger::Line::field` -/
inductive Field
  | string (key value : List Byte)
  | number (key : List Byte) (value : UInt32)
  deriving DecidableEq

/-- Source: `json_logger.hpp` `JsonLogger::Line` -/
structure Line where
  /-- `out_` is not null. -/
  out : Bool
  /-- `buf_` -/
  buf : List Byte

namespace Line

/-- Source: `json_logger.cpp` `JsonLogger::Line::field` -/
def field (l : Line) : Field → Line
  | .string key value =>
      if l.out then
        { l with buf := l.buf ++ text ",\"" ++ key ++ text "\":\"" ++ escape value ++ text "\"" }
      else l
  | .number key value =>
      if l.out then { l with buf := l.buf ++ text ",\"" ++ key ++ text "\":" ++ decimal value.toNat }
      else l

/-- What the destructor writes. Source: `json_logger.cpp` `JsonLogger::Line::~Line` -/
def written (l : Line) : List Byte := if l.out then l.buf ++ text "\x7d\n" else []

end Line

/-- Source: `json_logger.hpp` `JsonLogger` -/
structure JsonLogger where
  /-- `min_level_` -/
  minLevel : LogLevel

namespace JsonLogger

/-- Source: `json_logger.cpp` `JsonLogger::log` -/
def log (logger : JsonLogger) (t : Timestamp) (level : LogLevel) (event : List Byte) : Line :=
  if level.toNat < logger.minLevel.toNat then ⟨false, []⟩
  else ⟨true, text "\x7b\"ts\":\"" ++ t.rfc3339 ++ text "\",\"level\":\"" ++ level.levelString ++
    text "\",\"event\":\"" ++ event ++ text "\""⟩

/-- What a statement of a call site writes at time `t`: `log`, then the fields, then the end of the line.
Source: `json_logger.cpp` `JsonEventSink::emit`, `main.cpp`, `exporter_main.cpp` -/
def write (logger : JsonLogger) (t : Timestamp) (level : LogLevel) (event : List Byte)
    (fields : List Field) : List Byte :=
  (fields.foldl Line.field (logger.log t level event)).written

end JsonLogger

/-! ## The call sites -/

/-- The event names of the call sites.
Source: `json_logger.cpp` `JsonEventSink::emit`, `main.cpp`, `exporter_main.cpp` -/
def eventNames : List (List Byte) :=
  ["startup", "shutdown", "device_opened", "awaiting_producer", "streaming_started", "device_lost",
    "reconnecting", "stall_detected", "stall_cleared", "format_changed"].map text

/-- The field keys of the call sites.
Source: `json_logger.cpp` `JsonEventSink::emit`, `main.cpp`, `exporter_main.cpp` -/
def fieldKeys : List (List Byte) :=
  ["version", "git_sha", "device", "metrics_addr", "progress_socket", "width", "height", "pixel_format",
    "reason", "previous_width", "previous_height", "previous_pixel_format"].map text

/-- What is logged for an event: the level, the name and the fields.
Source: `json_logger.cpp` `JsonEventSink::emit` -/
def Event.record (e : Event) : LogLevel × List Byte × List Field :=
  match e.type with
  | .deviceOpened => (.info, text "device_opened", [])
  | .awaitingProducer => (.info, text "awaiting_producer", [])
  | .streamingStarted => (.info, text "streaming_started",
      [.number (text "width") e.format.width, .number (text "height") e.format.height,
        .string (text "pixel_format") e.format.pixelFormatString])
  | .deviceLost => (.warn, text "device_lost", [.string (text "reason") e.reason.toText])
  | .reconnecting => (.info, text "reconnecting", [])
  | .stallDetected => (.warn, text "stall_detected", [])
  | .stallCleared => (.info, text "stall_cleared", [])
  | .formatChanged => (.info, text "format_changed",
      [.number (text "width") e.format.width, .number (text "height") e.format.height,
        .string (text "pixel_format") e.format.pixelFormatString,
        .number (text "previous_width") e.previousFormat.width,
        .number (text "previous_height") e.previousFormat.height,
        .string (text "previous_pixel_format") e.previousFormat.pixelFormatString])

/-- Source: `json_logger.cpp` `JsonEventSink::emit` -/
def JsonEventSink.emit (logger : JsonLogger) (t : Timestamp) (e : Event) : List Byte :=
  logger.write t e.record.1 e.record.2.1 e.record.2.2

/-! ## The text of a line -/

namespace Field

/-- Source: `json_logger.hpp` `JsonLogger::Line::field` -/
def key : Field → List Byte
  | .string key _ => key
  | .number key _ => key

/-- What is logged. Source: `json_logger.hpp` `JsonLogger::Line::field` -/
def member : Field → List Byte × Json.Value
  | .string key value => (key, .string value)
  | .number key value => (key, .number value.toNat)

/-- Source: none: infrastructure -/
theorem member_eq (f : Field) : f.member = (f.key, f.member.2) := by
  cases f <;> rfl

/-- The text of a value. Source: `json_logger.cpp` `JsonLogger::Line::field` -/
def valueText : Field → List Byte
  | .string _ value => 34 :: (escape value ++ [34])
  | .number _ value => decimal value.toNat

/-- The text of a member. Source: `json_logger.cpp` `JsonLogger::Line::field` -/
def memberText (f : Field) : List Byte := 34 :: (f.key ++ 34 :: 58 :: f.valueText)

/-- No string in the field has a control character. Source: `json_logger.cpp` `escape` -/
def Plain : Field → Prop
  | .string _ value => Json.Plain value
  | .number _ _ => True

instance : (f : Field) → Decidable f.Plain
  | .string _ value => inferInstanceAs (Decidable (Json.Plain value))
  | .number _ _ => .isTrue trivial

end Field

section text

variable {logger : JsonLogger} {t : Timestamp} {level : LogLevel} {event value rest : List Byte}
  {fields : List Field} {f : Field}

/-- Clean bytes need no backslash. Source: `json_logger.cpp` `escape` -/
theorem escape_clean (h : Json.Clean value) : escape value = value := by
  induction value with
  | nil => rfl
  | cons c value ih =>
      obtain ⟨⟨-, hquote, hslash⟩, hvalue⟩ := List.forall_mem_cons.mp h
      have htail : escape value = value := ih hvalue
      simp only [escape, List.flatMap_cons] at htail ⊢
      rw [htail]
      simp [hquote, hslash]

/-- A printed number is clean. Source: `json_logger.cpp` `rfc3339_now` -/
theorem clean_printPadded (width : Nat) (n : Int) : Json.Clean (printPadded width n) := by
  have hzeros : ∀ k, Json.Clean ((decimal n.natAbs).leftpad k 48) := by
    intro k
    apply Json.clean_of_digits
    intro c hc
    rcases List.mem_append.mp hc with hc | hc
    · rw [List.eq_of_mem_replicate hc]
      rfl
    · exact (isNumeral_decimal n.natAbs).2 c hc
  unfold printPadded
  split_ifs
  · exact List.forall_mem_cons.mpr ⟨by decide, hzeros (width - 1)⟩
  · exact hzeros width

/-- The time is clean. Source: `json_logger.cpp` `rfc3339_now` -/
theorem clean_rfc3339 (t : Timestamp) : Json.Clean t.rfc3339 := by
  intro c hc
  refine (?_ : Json.Clean _) c (List.mem_of_mem_take hc)
  simp only [Json.clean_append, Json.clean_cons, clean_printPadded, true_and, and_true]
  decide

/-- The names of the program are clean.
Source: `json_logger.cpp` `level_string`, `JsonEventSink::emit`, `main.cpp`, `exporter_main.cpp` -/
theorem clean_names (level : LogLevel) :
    Json.Clean level.levelString ∧ (∀ e ∈ eventNames, Json.Clean e) ∧ ∀ k ∈ fieldKeys, Json.Clean k := by
  -- to decide about a literal is to decide about its characters
  have hliteral : ∀ s : List Char, Json.Clean (s.map fun c => c.toNat.toUInt8) →
      Json.Clean (text (String.ofList s)) := by
    intro s hs
    rw [text_ofList]
    exact hs
  refine ⟨?_, ?_, ?_⟩
  · cases level <;> exact hliteral _ (by decide)
  · unfold eventNames
    simp only [List.map_cons, List.map_nil, List.forall_mem_cons]
    repeat refine ⟨hliteral _ (by decide), ?_⟩
    exact fun e he => absurd he List.not_mem_nil
  · unfold fieldKeys
    simp only [List.map_cons, List.map_nil, List.forall_mem_cons]
    repeat refine ⟨hliteral _ (by decide), ?_⟩
    exact fun k hk => absurd hk List.not_mem_nil

/-- A field appends a comma and a member. Source: `json_logger.cpp` `JsonLogger::Line::field` -/
theorem foldl_field (buf : List Byte) (fields : List Field) :
    fields.foldl Line.field ⟨true, buf⟩ =
      ⟨true, buf ++ fields.flatMap fun f => 44 :: f.memberText⟩ := by
  have hcomma : text ",\"" = [44, 34] := rfl
  have hstring : text "\":\"" = [34, 58, 34] := rfl
  have hnumber : text "\":" = [34, 58] := rfl
  have hquote : text "\"" = [34] := rfl
  induction fields generalizing buf with
  | nil => simp
  | cons f fields ih =>
      rw [List.foldl_cons]
      cases f with
      | string key value =>
          simp only [Line.field, if_true, ih]
          simp [hcomma, hstring, hquote, Field.memberText, Field.key, Field.valueText]
      | number key value =>
          simp only [Line.field, if_true, ih]
          simp [hcomma, hnumber, Field.memberText, Field.key, Field.valueText]

/-- **The text of a line** is that of an object.
Source: `json_logger.cpp` `JsonLogger::log`, `JsonLogger::Line` -/
theorem write_eq (hlevel : logger.minLevel.toNat ≤ level.toNat) (hevent : Json.Clean event) :
    logger.write t level event fields =
      123 :: ((Field.string (text "ts") t.rfc3339).memberText ++
        (.string (text "level") level.levelString :: .string (text "event") event :: fields).flatMap
          (fun f => 44 :: f.memberText)) ++ [125, newline] := by
  have hts : text "\x7b\"ts\":\"" = 123 :: 34 :: (text "ts" ++ [34, 58, 34]) := rfl
  have hlevels : text "\",\"level\":\"" = 34 :: 44 :: 34 :: (text "level" ++ [34, 58, 34]) := rfl
  have hevents : text "\",\"event\":\"" = 34 :: 44 :: 34 :: (text "event" ++ [34, 58, 34]) := rfl
  have hquote : text "\"" = [34] := rfl
  have hend : text "\x7d\n" = [125, newline] := rfl
  unfold JsonLogger.write JsonLogger.log
  rw [if_neg (Nat.not_lt.mpr hlevel), foldl_field]
  simp [Line.written, Field.memberText, Field.key, Field.valueText, escape_clean hevent,
    escape_clean (clean_rfc3339 t), escape_clean (clean_names level).1, hts, hlevels, hevents, hquote, hend]

/-! ## Reading it back -/

/-- **A string is read back unless it has a control character.** Source: `json_logger.cpp` `escape` -/
theorem stringBody_escape (value rest : List Byte) :
    Json.stringBody (escape value ++ 34 :: rest) =
      if Json.Plain value then some (value, rest) else none := by
  have hpieces : Json.pieces (escape value ++ 34 :: rest) =
      if Json.Plain value then some (value.map .byte, rest) else none := by
    induction value with
    | nil => exact Json.pieces_quote rest
    | cons c value ih =>
        have hcons : escape (c :: value) = (if c = 34 || c = 92 then [92, c] else [c]) ++ escape value :=
          List.flatMap_cons
        rw [hcons]
        by_cases hc : c = 34 ∨ c = 92
        · have hescape : (if c = 34 || c = 92 then [92, c] else [c]) = [92, c] :=
            if_pos (by simpa using hc)
          have hplain : Json.isControl c = false := by
            rcases hc with rfl | rfl <;> rfl
          rw [hescape, List.append_assoc, List.cons_append, List.cons_append, List.nil_append,
            Json.pieces_escaped hc, ih]
          simp only [Json.plain_cons, hplain, true_and]
          split_ifs <;> rfl
        · have hescape : (if c = 34 || c = 92 then [92, c] else [c]) = [c] :=
            if_neg (by simpa using hc)
          rw [hescape, List.append_assoc, List.cons_append, List.nil_append]
          by_cases hcontrol : Json.isControl c = true
          · rw [Json.pieces_control hcontrol]
            simp [Json.plain_cons, hcontrol]
          · have hclean : Json.isControl c = false ∧ c ≠ 34 ∧ c ≠ 92 :=
              ⟨by simpa using hcontrol, not_or.mp hc⟩
            rw [Json.pieces_clean hclean, ih]
            simp only [Json.plain_cons, hclean.1, true_and]
            split_ifs <;> rfl
  unfold Json.stringBody
  rw [hpieces]
  split_ifs
  · show some (Json.bytes (value.map .byte), rest) = _
    rw [Json.bytes_map_byte]
  · rfl

/-- A value is read back unless it is a string with a control character.
Source: `json_logger.cpp` `JsonLogger::Line::field` -/
theorem value_valueText (n : Nat) (f : Field) {c : Byte} (hc : c = 44 ∨ c = 125) (rest : List Byte) :
    Json.value (n + 1) (f.valueText ++ c :: rest) =
      if f.Plain then some (f.member.2, c :: rest) else none := by
  cases f with
  | string key value =>
      have htext : (Field.string key value).valueText ++ c :: rest =
          34 :: (escape value ++ 34 :: c :: rest) := by
        simp [Field.valueText]
      rw [htext, Json.value_string, stringBody_escape]
      by_cases hplain : Json.Plain value
      · rw [if_pos hplain, if_pos (show (Field.string key value).Plain from hplain)]
        rfl
      · rw [if_neg hplain, if_neg (show ¬ (Field.string key value).Plain from hplain)]
        rfl
  | number key value =>
      rw [if_pos (show (Field.number key value).Plain from trivial)]
      exact Json.value_decimal n value.toNat hc rest

/-- **The members of a line are read back in order**, unless one of them has a control character.
Source: `json_logger.cpp` `JsonLogger::Line` -/
theorem members_fields (n m : Nat) (f : Field) (fields : List Field) (rest : List Byte)
    (hkeys : ∀ g ∈ f :: fields, Json.Clean g.key) (hm : fields.length < m) :
    Json.members (Json.value (n + 1)) m
        (f.memberText ++ fields.flatMap (fun f => 44 :: f.memberText) ++ 125 :: rest) =
      if ∀ g ∈ f :: fields, g.Plain then some ((f :: fields).map Field.member, rest) else none := by
  obtain ⟨m, rfl⟩ := Nat.exists_eq_add_one_of_ne_zero (Nat.ne_of_gt (Nat.zero_lt_of_lt hm))
  induction fields generalizing f m with
  | nil =>
      have htext : f.memberText ++ [].flatMap (fun f : Field => 44 :: f.memberText) ++ 125 :: rest =
          34 :: (f.key ++ 34 :: 58 :: (f.valueText ++ 125 :: rest)) := by
        simp [Field.memberText]
      rw [htext, Json.members_succ (hkeys f List.mem_cons_self), value_valueText n f (.inr rfl)]
      by_cases hplain : f.Plain
      · rw [if_pos hplain, if_pos (by simpa using hplain), List.map_singleton, f.member_eq]
        rfl
      · rw [if_neg hplain, if_neg (by simpa using hplain)]
        rfl
  | cons g fields ih =>
      obtain ⟨hf, hgs⟩ := List.forall_mem_cons.mp hkeys
      obtain ⟨m, rfl⟩ := Nat.exists_eq_add_one_of_ne_zero
        (Nat.ne_of_gt (Nat.lt_of_lt_of_le (Nat.succ_pos _) (Nat.le_of_lt_succ hm)))
      have hrest := ih g hgs m (Nat.lt_of_succ_lt_succ hm)
      have htext : f.memberText ++ (g :: fields).flatMap (fun f => 44 :: f.memberText) ++ 125 :: rest =
          34 :: (f.key ++ 34 :: 58 :: (f.valueText ++ 44 ::
            (g.memberText ++ fields.flatMap (fun f => 44 :: f.memberText) ++ 125 :: rest))) := by
        simp [Field.memberText]
      rw [htext, Json.members_succ hf, value_valueText n f (.inl rfl)]
      by_cases hplain : f.Plain
      · rw [if_pos hplain]
        show ((Json.members (Json.value (n + 1)) (m + 1) _).map _) = _
        rw [hrest]
        by_cases hall : ∀ x ∈ g :: fields, x.Plain
        · rw [if_pos hall, if_pos (List.forall_mem_cons.mpr ⟨hplain, hall⟩)]
          show some ((f.key, f.member.2) :: (g :: fields).map Field.member, rest) = _
          rw [← f.member_eq]
          rfl
        · rw [if_neg hall, if_neg (fun h => hall (List.forall_mem_cons.mp h).2)]
          rfl
      · rw [if_neg hplain, if_neg (fun hall => hplain (hall f List.mem_cons_self))]
        rfl

/-! ## Every line -/

/-- The text is exactly one line, and reads back to what was logged.
Source: `json_logger.hpp` `JsonLogger::Line` -/
structure ReadsBack (written : List Byte) (level : LogLevel) (event : List Byte)
    (fields : List Field) : Prop where
  /-- The only newline is the last byte. -/
  line : ∃ body, written = body ++ [newline] ∧ newline ∉ body
  /-- An object with the time, the level, the event and the fields, in this order. -/
  object : ∃ ts, Json.parse written = some (.object ((text "ts", .string ts) ::
    (text "level", .string level.levelString) :: (text "event", .string event) ::
      fields.map Field.member))

/-- Plain strings stay plain. Source: `json_logger.cpp` `escape` -/
theorem plain_escape (h : Json.Plain value) : Json.Plain (escape value) := by
  intro c hc
  obtain ⟨d, hd, hcd⟩ := List.mem_flatMap.mp hc
  have hplain := h d hd
  split_ifs at hcd
  · rcases List.mem_cons.mp hcd with rfl | hcd
    · rfl
    · rw [List.mem_singleton.mp hcd]
      exact hplain
  · rw [List.mem_singleton.mp hcd]
    exact hplain

/-- The text of a member is plain if its strings are. Source: `json_logger.cpp` `JsonLogger::Line` -/
theorem plain_memberText (hkey : Json.Clean f.key) (hplain : f.Plain) : Json.Plain f.memberText := by
  have hvalue : Json.Plain f.valueText := by
    cases f with
    | string key value =>
        apply Json.plain_cons.mpr
        refine ⟨rfl, ?_⟩
        apply Json.plain_append.mpr
        exact ⟨plain_escape hplain, by decide⟩
    | number key value => exact (Json.clean_of_digits (isNumeral_decimal value.toNat).2).plain
  apply Json.plain_cons.mpr
  refine ⟨rfl, ?_⟩
  apply Json.plain_append.mpr
  refine ⟨hkey.plain, ?_⟩
  apply Json.plain_cons.mpr
  refine ⟨rfl, ?_⟩
  exact Json.plain_cons.mpr ⟨rfl, hvalue⟩

/-- Plain strings have no byte below `0x20`. Source: `json_logger.cpp` `escape` -/
theorem plain_fields_iff : (∀ f ∈ fields, f.Plain) ↔
    ∀ key value, Field.string key value ∈ fields → ∀ c ∈ value, 0x20 ≤ c := by
  have hbyte : ∀ c : Byte, Json.isControl c = false ↔ 0x20 ≤ c := by
    intro c
    rw [Json.isControl, decide_eq_false_iff_not, UInt8.not_lt]
  constructor
  · intro h key value hmem c hc
    exact (hbyte c).mp (h _ hmem c hc)
  · intro h f hf
    cases f with
    | string key value => exact fun c hc => (hbyte c).mpr (h key value hf c hc)
    | number key value => trivial

/-- The first fields of every line. Source: `json_logger.cpp` `JsonLogger::log` -/
def logFields (t : Timestamp) (level : LogLevel) (event : List Byte) (fields : List Field) : List Field :=
  .string (text "ts") t.rfc3339 :: .string (text "level") level.levelString ::
    .string (text "event") event :: fields

/-- The first keys of every line are clean. Source: `json_logger.cpp` `JsonLogger::log` -/
theorem clean_logFields (t : Timestamp) (level : LogLevel) (event : List Byte)
    (hkeys : ∀ f ∈ fields, Json.Clean f.key) : ∀ f ∈ logFields t level event fields, Json.Clean f.key := by
  have hnames : Json.Clean (text "ts") ∧ Json.Clean (text "level") ∧ Json.Clean (text "event") := by decide
  simp only [logFields, List.forall_mem_cons]
  exact ⟨hnames.1, hnames.2.1, hnames.2.2, hkeys⟩

/-- The first fields of every line are plain. Source: `json_logger.cpp` `JsonLogger::log` -/
theorem plain_logFields (t : Timestamp) (level : LogLevel) (hevent : Json.Clean event)
    (fields : List Field) :
    (∀ f ∈ logFields t level event fields, f.Plain) ↔ ∀ f ∈ fields, f.Plain := by
  simp only [logFields, List.forall_mem_cons]
  exact ⟨fun h => h.2.2.2,
    fun h => ⟨(clean_rfc3339 t).plain, (clean_names level).1.plain, hevent.plain, h⟩⟩

/-- **What a reader makes of a line**: the object that was logged, or nothing if a string has a control
character. Source: `json_logger.cpp` `escape`, `JsonLogger::log`, `JsonLogger::Line` -/
theorem parse_write (hlevel : logger.minLevel.toNat ≤ level.toNat) (hevent : Json.Clean event)
    (hkeys : ∀ f ∈ fields, Json.Clean f.key) :
    Json.parse (logger.write t level event fields) =
      if ∀ f ∈ fields, f.Plain then
        some (.object ((logFields t level event fields).map Field.member))
      else none := by
  have hclean := clean_logFields t level event hkeys
  have hplain := plain_logFields t level hevent fields
  rw [write_eq hlevel hevent]
  unfold logFields at hclean hplain ⊢
  set ts := Field.string (text "ts") t.rfc3339
  set after := Field.string (text "level") level.levelString :: .string (text "event") event :: fields
  obtain ⟨s, hs⟩ : ∃ s, ts.memberText ++ after.flatMap (fun f => 44 :: f.memberText) ++ [125, newline] =
      34 :: s := ⟨_, rfl⟩
  have hfuel : after.length < s.length + 2 := by
    have hlength : ∀ gs : List Field, gs.length ≤ (gs.flatMap fun f => 44 :: f.memberText).length := by
      intro gs
      induction gs with
      | nil => exact Nat.le_refl 0
      | cons g gs ih =>
          rw [List.flatMap_cons, List.length_append, List.length_cons, List.length_cons]
          omega
    have hafter := hlength after
    have htext := congrArg List.length hs
    simp only [List.length_append, List.length_cons] at htext
    omega
  rw [List.cons_append, hs, Json.parse_object, ← hs,
    members_fields (s.length + 1) (s.length + 2) ts after [newline] hclean hfuel]
  by_cases hall : ∀ f ∈ fields, f.Plain
  · rw [if_pos (hplain.mpr hall), if_pos hall]
    rfl
  · rw [if_neg (fun h => hall (hplain.mp h)), if_neg hall]
    rfl

/-- A line whose strings are plain is exactly one line.
Source: `json_logger.cpp` `JsonLogger::log`, `JsonLogger::Line` -/
theorem write_line (hlevel : logger.minLevel.toNat ≤ level.toNat) (hevent : Json.Clean event)
    (hkeys : ∀ f ∈ fields, Json.Clean f.key) (hplain : ∀ f ∈ fields, f.Plain) :
    ∃ body, logger.write t level event fields = body ++ [newline] ∧ newline ∉ body := by
  have hclean := clean_logFields t level event hkeys
  have hall := (plain_logFields t level hevent fields).mpr hplain
  have hmembers : ∀ f ∈ logFields t level event fields, newline ∉ f.memberText := by
    intro f hf hmem
    cases plain_memberText (hclean f hf) (hall f hf) newline hmem
  unfold logFields at hmembers
  obtain ⟨hts, hafter⟩ := List.forall_mem_cons.mp hmembers
  refine ⟨123 :: ((Field.string (text "ts") t.rfc3339).memberText ++
    (Field.string (text "level") level.levelString :: .string (text "event") event :: fields).flatMap
      (fun f => 44 :: f.memberText)) ++ [125], ?_, ?_⟩
  · rw [write_eq hlevel hevent, List.append_assoc]
    rfl
  · intro hmem
    rcases List.mem_append.mp hmem with hmem | hmem
    · rcases List.mem_cons.mp hmem with hmem | hmem
      · cases hmem
      · rcases List.mem_append.mp hmem with hmem | hmem
        · exact hts hmem
        · obtain ⟨f, hf, hmem⟩ := List.mem_flatMap.mp hmem
          rcases List.mem_cons.mp hmem with hmem | hmem
          · cases hmem
          · exact hafter f hf hmem
    · cases List.mem_singleton.mp hmem

/-- Where event and keys are clean, a line reads back if and only if its strings are plain.
Source: `json_logger.cpp` `JsonLogger::log`, `JsonLogger::Line` -/
theorem readsBack_write (hlevel : logger.minLevel.toNat ≤ level.toNat) (hevent : Json.Clean event)
    (hkeys : ∀ f ∈ fields, Json.Clean f.key) :
    ReadsBack (logger.write t level event fields) level event fields ↔ ∀ f ∈ fields, f.Plain := by
  have hparse := parse_write (t := t) hlevel hevent hkeys
  constructor
  · rintro ⟨-, ts, hobject⟩
    by_contra hplain
    rw [hparse, if_neg hplain] at hobject
    cases hobject
  · intro hplain
    refine ⟨write_line hlevel hevent hkeys hplain, t.rfc3339, ?_⟩
    rw [hparse, if_pos hplain]
    rfl

/-- What an event logs uses the names and keys of the call sites.
Source: `json_logger.cpp` `JsonEventSink::emit` -/
theorem record_callSite (e : Event) :
    e.record.2.1 ∈ eventNames ∧ ∀ f ∈ e.record.2.2, f.key ∈ fieldKeys := by
  obtain ⟨type, format, previousFormat, reason⟩ := e
  cases type <;> simp [Event.record, Field.key, eventNames, fieldKeys]

/-- The line of an event reads back if and only if its strings are plain: those of a format are the four
bytes that the driver reported. Source: `json_logger.cpp` `JsonEventSink::emit` -/
theorem readsBack_emit {e : Event} (hlevel : logger.minLevel.toNat ≤ e.record.1.toNat) :
    ReadsBack (JsonEventSink.emit logger t e) e.record.1 e.record.2.1 e.record.2.2 ↔
      ∀ f ∈ e.record.2.2, f.Plain := by
  obtain ⟨-, hevents, hfields⟩ := clean_names e.record.1
  obtain ⟨hevent, hkeys⟩ := record_callSite e
  exact readsBack_write hlevel (hevents _ hevent) fun f hf => hfields f.key (hkeys f hf)

/-- **A line reads back to what was logged if and only if no string in it has a byte below `0x20`.**
Source: `json_logger.cpp` `escape`, `JsonLogger::log`, `JsonLogger::Line` -/
theorem reads_back_iff (hlevel : logger.minLevel.toNat ≤ level.toNat) (hevent : event ∈ eventNames)
    (hkeys : ∀ f ∈ fields, f.key ∈ fieldKeys) :
    ReadsBack (logger.write t level event fields) level event fields ↔
      ∀ key value, Field.string key value ∈ fields → ∀ c ∈ value, 0x20 ≤ c := by
  obtain ⟨-, hevents, hfields⟩ := clean_names level
  rw [← plain_fields_iff]
  exact readsBack_write hlevel (hevents event hevent) fun f hf => hfields f.key (hkeys f hf)

/-- A quote and a backslash are escaped. Source: `json_logger_test.cpp`
`EscapesQuotesAndBackslashesInStringFields` -/
theorem reads_back_iff_reason :
    ReadsBack (JsonLogger.write ⟨.debug⟩ {} .info (text "device_lost")
        [.string (text "reason") [97, 34, 98, 92, 99]]) .info (text "device_lost")
        [.string (text "reason") [97, 34, 98, 92, 99]] ↔
      ∀ key value, Field.string key value ∈ [Field.string (text "reason") [97, 34, 98, 92, 99]] →
        ∀ c ∈ value, 0x20 ≤ c :=
  reads_back_iff (by decide) (by decide) (by decide)

/-- **A format without a code does not read back**: the four bytes of the code are written as they are.
Source: `json_logger.cpp` `escape`, `capture_device.cpp` `StreamFormat::pixel_format_string` -/
theorem format_not_read_back :
    ¬ ReadsBack (JsonEventSink.emit ⟨.info⟩ {} { type := .streamingStarted }) .info
      (text "streaming_started")
      [.number (text "width") 0, .number (text "height") 0,
        .string (text "pixel_format") (StreamFormat.pixelFormatString {})] := by
  intro hreads
  have hplain := (readsBack_emit (e := { type := .streamingStarted }) (by decide)).mp hreads
  revert hplain
  decide

end text

end Hamstercam
