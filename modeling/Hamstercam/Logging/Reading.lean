import Hamstercam.Lib.Lines
import Hamstercam.Logging.JsonLogger

/-!
# The log, read back line by line

* `LogRecord` — what one statement logs; `JsonLogger.shows` says which records the minimum level lets
  through.
* `readLog` — a reader of the log: it cuts the text at the newlines and takes of each line what stands
  after the time.
* `Printed logger s rs` — `s` is what the logger has written for the records `rs`, at whatever times.
* `readLog_of_printed` — the reader gets the records that are shown, in their order, each from a line of its
  own. A string with a control character costs its own line, as long as it is not a newline.
-/

namespace Hamstercam

open Decimal

/-! ## Records -/

/-- No string in the field has a newline. Source: `json_logger.cpp` `escape` -/
def Field.OneLine : Field → Prop
  | .string _ value => newline ∉ value
  | .number _ _ => True

instance : (f : Field) → Decidable f.OneLine
  | .string _ value => inferInstanceAs (Decidable (newline ∉ value))
  | .number _ _ => .isTrue trivial

/-- A field without control characters has no newline. Source: `json_logger.cpp` `escape` -/
theorem Field.Plain.oneLine {f : Field} (h : f.Plain) : f.OneLine := by
  cases f with
  | string key value =>
      intro hmem
      cases h newline hmem
  | number key value => trivial

/-- What one statement logs: the level, the name of the event and the fields.
Source: `json_logger.cpp` `JsonLogger::log`, `JsonLogger::Line::field` -/
abbrev LogRecord : Type := LogLevel × List Byte × List Field

/-- What a reader makes of the line of a record, if it can read it.
Source: `json_logger.cpp` `JsonLogger::log`, `JsonLogger::Line::field` -/
def LogRecord.read (r : LogRecord) : Option (List (List Byte × Json.Value)) :=
  if ∀ f ∈ r.2.2, f.Plain then
    some ((text "level", .string r.1.levelString) :: (text "event", .string r.2.1) ::
      r.2.2.map Field.member)
  else none

/-- The name and the keys are those of a call site, and no string has a newline.
Source: `json_logger.cpp` `escape` -/
structure LogRecord.OneLine (r : LogRecord) : Prop where
  event : r.2.1 ∈ eventNames
  keys : ∀ f ∈ r.2.2, f.key ∈ fieldKeys
  fields : ∀ f ∈ r.2.2, f.OneLine

/-- Source: `json_logger.cpp` `JsonLogger::log` -/
def JsonLogger.shows (logger : JsonLogger) (r : LogRecord) : Bool :=
  decide (logger.minLevel.toNat ≤ r.1.toNat)

/-- Source: `json_logger.cpp` `JsonLogger::log`, `JsonLogger::Line` -/
def JsonLogger.writeRecord (logger : JsonLogger) (t : Timestamp) (r : LogRecord) : List Byte :=
  logger.write t r.1 r.2.1 r.2.2

/-! ## The reader -/

/-- What a reader takes of a line: the members after the time.
Source: none: infrastructure -/
def readLine (line : List Byte) : Option (List (List Byte × Json.Value)) :=
  match Json.parse (line ++ [newline]) with
  | some (.object (_ :: members)) => some members
  | _ => none

/-- What a reader takes of the log. Source: none: infrastructure -/
def readLog (s : List Byte) : List (Option (List (List Byte × Json.Value))) :=
  (Lines.complete newline s).map readLine

/-! ## One record -/

section record

variable {logger : JsonLogger} {t : Timestamp} {r : LogRecord} {f : Field}

/-- A record below the minimum level writes nothing. Source: `json_logger.cpp` `JsonLogger::log` -/
theorem writeRecord_hidden (h : logger.shows r = false) : logger.writeRecord t r = [] := by
  have hbelow : r.1.toNat < logger.minLevel.toNat := Nat.not_le.mp (of_decide_eq_false h)
  have hfields : ∀ (fields : List Field), fields.foldl Line.field ⟨false, []⟩ = ⟨false, []⟩ := by
    intro fields
    induction fields with
    | nil => rfl
    | cons f fields ih =>
        rw [List.foldl_cons]
        cases f <;> exact ih
  unfold JsonLogger.writeRecord JsonLogger.write JsonLogger.log
  rw [if_pos hbelow, hfields]
  rfl

/-- `escape` brings in no newline. Source: `json_logger.cpp` `escape` -/
theorem newline_not_mem_escape {value : List Byte} (h : newline ∉ value) : newline ∉ escape value := by
  intro hmem
  obtain ⟨c, hc, hcases⟩ := List.mem_flatMap.mp hmem
  have hne : newline ≠ c := fun heq => h (heq ▸ hc)
  split_ifs at hcases
  · rcases List.mem_cons.mp hcases with h92 | hcases
    · cases h92
    · exact hne (List.mem_singleton.mp hcases)
  · exact hne (List.mem_singleton.mp hcases)

/-- The text of a member has no newline if its string has none.
Source: `json_logger.cpp` `JsonLogger::Line::field` -/
theorem newline_not_mem_memberText (hkey : Json.Clean f.key) (hline : f.OneLine) :
    newline ∉ f.memberText := by
  have hplain : ∀ {s : List Byte}, Json.Plain s → newline ∉ s := by
    intro s hs hmem
    cases hs newline hmem
  have hmarks : newline ≠ 34 ∧ newline ≠ 58 := by decide
  have hvalue : newline ∉ f.valueText := by
    cases f with
    | string key value => simp [Field.valueText, newline_not_mem_escape hline, hmarks]
    | number key value => exact hplain (Json.clean_of_digits (isNumeral_decimal value.toNat).2).plain
  simp [Field.memberText, hplain hkey.plain, hvalue, hmarks]

/-- **A record that is shown is one line, and read back from it.**
Source: `json_logger.cpp` `JsonLogger::log`, `JsonLogger::Line` -/
theorem writeRecord_shown (hshows : logger.shows r = true) (hr : r.OneLine) :
    ∃ line, logger.writeRecord t r = line ++ [newline] ∧ newline ∉ line ∧ readLine line = r.read := by
  have hlevel : logger.minLevel.toNat ≤ r.1.toNat := of_decide_eq_true hshows
  obtain ⟨-, hevents, hfields⟩ := clean_names r.1
  have hevent := hevents _ hr.event
  have hkeys : ∀ f ∈ r.2.2, Json.Clean f.key := fun f hf => hfields _ (hr.keys f hf)
  have hlines : ∀ f ∈ logFields t r.1 r.2.1 r.2.2, f.OneLine := by
    have hclean : ∀ {s : List Byte}, Json.Clean s → newline ∉ s := by
      intro s hs hmem
      cases (hs newline hmem).1
    simp only [logFields, List.forall_mem_cons]
    exact ⟨hclean (clean_rfc3339 t), hclean (clean_names r.1).1, hclean hevent, hr.fields⟩
  have hmembers : ∀ f ∈ logFields t r.1 r.2.1 r.2.2, newline ∉ f.memberText := fun f hf =>
    newline_not_mem_memberText (clean_logFields t r.1 r.2.1 hkeys f hf) (hlines f hf)
  have hparse := parse_write (t := t) hlevel hevent hkeys
  have hwrite : logger.writeRecord t r = 123 :: ((Field.string (text "ts") t.rfc3339).memberText ++
      (.string (text "level") r.1.levelString :: .string (text "event") r.2.1 :: r.2.2).flatMap
        (fun f => 44 :: f.memberText)) ++ [125] ++ [newline] := by
    rw [JsonLogger.writeRecord, write_eq hlevel hevent, List.append_assoc]
    rfl
  refine ⟨_, hwrite, ?_, ?_⟩
  · intro hmem
    simp only [logFields, List.forall_mem_cons] at hmembers
    obtain ⟨hts, hlevel, hevent, hfields⟩ := hmembers
    simp only [List.mem_append, List.mem_cons, List.mem_flatMap, List.not_mem_nil, or_false] at hmem
    rcases hmem with (h | h | ⟨f, hf, h | h⟩) | h
    · cases h
    · exact hts h
    · cases h
    · rcases hf with rfl | rfl | hf
      · exact hlevel h
      · exact hevent h
      · exact hfields f hf h
    · cases h
  · rw [readLine, ← hwrite, JsonLogger.writeRecord, hparse, LogRecord.read]
    split_ifs <;> rfl

end record

/-! ## The whole log -/

/-- `Printed logger s rs`: the logger has written `s` for the records `rs`.
Source: `json_logger.cpp` `JsonLogger::Line::~Line` -/
inductive Printed (logger : JsonLogger) : List Byte → List LogRecord → Prop
  | nil : Printed logger [] []
  | cons (t : Timestamp) (r : LogRecord) {s : List Byte} {rs : List LogRecord}
      (rest : Printed logger s rs) : Printed logger (logger.writeRecord t r ++ s) (r :: rs)

section log

variable {logger : JsonLogger} {s s' : List Byte} {rs rs' : List LogRecord}

/-- One record. Source: none: infrastructure -/
theorem printed_one (t : Timestamp) (r : LogRecord) : Printed logger (logger.writeRecord t r) [r] := by
  have hone : Printed logger (logger.writeRecord t r ++ []) [r] := .cons t r .nil
  rwa [List.append_nil] at hone

/-- Logs are joined. Source: none: infrastructure -/
theorem Printed.append (h : Printed logger s rs) (h' : Printed logger s' rs') :
    Printed logger (s ++ s') (rs ++ rs') := by
  induction h with
  | nil => exact h'
  | cons t r rest ih =>
      rw [List.append_assoc]
      exact .cons t r ih

/-- **The log, read back**: the records that are shown, in their order, and nothing after the last line.
Source: `json_logger.cpp` `JsonLogger::log`, `JsonLogger::Line` -/
theorem readLog_of_printed (h : Printed logger s rs) (hlines : ∀ r ∈ rs, r.OneLine) :
    readLog s = (rs.filter logger.shows).map LogRecord.read ∧ Lines.pending newline s = [] := by
  induction h with
  | nil => exact ⟨by simp [readLog], Lines.pending_nil⟩
  | cons t r rest ih =>
      obtain ⟨hr, hrest⟩ := List.forall_mem_cons.mp hlines
      obtain ⟨hread, hpending⟩ := ih hrest
      cases hshows : logger.shows r with
      | false =>
          rw [writeRecord_hidden hshows, List.nil_append, List.filter_cons_of_neg (by simp [hshows])]
          exact ⟨hread, hpending⟩
      | true =>
          obtain ⟨line, hline, hnewline, hrecord⟩ := writeRecord_shown (t := t) hshows hr
          rw [hline, List.append_assoc, List.singleton_append, List.filter_cons_of_pos hshows, readLog,
            Lines.complete_line hnewline, Lines.pending_line]
          refine ⟨?_, hpending⟩
          rw [List.map_cons, List.map_cons, hrecord]
          exact congrArg _ hread

end log

end Hamstercam
