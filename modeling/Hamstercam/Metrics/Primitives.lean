import Hamstercam.Lib.GeneralFormat
import Hamstercam.Lib.PlainExposition
import Hamstercam.Text

/-!
# The primitives of the metrics pages

`metrics_primitives.cpp`: the lines that every metric of the program is written with. A function that
appends to a stream is the text it appends.

* `writeMetricHeader`, `writeMetricSample`, `writeCounter`, `writeGauge` — the primitives.
* `header`, `single` — what the lines say; `writeMetricHeader_eq`, `writeMetricSample_eq` and
  `writeGauge_eq` give the text of a line as what it says, written as it stands: nothing is escaped.
* `isPlain_single`, `readable_single` — a sample without labels is readable when its value is a number.
-/

namespace Hamstercam

open Decimal GeneralFormat
open Exposition (Sample Entry Clean IsName isNameChar isLabelChar isValueChar plainLabel plainLabels)

/-! ## The primitives -/

/-- One label and its value. Source: `metrics_primitives.hpp` `MetricLabel` -/
abbrev MetricLabel : Type := List Byte × List Byte

/-- Default `ostream` formatting: `%g` with precision 6.
Source: `metrics_primitives.cpp` `format_metric_double` -/
def formatMetricDouble (v : ℚ) : List Byte := general 6 v

/-- Source: `metrics_primitives.cpp` `write_metric_header` -/
def writeMetricHeader (name help type : List Byte) : List Byte :=
  text "# HELP " ++ name ++ text " " ++ help ++ text "\n" ++
    (text "# TYPE " ++ name ++ text " " ++ type ++ text "\n")

/-- Source: `metrics_primitives.cpp` `write_metric_sample` -/
def writeMetricSample (name value : List Byte) (labels : List MetricLabel) : List Byte :=
  name ++
    (if labels = [] then []
      else text "\x7b" ++
        (labels.zipIdx.flatMap fun (l, i) =>
          (if i > 0 then text "," else []) ++ l.1 ++ text "=\"" ++ l.2 ++ text "\"") ++
        text "\x7d") ++
    text " " ++ value ++ text "\n"

/-- Source: `metrics_primitives.cpp` `write_counter` -/
def writeCounter (name help : List Byte) (value : UInt64) : List Byte :=
  writeMetricHeader name help (text "counter") ++ writeMetricSample name (decimal value.toNat) []

/-- Source: `metrics_primitives.cpp` `write_gauge` -/
def writeGauge (name help value : List Byte) : List Byte :=
  writeMetricHeader name help (text "gauge") ++ writeMetricSample name value []

/-! ## What the lines say -/

/-- The header lines of a metric.
Source: `metrics_primitives.hpp` `write_metric_header` (comment) -/
def header (name help type : List Byte) : List Entry := [.help name help, .type name type]

/-- A metric with one sample and no labels.
Source: `metrics_primitives.hpp` `write_counter`, `write_gauge` (comment) -/
def single (name help type value : List Byte) : List Entry :=
  header name help type ++ [.sample ⟨name, [], value, none⟩]

variable {name help type value : List Byte} {labels : List MetricLabel}

/-- Source: `metrics_primitives.cpp` `write_metric_header` -/
@[simp] theorem text_help : text "# HELP " = [35, 32, 72, 69, 76, 80, 32] := rfl

/-- Source: `metrics_primitives.cpp` `write_metric_header` -/
@[simp] theorem text_type : text "# TYPE " = [35, 32, 84, 89, 80, 69, 32] := rfl

/-- What stands between the parts of a line. Source: `metrics_primitives.cpp` `write_metric_sample` -/
@[simp] theorem text_separators : text " " = [32] ∧ text "\n" = [10] ∧ text "," = [44] ∧
    text "=\"" = [61, 34] ∧ text "\"" = [34] ∧ text "\x7b" = [123] ∧ text "\x7d" = [125] :=
  ⟨rfl, rfl, rfl, rfl, rfl, rfl, rfl⟩

/-- Source: `metrics_primitives.cpp` `write_metric_header` -/
theorem writeMetricHeader_eq (name help type : List Byte) :
    writeMetricHeader name help type = (header name help type).flatMap Entry.plain := by
  simp [writeMetricHeader, header, Entry.plain]

/-- The labels past the first one, each with its comma.
Source: `metrics_primitives.cpp` `write_metric_sample` -/
theorem flatMap_zipIdx_succ (labels : List MetricLabel) (k : Nat) :
    ((labels.zipIdx (k + 1)).flatMap fun (l, i) =>
        (if i > 0 then text "," else []) ++ l.1 ++ text "=\"" ++ l.2 ++ text "\"") ++ [125] =
      if labels = [] then [125] else 44 :: plainLabels labels := by
  induction labels generalizing k with
  | nil => rfl
  | cons l labels ih =>
      rw [List.zipIdx_cons, List.flatMap_cons, List.append_assoc, ih (k + 1),
        if_neg (List.cons_ne_nil l labels)]
      by_cases hlabels : labels = []
      · simp [hlabels, plainLabels, plainLabel]
      · simp [hlabels, Exposition.plainLabels_cons, plainLabel]

/-- Source: `metrics_primitives.cpp` `write_metric_sample` -/
theorem flatMap_zipIdx (hlabels : labels ≠ []) :
    (labels.zipIdx.flatMap fun (l, i) =>
        (if i > 0 then text "," else []) ++ l.1 ++ text "=\"" ++ l.2 ++ text "\"") ++ [125] =
      plainLabels labels := by
  obtain ⟨l, rest, rfl⟩ := List.exists_cons_of_ne_nil hlabels
  rw [List.zipIdx_cons, List.flatMap_cons, List.append_assoc, flatMap_zipIdx_succ rest 0]
  by_cases hrest : rest = []
  · simp [hrest, plainLabels, plainLabel]
  · simp [hrest, Exposition.plainLabels_cons, plainLabel]

/-- **A sample is written as it stands.**
Source: `metrics_primitives.cpp` `write_metric_sample` -/
theorem writeMetricSample_eq (name value : List Byte) (labels : List MetricLabel) :
    writeMetricSample name value labels = (⟨name, labels, value, none⟩ : Sample).plain := by
  have hclose : text "\x7d" = [125] := rfl
  unfold writeMetricSample Sample.plain
  by_cases hlabels : labels = []
  · simp [hlabels]
  · rw [if_neg hlabels, if_neg hlabels, List.append_assoc (text "\x7b"), hclose,
      flatMap_zipIdx hlabels]
    simp

/-- Source: `metrics_primitives.cpp` `write_counter` -/
theorem writeCounter_eq (name help : List Byte) (value : UInt64) : writeCounter name help value =
    (single name help (text "counter") (decimal value.toNat)).flatMap Entry.plain := by
  rw [writeCounter, writeMetricHeader_eq, writeMetricSample_eq, single, List.flatMap_append]
  exact congrArg _ (List.append_nil _).symm

/-- Source: `metrics_primitives.cpp` `write_gauge` -/
theorem writeGauge_eq (name help value : List Byte) : writeGauge name help value =
    (single name help (text "gauge") value).flatMap Entry.plain := by
  rw [writeGauge, writeMetricHeader_eq, writeMetricSample_eq, single, List.flatMap_append]
  exact congrArg _ (List.append_nil _).symm

/-! ## Numbers as values -/

/-- The bytes that would end a value or a label value, and the brace that would begin labels, are none
of a number. Source: none: infrastructure -/
theorem isNumberChar_spec {c : Byte} (hc : isNumberChar c = true) :
    isValueChar c = true ∧ Exposition.isSpecial c = false ∧ c ≠ 123 := by
  have hnone : [32, 9, 10, 92, 34, 123].all (fun d => !isNumberChar d) = true := by decide
  have hne : ∀ d ∈ [32, 9, 10, 92, 34, 123], c ≠ d := by
    rintro d hd rfl
    have hnot := List.all_eq_true.mp hnone c hd
    rw [hc] at hnot
    exact absurd hnot Bool.false_ne_true
  refine ⟨?_, ?_, hne 123 (by simp)⟩
  · simp [isValueChar, Exposition.isBlank, hne 32, hne 9, hne 10]
  · simp [Exposition.isSpecial, hne 92, hne 34, hne 10]

/-- Source: none: infrastructure -/
theorem isValue_of_isNumberText {s : List Byte} (hs : IsNumberText s) : ∀ c ∈ s, isValueChar c = true :=
  fun c hc => (isNumberChar_spec (hs.2 c hc)).1

/-- A number as a label value needs no escape. Source: none: infrastructure -/
theorem clean_of_isNumberText {s : List Byte} (hs : IsNumberText s) : Clean s :=
  fun c hc => (isNumberChar_spec (hs.2 c hc)).2.1

/-- Source: `exporter_metrics.cpp` `render_exporter_metrics`, `metrics.cpp` `render_metrics` -/
theorem isNumberText_signedDecimal (n : Int) : IsNumberText (signedDecimal n) := by
  unfold signedDecimal
  by_cases hn : n < 0
  · rw [if_pos hn]
    exact isNumberText_cons (by decide) (isNumberText_decimal n.natAbs).2
  · rw [if_neg hn]
    exact isNumberText_decimal n.natAbs

/-- Source: `metrics_primitives.cpp` `format_metric_double` -/
theorem isNumberText_formatMetricDouble (v : ℚ) : IsNumberText (formatMetricDouble v) :=
  isNumberText_general 6 v

/-! ## Well-formed metrics -/

/-- A name, a help text and a type that the header lines can hold as they stand.
Source: none: infrastructure -/
def IsHeader (name help type : List Byte) : Prop :=
  IsName isNameChar name ∧ ((∀ c ∈ help, c ≠ 10 ∧ c ≠ 92) ∧ help.head?.any Exposition.isBlank = false) ∧
    type ∈ Exposition.kinds

/-- Source: none: infrastructure -/
theorem lawfulBEq_bytes : LawfulBEq (List Byte) := inferInstance

instance (name help type : List Byte) : Decidable (IsHeader name help type) :=
  @instDecidableAnd _ _ inferInstance (@instDecidableAnd _ _
    (@instDecidableAnd _ _ (List.decidableBAll _ help) inferInstance)
    (@List.instDecidableMemOfLawfulBEq _ _ lawfulBEq_bytes type Exposition.kinds))

/-- To decide about a literal is to decide about its characters. Source: none: infrastructure -/
theorem isName_text {p : Byte → Bool} {s : List Char}
    (h : IsName p (s.map fun c => c.toNat.toUInt8)) : IsName p (text (String.ofList s)) := by
  rw [text_ofList]
  exact h

/-- To decide about literals is to decide about their characters. Source: none: infrastructure -/
theorem isHeader_text {name help type : List Char}
    (h : IsHeader (name.map fun c => c.toNat.toUInt8) (help.map fun c => c.toNat.toUInt8)
      (type.map fun c => c.toNat.toUInt8)) :
    IsHeader (text (String.ofList name)) (text (String.ofList help)) (text (String.ofList type)) := by
  rw [text_ofList, text_ofList, text_ofList]
  exact h

/-- Source: `metrics_primitives.cpp` `write_metric_header` -/
theorem isPlain_header (h : IsHeader name help type) : ∀ e ∈ header name help type, e.IsPlain := by
  obtain ⟨hname, hhelp, htype⟩ := h
  intro e he
  rcases List.mem_pair.mp he with rfl | rfl
  · exact ⟨hname, hhelp⟩
  · exact ⟨hname, htype⟩

/-- Source: `metrics_primitives.cpp` `write_metric_header` -/
theorem readable_header (name help type : List Byte) : ∀ e ∈ header name help type, e.Readable := by
  intro e he
  rcases List.mem_pair.mp he with rfl | rfl <;> trivial

/-- Source: `metrics_primitives.cpp` `write_metric_sample` -/
theorem isPlain_sample (hname : IsName isNameChar name) (hlabels : ∀ l ∈ labels, IsName isLabelChar l.1)
    (hvalue : IsNumberText value) : (Entry.sample ⟨name, labels, value, none⟩).IsPlain :=
  ⟨hname, hlabels, isValue_of_isNumberText hvalue, rfl⟩

/-- A sample whose value is a number is readable if its labels are clean, and only then.
Source: `metrics_primitives.cpp` `write_metric_sample` -/
theorem readable_sample_iff (hvalue : IsNumberText value) :
    (Entry.sample ⟨name, labels, value, none⟩).Readable ↔ ∀ l ∈ labels, Clean l.2 := by
  show _ ∧ _ ∧ _ ↔ _
  constructor
  · exact fun h => h.1
  · intro hclean
    refine ⟨hclean, hvalue.1, fun _ hhead => ?_⟩
    obtain ⟨w, rfl⟩ := List.head?_eq_some_iff.mp hhead
    exact (isNumberChar_spec (hvalue.2 123 List.mem_cons_self)).2.2 rfl

/-- Source: `metrics_primitives.cpp` `write_counter`, `write_gauge` -/
theorem isPlain_single (h : IsHeader name help type) (hvalue : IsNumberText value) :
    ∀ e ∈ single name help type value, e.IsPlain := by
  unfold single
  refine List.forall_mem_append.mpr ⟨isPlain_header h, List.forall_mem_singleton.mpr ?_⟩
  exact isPlain_sample h.1 (fun l hl => absurd hl List.not_mem_nil) hvalue

/-- Source: `metrics_primitives.cpp` `write_counter`, `write_gauge` -/
theorem readable_single (name help type : List Byte) (hvalue : IsNumberText value) :
    ∀ e ∈ single name help type value, e.Readable := by
  unfold single
  refine List.forall_mem_append.mpr ⟨readable_header name help type, ?_⟩
  refine List.forall_mem_singleton.mpr ?_
  exact (readable_sample_iff hvalue).mpr fun l hl => absurd hl List.not_mem_nil

/-- Source: `metrics_primitives.cpp` `write_counter`, `write_gauge` -/
theorem single_spec (h : IsHeader name help type) (hvalue : IsNumberText value) :
    ∀ e ∈ single name help type value, e.IsPlain ∧ e.Readable :=
  fun e he => ⟨isPlain_single h hvalue e he, readable_single name help type hvalue e he⟩

end Hamstercam
