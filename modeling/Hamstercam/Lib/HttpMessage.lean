import Mathlib.Data.List.DropRight
import Hamstercam.Lib.Decimal

/-!
# Responses in HTTP/1.1, read from a stream

A reader for responses whose body has a `Content-Length`, over bytes.

* `Response` — the status, the reason, the header fields and the body of a response. `Response.write` is
  its text.
* `line`, `statusLine`, `field`, `fields`, `contentLength`, `message` — the readers. A reader takes its
  part off the front of the text and leaves the rest.
* `Stable read` — what is read does not depend on what comes after it. `Stable.cut_short` is the use
  of it: a text that is read to its end is not read before its end has come.
* `message_write_iff` — a response is read as it was written if and only if it is `WellFormed`.
-/

namespace HttpMessage

open Decimal

/-! ## Readers -/

/-- A reader takes its part off the front of a text. Source: none: infrastructure -/
abbrev Reader (α : Type) : Type := List UInt8 → Option (α × List UInt8)

/-- What is read does not depend on what comes after it. Source: none: infrastructure -/
def Stable {α : Type} (read : Reader α) : Prop :=
  ∀ {s a rest}, read s = some (a, rest) → ∀ t, read (s ++ t) = some (a, rest ++ t)

/-- **What is read to its end is not read before its end has come.** Source: none: infrastructure -/
theorem Stable.cut_short {α : Type} {read : Reader α} {s t : List UInt8} {a : α} (h : Stable read)
    (hall : read (s ++ t) = some (a, [])) (ht : t ≠ []) : read s = none := by
  by_contra hsome
  obtain ⟨⟨b, rest⟩, hb⟩ := Option.ne_none_iff_exists'.mp hsome
  have hagain := h hb t
  rw [hall] at hagain
  have hnil : rest ++ t = [] := (Prod.mk.inj (Option.some.inj hagain)).2.symm
  exact ht (List.append_eq_nil_iff.mp hnil).2

/-! ## The grammar -/

/-- A response. Source: none: infrastructure -/
structure Response where
  status : Nat
  reason : List UInt8
  fields : List (List UInt8 × List UInt8)
  body : List UInt8
  deriving DecidableEq

/-- A byte that can stand in a field or a reason: no carriage return, no line feed and no NUL.
Source: none: infrastructure -/
def isPlain (c : UInt8) : Bool := c != 13 && c != 10 && c != 0

/-- The bytes of a field name. Source: none: infrastructure -/
def isTokenByte (c : UInt8) : Bool :=
  isDigit c || (97 ≤ c && c ≤ 122) || (65 ≤ c && c ≤ 90) ||
    [33, 35, 36, 37, 38, 39, 42, 43, 45, 46, 94, 95, 96, 124, 126].contains c

/-- A blank around a field value. Source: none: infrastructure -/
def isBlank (c : UInt8) : Bool := c = 32 || c = 9

/-- A value without the blanks around it. Source: none: infrastructure -/
def trim (v : List UInt8) : List UInt8 := (v.dropWhile isBlank).rdropWhile isBlank

/-- Field names do not tell upper and lower case apart. Source: none: infrastructure -/
def lower (c : UInt8) : UInt8 := if 65 ≤ c && c ≤ 90 then c + 32 else c

/-- The text up to the first carriage return with a line feed after it.
Source: none: infrastructure -/
def line : Reader (List UInt8)
  | [] => none
  | c :: s =>
      if c = 13 ∧ s.head? = some 10 then some ([], s.tail)
      else (line s).map fun p => (c :: p.1, p.2)

/-- `HTTP/1.1 ` Source: none: infrastructure -/
abbrev version : List UInt8 := [72, 84, 84, 80, 47, 49, 46, 49, 32]

/-- The status, which has three digits, and the reason. Source: none: infrastructure -/
def statusLine (l : List UInt8) : Option (Nat × List UInt8) :=
  let s := l.drop 9
  if l.take 9 = version ∧ (s.takeWhile isDigit).length = 3 ∧ (s.dropWhile isDigit).head? = some 32 ∧
      (s.dropWhile isDigit).tail.all isPlain then
    some (value (s.takeWhile isDigit), (s.dropWhile isDigit).tail)
  else none

/-- A header field: its name and its value. Source: none: infrastructure -/
def field (l : List UInt8) : Option (List UInt8 × List UInt8) :=
  let name := l.takeWhile isTokenByte
  let rest := l.dropWhile isTokenByte
  if name ≠ [] ∧ rest.head? = some 58 ∧ (trim rest.tail).all isPlain then some (name, trim rest.tail)
  else none

/-- A line is shorter than what it is read from. Source: none: infrastructure -/
theorem line_length {s l rest : List UInt8} (h : line s = some (l, rest)) :
    l.length + rest.length + 2 = s.length := by
  induction s generalizing l with
  | nil => cases h
  | cons c s ih =>
      rw [line] at h
      by_cases hend : c = 13 ∧ s.head? = some 10
      · rw [if_pos hend] at h
        obtain ⟨rfl, rfl⟩ := Prod.mk.inj (Option.some.inj h)
        cases s with
        | nil => simp at hend
        | cons d s => simp
      · rw [if_neg hend] at h
        obtain ⟨⟨m, r⟩, hm, heq⟩ := Option.map_eq_some_iff.mp h
        obtain ⟨rfl, rfl⟩ := Prod.mk.inj heq
        have hlength := ih hm
        simp only [List.length_cons] at hlength ⊢
        omega

/-- The header fields, up to the empty line. Source: none: infrastructure -/
def fields (s : List UInt8) : Option (List (List UInt8 × List UInt8) × List UInt8) :=
  match _ : line s with
  | none => none
  | some ([], rest) => some ([], rest)
  | some (c :: l, rest) => do
      let f ← field (c :: l)
      let (fs, rest) ← fields rest
      return (f :: fs, rest)
termination_by s.length
decreasing_by
  rename_i h
  have hlength := line_length h
  omega

/-- `content-length` Source: none: infrastructure -/
abbrev contentLengthName : List UInt8 :=
  [99, 111, 110, 116, 101, 110, 116, 45, 108, 101, 110, 103, 116, 104]

/-- The length of the body, which stands in one field. Source: none: infrastructure -/
def contentLength (fs : List (List UInt8 × List UInt8)) : Option Nat :=
  match fs.filter fun f => f.1.map lower = contentLengthName with
  | [f] => denotes f.2
  | _ => none

/-- The body, once all of it has come. Source: none: infrastructure -/
def body (n : Nat) (s : List UInt8) : Option (List UInt8 × List UInt8) :=
  if n ≤ s.length then some (s.take n, s.drop n) else none

/-- **A response.** Source: none: infrastructure -/
def message (s : List UInt8) : Option (Response × List UInt8) := do
  let (l, s) ← line s
  let (status, reason) ← statusLine l
  let (fs, s) ← fields s
  let n ← contentLength fs
  let (b, rest) ← body n s
  return (⟨status, reason, fs, b⟩, rest)

/-! ## What is read does not depend on what comes next -/

/-- Source: none: infrastructure -/
theorem stable_line : Stable line := by
  intro s
  induction s with
  | nil =>
      intro l rest h
      cases h
  | cons c s ih =>
      intro l rest h t
      rw [line] at h
      rw [List.cons_append, line]
      by_cases hend : c = 13 ∧ s.head? = some 10
      · rw [if_pos hend] at h
        obtain ⟨rfl, rfl⟩ := Prod.mk.inj (Option.some.inj h)
        cases s with
        | nil => simp at hend
        | cons d s => rw [List.cons_append, if_pos (by simpa using hend)]; rfl
      · rw [if_neg hend] at h
        obtain ⟨⟨m, r⟩, hm, heq⟩ := Option.map_eq_some_iff.mp h
        obtain ⟨rfl, rfl⟩ := Prod.mk.inj heq
        have hlong := line_length hm
        have hnot : ¬ (c = 13 ∧ (s ++ t).head? = some 10) := by
          cases s with
          | nil => simp at hlong
          | cons d s => simpa using hend
        rw [if_neg hnot, ih hm t]
        rfl

/-- Source: none: infrastructure -/
theorem stable_body (n : Nat) : Stable (body n) := by
  intro s b rest h t
  unfold body at h ⊢
  by_cases hn : n ≤ s.length
  · rw [if_pos hn] at h
    obtain ⟨rfl, rfl⟩ := Prod.mk.inj (Option.some.inj h)
    rw [if_pos (hn.trans (by simp)), List.take_append_of_le_length hn, List.drop_append_of_le_length hn]
  · rw [if_neg hn] at h
    cases h

/-- Source: none: infrastructure -/
theorem fields_nil {s rest : List UInt8} (h : line s = some ([], rest)) :
    fields s = some ([], rest) := by
  rw [fields]
  split <;> simp_all

/-- Source: none: infrastructure -/
theorem fields_cons {s l rest : List UInt8} (h : line s = some (l, rest)) (hl : l ≠ []) :
    fields s = (field l).bind fun f => (fields rest).map fun p => (f :: p.1, p.2) := by
  rw [fields]
  split
  · simp_all
  · simp_all
  · next c l' rest' h' =>
      rw [h] at h'
      obtain ⟨rfl, rfl⟩ := Prod.mk.inj (Option.some.inj h')
      simp only [Option.map_eq_bind]
      rfl

/-- Source: none: infrastructure -/
theorem stable_fields : Stable fields := by
  intro s
  fun_induction fields s with
  | case1 s hline =>
      intro fs rest h
      cases h
  | case2 s rest₁ hline =>
      intro fs rest h t
      obtain ⟨rfl, rfl⟩ := Prod.mk.inj (Option.some.inj h)
      exact fields_nil (stable_line hline t)
  | case3 s c l rest₁ hline ih =>
      intro fs rest h t
      obtain ⟨f, hf, h⟩ := Option.bind_eq_some_iff.mp h
      obtain ⟨⟨gs, r⟩, hgs, heq⟩ := Option.bind_eq_some_iff.mp h
      obtain ⟨rfl, rfl⟩ := Prod.mk.inj (Option.some.inj heq)
      rw [fields_cons (stable_line hline t) (List.cons_ne_nil c l), hf, Option.bind_some, ih hgs t]
      rfl

/-- The parts of a message that has been read. Source: none: infrastructure -/
theorem message_eq_some {s rest : List UInt8} {m : Response} :
    message s = some (m, rest) ↔ ∃ l s₁ s₂ n, line s = some (l, s₁) ∧
      statusLine l = some (m.status, m.reason) ∧ fields s₁ = some (m.fields, s₂) ∧
      contentLength m.fields = some n ∧ body n s₂ = some (m.body, rest) := by
  constructor
  · intro h
    obtain ⟨⟨l, s₁⟩, hline, h⟩ := Option.bind_eq_some_iff.mp h
    obtain ⟨⟨status, reason⟩, hstatus, h⟩ := Option.bind_eq_some_iff.mp h
    obtain ⟨⟨fs, s₂⟩, hfields, h⟩ := Option.bind_eq_some_iff.mp h
    obtain ⟨n, hlength, h⟩ := Option.bind_eq_some_iff.mp h
    obtain ⟨⟨b, r⟩, hbody, h⟩ := Option.bind_eq_some_iff.mp h
    obtain ⟨rfl, rfl⟩ := Prod.mk.inj (Option.some.inj h)
    exact ⟨l, s₁, s₂, n, hline, hstatus, hfields, hlength, hbody⟩
  · rintro ⟨l, s₁, s₂, n, hline, hstatus, hfields, hlength, hbody⟩
    simp [message, hline, hstatus, hfields, hlength, hbody]

/-- **A message ends where it says.** Source: none: infrastructure -/
theorem stable_message : Stable message := by
  intro s m rest h t
  obtain ⟨l, s₁, s₂, n, hline, hstatus, hfields, hlength, hbody⟩ := message_eq_some.mp h
  exact message_eq_some.mpr ⟨l, s₁ ++ t, s₂ ++ t, n, stable_line hline t, hstatus,
    stable_fields hfields t, hlength, stable_body n hbody t⟩

/-! ## What is read is well formed -/

section values

variable {v l name reason : List UInt8} {m : Response}

/-- A value that can be read as it stands. Source: none: infrastructure -/
structure IsValue (v : List UInt8) : Prop where
  plain : v.all isPlain = true
  trimmed : trim v = v

/-- A name that can be read as it stands. Source: none: infrastructure -/
def IsToken (name : List UInt8) : Prop := name ≠ [] ∧ name.all isTokenByte = true

/-- Source: none: infrastructure -/
theorem dropWhile_of_head (h : ∀ c ∈ v.head?, isBlank c = false) : v.dropWhile isBlank = v := by
  cases v with
  | nil => rfl
  | cons c v => exact List.dropWhile_cons_of_neg (by simp [h c rfl])

/-- Source: none: infrastructure -/
theorem trim_trim (v : List UInt8) : trim (trim v) = trim v := by
  have hfront : (trim v).dropWhile isBlank = trim v := by
    apply dropWhile_of_head
    intro c hc
    obtain ⟨rest, hrest⟩ := List.rdropWhile_prefix isBlank (v.dropWhile isBlank)
    have hfirst : (v.dropWhile isBlank).head? = some c := by
      rw [← hrest, List.head?_append, show (List.rdropWhile isBlank _).head? = some c from hc,
        Option.some_or]
    have hhead := List.head?_dropWhile_not isBlank v
    rw [hfirst] at hhead
    exact hhead
  rw [trim, hfront]
  exact List.rdropWhile_idempotent isBlank _

/-- What a field is read to can be written. Source: none: infrastructure -/
theorem isValue_of_field (h : field l = some (name, v)) : IsToken name ∧ IsValue v := by
  dsimp only [field] at h
  split at h
  · next hparts =>
      obtain ⟨rfl, rfl⟩ := Prod.mk.inj (Option.some.inj h)
      exact ⟨⟨hparts.1, List.all_takeWhile⟩, hparts.2.2, trim_trim _⟩
  · cases h

/-- Source: none: infrastructure -/
theorem isValue_of_fields {s rest : List UInt8} {fs : List (List UInt8 × List UInt8)}
    (h : fields s = some (fs, rest)) : ∀ f ∈ fs, IsToken f.1 ∧ IsValue f.2 := by
  induction hn : s.length using Nat.strong_induction_on generalizing s fs with
  | _ n ih =>
      cases hline : line s with
      | none => rw [fields] at h; split at h <;> simp_all
      | some p =>
          obtain ⟨l, rest₁⟩ := p
          by_cases hl : l = []
          · rw [hl] at hline
            rw [fields_nil hline] at h
            obtain ⟨rfl, rfl⟩ := Prod.mk.inj (Option.some.inj h)
            exact fun f hf => absurd hf List.not_mem_nil
          · rw [fields_cons hline hl] at h
            obtain ⟨f, hf, h⟩ := Option.bind_eq_some_iff.mp h
            obtain ⟨⟨gs, r⟩, hgs, heq⟩ := Option.map_eq_some_iff.mp h
            obtain ⟨rfl, rfl⟩ := Prod.mk.inj heq
            have hshort := line_length hline
            exact List.forall_mem_cons.mpr ⟨isValue_of_field hf, ih _ (by omega) hgs rfl⟩

/-! ## Writing -/

/-- `": "` and the end of a line around a field. Source: none: infrastructure -/
def writeField (f : List UInt8 × List UInt8) : List UInt8 := f.1 ++ 58 :: 32 :: (f.2 ++ [13, 10])

/-- The text of a response. Source: none: infrastructure -/
def Response.write (m : Response) : List UInt8 :=
  version ++ decimal m.status ++ 32 :: (m.reason ++ [13, 10]) ++ m.fields.flatMap writeField ++
    13 :: 10 :: m.body

/-- The status has three digits, the reason and the fields have only bytes of their own, and the length
of the body is the one that is given. Source: none: infrastructure -/
structure Response.WellFormed (m : Response) : Prop where
  status : 100 ≤ m.status ∧ m.status ≤ 999
  reason : m.reason.all isPlain = true
  fields : ∀ f ∈ m.fields, IsToken f.1 ∧ IsValue f.2
  length : contentLength m.fields = some m.body.length

/-- Source: none: infrastructure -/
theorem line_append (hl : 13 ∉ l) (rest : List UInt8) :
    line (l ++ 13 :: 10 :: rest) = some (l, rest) := by
  induction l with
  | nil => rw [List.nil_append, line, if_pos ⟨rfl, rfl⟩]; rfl
  | cons c l ih =>
      rw [List.mem_cons, not_or] at hl
      rw [List.cons_append, line, if_neg (fun h => hl.1 h.1.symm), ih hl.2]
      rfl

/-- Source: none: infrastructure -/
theorem not_mem_of_plain (h : v.all isPlain = true) : 13 ∉ v := by
  intro hmem
  exact absurd (List.all_eq_true.mp h 13 hmem) (by decide)

/-- Source: none: infrastructure -/
theorem isPlain_of_isTokenByte {c : UInt8} (h : isTokenByte c = true) : isPlain c = true := by
  have hall : ∀ c : Fin 256, isTokenByte (UInt8.ofNat c) = true → isPlain (UInt8.ofNat c) = true := by
    decide +kernel
  have hc := hall ⟨c.toNat, c.toNat_lt⟩
  rw [show UInt8.ofNat (⟨c.toNat, c.toNat_lt⟩ : Fin 256) = c from UInt8.ofNat_toNat] at hc
  exact hc h

/-- **A field is read as it was written.** Source: none: infrastructure -/
theorem fields_writeField (hname : IsToken name) (hv : IsValue v) (rest : List UInt8) :
    fields (writeField (name, v) ++ rest) = (fields rest).map fun p => ((name, v) :: p.1, p.2) := by
  have hcolon : isTokenByte 58 = false := by decide
  have hspan : (name ++ 58 :: 32 :: v).takeWhile isTokenByte = name ∧
      (name ++ 58 :: 32 :: v).dropWhile isTokenByte = 58 :: 32 :: v := by
    have hall := List.all_eq_true.mp hname.2
    rw [List.takeWhile_append_of_pos hall, List.dropWhile_append_of_pos hall]
    simp [hcolon]
  have hblank : trim (32 :: v) = v := by
    rw [trim, List.dropWhile_cons_of_pos (by decide)]
    exact hv.trimmed
  have hfield : field (name ++ 58 :: 32 :: v) = some (name, v) := by
    rw [field, hspan.1, hspan.2]
    simp only [List.tail_cons, List.head?_cons, hblank]
    exact if_pos ⟨hname.1, trivial, hv.plain⟩
  have hplain : 13 ∉ name ++ 58 :: 32 :: v := by
    have hn : 13 ∉ name := by
      refine not_mem_of_plain (List.all_eq_true.mpr fun c hc => ?_)
      exact isPlain_of_isTokenByte (List.all_eq_true.mp hname.2 c hc)
    have hvalue := not_mem_of_plain hv.plain
    simp [hn, hvalue]
  have htext : writeField (name, v) ++ rest = (name ++ 58 :: 32 :: v) ++ 13 :: 10 :: rest := by
    simp [writeField]
  rw [htext, fields_cons (line_append hplain rest) (by simp), hfield, Option.bind_some]

/-- Source: none: infrastructure -/
theorem fields_write {fs : List (List UInt8 × List UInt8)}
    (h : ∀ f ∈ fs, IsToken f.1 ∧ IsValue f.2) (rest : List UInt8) :
    fields (fs.flatMap writeField ++ 13 :: 10 :: rest) = some (fs, rest) := by
  induction fs with
  | nil => exact fields_nil (line_append List.not_mem_nil rest)
  | cons f fs ih =>
      obtain ⟨hf, hfs⟩ := List.forall_mem_cons.mp h
      rw [List.flatMap_cons, List.append_assoc, fields_writeField hf.1 hf.2, ih hfs]
      rfl

/-- What the status line is read to. Source: none: infrastructure -/
theorem statusLine_write (n : Nat) (hreason : reason.all isPlain = true) :
    statusLine (version ++ decimal n ++ 32 :: reason) =
      if (decimal n).length = 3 then some (n, reason) else none := by
  have hspan : (decimal n ++ 32 :: reason).takeWhile isDigit = decimal n ∧
      (decimal n ++ 32 :: reason).dropWhile isDigit = 32 :: reason := by
    refine span_decimal fun c hc => ?_
    obtain rfl : 32 = c := Option.some.inj hc
    decide
  have hvalue : value (decimal n) = n := (denotes_eq_some.mp (denotes_decimal n)).2
  have hdrop : (version ++ decimal n ++ 32 :: reason).drop 9 = decimal n ++ 32 :: reason := by
    rw [List.append_assoc]
    rfl
  have htake : (version ++ decimal n ++ 32 :: reason).take 9 = version := by
    rw [List.append_assoc]
    rfl
  dsimp only [statusLine]
  rw [hdrop, htake, hspan.1, hspan.2, hvalue]
  simp [hreason]

/-- Source: none: infrastructure -/
theorem length_decimal_eq_three {n : Nat} (hn : n ≤ 999) : (decimal n).length = 3 ↔ 100 ≤ n := by
  constructor
  · intro h
    by_contra hlow
    rcases Nat.lt_or_ge n 10 with hone | hten
    · rcases Nat.eq_zero_or_pos n with rfl | hpos
      · exact absurd h (by decide)
      · rw [length_decimal (k := 0) (by omega) (by omega)] at h
        cases h
    · rw [length_decimal (k := 1) (by omega) (by omega)] at h
      cases h
  · intro h
    exact length_decimal (k := 2) (by omega) (by omega)

/-- The status and the reason that are read. Source: none: infrastructure -/
theorem status_of_statusLine {n : Nat} (h : statusLine l = some (n, reason)) :
    n ≤ 999 ∧ reason.all isPlain = true := by
  dsimp only [statusLine] at h
  split at h
  · next hparts =>
      obtain ⟨rfl, rfl⟩ := Prod.mk.inj (Option.some.inj h)
      refine ⟨?_, hparts.2.2.2⟩
      have hvalue := value_lt (s := (l.drop 9).takeWhile isDigit) fun c hc => List.mem_takeWhile_imp hc
      rw [hparts.2.1] at hvalue
      omega
  · cases h

/-- The first line of a response that is written. Source: none: infrastructure -/
theorem line_write (hreason : m.reason.all isPlain = true) (rest : List UInt8) :
    line (m.write ++ rest) = some (version ++ decimal m.status ++ 32 :: m.reason,
      m.fields.flatMap writeField ++ 13 :: 10 :: (m.body ++ rest)) := by
  have hplain : 13 ∉ version ++ decimal m.status ++ 32 :: m.reason := by
    have hdigits : 13 ∉ decimal m.status := fun h => absurd ((isNumeral_decimal _).2 _ h) (by decide)
    have hr := not_mem_of_plain hreason
    simp [hdigits, hr]
  have htext : m.write ++ rest = (version ++ decimal m.status ++ 32 :: m.reason) ++
      13 :: 10 :: (m.fields.flatMap writeField ++ 13 :: 10 :: (m.body ++ rest)) := by
    simp [Response.write]
  rw [htext, line_append hplain]

/-- What is read as it was written is well formed. Source: none: infrastructure -/
theorem wellFormed_of_message {t rest : List UInt8} (h : message (m.write ++ t) = some (m, rest)) :
    m.WellFormed := by
  obtain ⟨l, s₁, s₂, n, hl, hstatus, hfields, hlength, hbody⟩ := message_eq_some.mp h
  obtain ⟨hmax, hreason⟩ := status_of_statusLine hstatus
  have hb : m.body.length = n := by
    unfold body at hbody
    split at hbody
    · next hn =>
        rw [← (Prod.mk.inj (Option.some.inj hbody)).1, List.length_take, Nat.min_eq_left hn]
    · cases hbody
  rw [line_write hreason] at hl
  obtain ⟨rfl, -⟩ := Prod.mk.inj (Option.some.inj hl)
  rw [statusLine_write _ hreason] at hstatus
  have hthree : (decimal m.status).length = 3 := by
    by_contra hnot
    rw [if_neg hnot] at hstatus
    cases hstatus
  exact ⟨⟨(length_decimal_eq_three hmax).mp hthree, hmax⟩, hreason, isValue_of_fields hfields,
    hb ▸ hlength⟩

/-- **A response is read as it was written if and only if it is well formed.** What comes after it is left.
Source: none: infrastructure -/
theorem message_write_iff {rest : List UInt8} :
    message (m.write ++ rest) = some (m, rest) ↔ m.WellFormed := by
  constructor
  · exact wellFormed_of_message
  · rintro ⟨⟨hmin, hmax⟩, hreason, hfields, hlength⟩
    refine message_eq_some.mpr ⟨_, _, m.body ++ rest, _, line_write hreason rest, ?_,
      fields_write hfields _, hlength, ?_⟩
    · rw [statusLine_write _ hreason, if_pos ((length_decimal_eq_three hmax).mpr hmin)]
    · rw [body, if_pos (by simp), List.take_left, List.drop_left]

/-- Source: none: infrastructure -/
theorem message_write (h : m.WellFormed) : message m.write = some (m, []) := by
  rw [← message_write_iff, List.append_nil] at h
  exact h

end values

end HttpMessage
