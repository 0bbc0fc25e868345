import Hamstercam.Lib.Decimal

/-!
# Pages of metrics in the text exposition format

A reader for the line grammar of the text exposition format, over bytes.

* `Sample`, `Entry` — what a line says. Comments and empty lines say nothing.
* `labelValue` — a quoted value: backslash, quote and newline are written as escapes, and no other escape
  exists. `labelSet`, `sample`, `entry`, `page` — the readers for the rest of the grammar. A reader takes
  its part off the front of the text; the number bounds how many labels or lines are read.
* `Clean` — a value without backslash, quote and newline. `labelValue_clean` reads such a value as it
  stands, and `clean_of_labelValue` is the converse: a value that is read as it stands is clean.
* `IsName`, `name_append`, `token_append` — a name or a value ends at the first byte that is none of its
  own.
-/

namespace Exposition

open Decimal

/-! ## The grammar -/

/-- A sample. Source: none: infrastructure -/
structure Sample where
  name : List UInt8
  labels : List (List UInt8 × List UInt8)
  value : List UInt8
  timestamp : Option (List UInt8)
  deriving DecidableEq

/-- What a line says. Source: none: infrastructure -/
inductive Entry
  | help (name doc : List UInt8)
  | type (name kind : List UInt8)
  | sample (s : Sample)
  deriving DecidableEq

/-- Blanks and tabs separate tokens. Source: none: infrastructure -/
def isBlank (c : UInt8) : Bool := c = 32 || c = 9

/-- Source: none: infrastructure -/
def skipBlank (s : List UInt8) : List UInt8 := s.dropWhile isBlank

/-- Source: none: infrastructure -/
def isLabelChar (c : UInt8) : Bool :=
  isDigit c || (97 ≤ c && c ≤ 122) || (65 ≤ c && c ≤ 90) || c = 95

/-- Source: none: infrastructure -/
def isNameChar (c : UInt8) : Bool := isLabelChar c || c = 58

/-- The bytes of a value: anything but blanks, tabs and newlines. Source: none: infrastructure -/
def isValueChar (c : UInt8) : Bool := !isBlank c && c != 10

/-- As many bytes as satisfy `p`, at least one. Source: none: infrastructure -/
def token (p : UInt8 → Bool) (s : List UInt8) : Option (List UInt8 × List UInt8) :=
  if s.takeWhile p = [] then none else some (s.takeWhile p, s.dropWhile p)

/-- A name does not begin with a digit. Source: none: infrastructure -/
def name (p : UInt8 → Bool) (s : List UInt8) : Option (List UInt8 × List UInt8) :=
  if s.head?.any isDigit then none else token p s

/-- One byte, with the blanks before it. Source: none: infrastructure -/
def expect (c : UInt8) (s : List UInt8) : Option (List UInt8) :=
  match skipBlank s with
  | [] => none
  | d :: s => if d = c then some s else none

/-- A label value, after its opening quote. Source: none: infrastructure -/
def labelValue : List UInt8 → Option (List UInt8 × List UInt8)
  | [] => none
  | c :: s =>
      if c = 34 then some ([], s)
      else if c = 10 then none
      else if c = 92 then
        match s with
        | [] => none
        | e :: s =>
            if e = 92 || e = 34 then (labelValue s).map fun p => (e :: p.1, p.2)
            else if e = 110 then (labelValue s).map fun p => (10 :: p.1, p.2)
            else none
      else (labelValue s).map fun p => (c :: p.1, p.2)

/-- One label and its value. Source: none: infrastructure -/
def label (s : List UInt8) : Option ((List UInt8 × List UInt8) × List UInt8) := do
  let (n, s) ← name isLabelChar (skipBlank s)
  let s ← expect 61 s
  let s ← expect 34 s
  let (v, s) ← labelValue s
  return ((n, v), s)

/-- The labels after an opening brace, up to the closing one. Source: none: infrastructure -/
def labelSet : Nat → List UInt8 → Option (List (List UInt8 × List UInt8) × List UInt8)
  | 0, _ => none
  | n + 1, s =>
      match expect 125 s with
      | some rest => some ([], rest)
      | none => do
          let (l, s) ← label s
          match skipBlank s with
          | [] => none
          | c :: s =>
              if c = 44 then do
                let (ls, rest) ← labelSet n s
                return (l :: ls, rest)
              else if c = 125 then some ([l], s)
              else none

/-- The labels of a sample, if it has a brace. Source: none: infrastructure -/
def labels (s : List UInt8) : Option (List (List UInt8 × List UInt8) × List UInt8) :=
  match expect 123 s with
  | some rest => labelSet s.length rest
  | none => some ([], s)

/-- The end of a line. Source: none: infrastructure -/
def endOfLine (s : List UInt8) : Option (List UInt8) := expect 10 s

/-- A timestamp, if there is one. Source: none: infrastructure -/
def timestamp (s : List UInt8) : Option (Option (List UInt8) × List UInt8) :=
  match token isValueChar (skipBlank s) with
  | none => some (none, s)
  | some (t, rest) =>
      if IsNumeral (if t.head? = some 45 then t.tail else t) then some (some t, rest) else none

/-- The value of a sample and its timestamp, to the end of the line. Source: none: infrastructure -/
def valueLine (s : List UInt8) : Option ((List UInt8 × Option (List UInt8)) × List UInt8) := do
  let (v, s) ← token isValueChar (skipBlank s)
  let (t, s) ← timestamp s
  let rest ← endOfLine s
  return ((v, t), rest)

/-- A sample, to the end of its line. Source: none: infrastructure -/
def sample (s : List UInt8) : Option (Sample × List UInt8) := do
  let (n, s) ← name isNameChar (skipBlank s)
  let (ls, s) ← labels s
  let ((v, t), rest) ← valueLine s
  return (⟨n, ls, v, t⟩, rest)

/-- The text of a help line: backslash and newline are written as escapes.
Source: none: infrastructure -/
def doc : List UInt8 → Option (List UInt8 × List UInt8)
  | [] => none
  | c :: s =>
      if c = 10 then some ([], s)
      else if c = 92 then
        match s with
        | [] => none
        | e :: s =>
            if e = 92 then (doc s).map fun p => (92 :: p.1, p.2)
            else if e = 110 then (doc s).map fun p => (10 :: p.1, p.2)
            else none
      else (doc s).map fun p => (c :: p.1, p.2)

/-- The types of metrics. Source: none: infrastructure -/
def kinds : List (List UInt8) :=
  ["counter", "gauge", "histogram", "summary", "untyped"].map fun s =>
    s.toList.map fun c => c.toNat.toUInt8

/-- A line after its `#`. One that does not begin with `HELP` or `TYPE` is a comment.
Source: none: infrastructure -/
def comment (s : List UInt8) : Option (Option Entry × List UInt8) :=
  let word := (skipBlank s).takeWhile isValueChar
  let s := (skipBlank s).dropWhile isValueChar
  if word = [72, 69, 76, 80] then do
    let (n, s) ← name isNameChar (skipBlank s)
    let (d, rest) ← doc (skipBlank s)
    return (some (.help n d), rest)
  else if word = [84, 89, 80, 69] then do
    let (n, s) ← name isNameChar (skipBlank s)
    let (k, s) ← token isValueChar (skipBlank s)
    let rest ← endOfLine s
    if k ∈ kinds then some (some (.type n k), rest) else none
  else (expect 10 (s.dropWhile (· ≠ 10))).map fun rest => (none, rest)

/-- One line. Source: none: infrastructure -/
def entry (s : List UInt8) : Option (Option Entry × List UInt8) :=
  match skipBlank s with
  | [] => none
  | c :: s =>
      if c = 10 then some (none, s)
      else if c = 35 then comment s
      else (sample (c :: s)).map fun p => (some (.sample p.1), p.2)

/-- At most so many lines, to the end of the text. Source: none: infrastructure -/
def entries : Nat → List UInt8 → Option (List Entry)
  | _, [] => some []
  | 0, _ :: _ => none
  | n + 1, c :: s => do
      let (e, rest) ← entry (c :: s)
      let es ← entries n rest
      return e.toList ++ es

/-- **A page.** Source: none: infrastructure -/
def page (s : List UInt8) : Option (List Entry) := entries s.length s

/-! ## Label values -/

/-- A byte that a label value cannot hold as it is. Source: none: infrastructure -/
def isSpecial (c : UInt8) : Bool := c = 92 || c = 34 || c = 10

/-- A value without special bytes. Source: none: infrastructure -/
def Clean (s : List UInt8) : Prop := ∀ c ∈ s, isSpecial c = false

instance (s : List UInt8) : Decidable (Clean s) := List.decidableBAll _ s

section values

variable {c : UInt8} {s v rest rest' : List UInt8}

/-- Source: none: infrastructure -/
theorem clean_cons : Clean (c :: s) ↔ isSpecial c = false ∧ Clean s := List.forall_mem_cons

/-- Source: none: infrastructure -/
theorem labelValue_quote (s : List UInt8) : labelValue (34 :: s) = some ([], s) := by
  rw [labelValue.eq_def]
  rfl

/-- Source: none: infrastructure -/
theorem labelValue_newline (s : List UInt8) : labelValue (10 :: s) = none := by
  rw [labelValue.eq_def]
  rfl

/-- Source: none: infrastructure -/
theorem labelValue_backslash (c : UInt8) (s : List UInt8) : labelValue (92 :: c :: s) =
    if c = 92 || c = 34 then (labelValue s).map fun p => (c :: p.1, p.2)
    else if c = 110 then (labelValue s).map fun p => (10 :: p.1, p.2)
    else none := by
  rw [labelValue.eq_def]
  rfl

/-- Source: none: infrastructure -/
theorem labelValue_cons (hc : isSpecial c = false) (s : List UInt8) :
    labelValue (c :: s) = (labelValue s).map fun p => (c :: p.1, p.2) := by
  simp only [isSpecial, Bool.or_eq_false_iff, decide_eq_false_iff_not] at hc
  obtain ⟨⟨hslash, hquote⟩, hnewline⟩ := hc
  rw [labelValue.eq_def]
  show (if c = 34 then _ else if c = 10 then _ else if c = 92 then _ else _) = _
  rw [if_neg hquote, if_neg hnewline, if_neg hslash]

/-- A clean value is read as it stands. Source: none: infrastructure -/
theorem labelValue_clean (hv : Clean v) (rest : List UInt8) :
    labelValue (v ++ 34 :: rest) = some (v, rest) := by
  induction v with
  | nil => exact labelValue_quote rest
  | cons c v ih =>
      obtain ⟨hc, hv⟩ := clean_cons.mp hv
      rw [List.cons_append, labelValue_cons hc, ih hv]
      rfl

/-- Source: none: infrastructure -/
theorem replicate_append_cons (k : Nat) (c : UInt8) (s : List UInt8) :
    List.replicate k c ++ c :: s = List.replicate (k + 1) c ++ s := by
  rw [List.replicate_succ', List.append_assoc, List.singleton_append]

/-- Source: none: infrastructure -/
theorem map_cons_eq_some {o : Option (List UInt8 × List UInt8)}
    (h : (o.map fun p => (c :: p.1, p.2)) = some (v, rest)) : ∃ u, o = some (u, rest) ∧ v = c :: u := by
  obtain ⟨⟨u, r⟩, rfl, heq⟩ := Option.map_eq_some_iff.mp h
  obtain ⟨rfl, rfl⟩ := Prod.mk.inj heq
  exact ⟨u, rfl, rfl⟩

/-- A reader that drops a backslash is behind by one byte, and only a byte that is a backslash itself can
stand where it was. So a value read with `k` backslashes more than it has is clean, and `k` is zero.
Source: none: infrastructure -/
theorem clean_of_labelValue_backslashes (rest : List UInt8) : (v : List UInt8) → (k : Nat) →
    {rest' : List UInt8} → labelValue (v ++ 34 :: rest) = some (List.replicate k 92 ++ v, rest') →
      k = 0 ∧ Clean v
  | [], k, rest', h => by
      rw [List.nil_append, labelValue_quote, List.append_nil] at h
      have hk : [] = List.replicate k (92 : UInt8) := (Prod.mk.inj (Option.some.inj h)).1
      exact ⟨(List.replicate_eq_nil_iff 92).mp hk.symm, fun c hc => absurd hc List.not_mem_nil⟩
  | c :: v, k, rest', h => by
      rw [List.cons_append] at h
      by_cases hquote : c = 34
      · -- the value would end here
        rw [hquote, labelValue_quote] at h
        have hnil : [] = List.replicate k 92 ++ 34 :: v := (Prod.mk.inj (Option.some.inj h)).1
        simp at hnil
      by_cases hnewline : c = 10
      · rw [hnewline, labelValue_newline] at h
        exact absurd h (by simp)
      by_cases hslash : c = 92
      · subst hslash
        rw [replicate_append_cons, List.replicate_succ, List.cons_append] at h
        cases v with
        | nil =>
            rw [List.nil_append, labelValue_backslash, if_pos (by decide)] at h
            obtain ⟨u, -, heq⟩ := map_cons_eq_some h
            exact absurd (List.head_eq_of_cons_eq heq) (by decide)
        | cons d v =>
            rw [List.cons_append, labelValue_backslash] at h
            by_cases hd : d = 92
            · -- the reader falls one more backslash behind
              subst hd
              rw [if_pos (by decide), replicate_append_cons] at h
              obtain ⟨u, hu, heq⟩ := map_cons_eq_some h
              rw [← List.tail_eq_of_cons_eq heq] at hu
              exact absurd (clean_of_labelValue_backslashes rest v (k + 1) hu).1 (Nat.succ_ne_zero k)
            · by_cases hd' : d = 34
              · rw [if_pos (by simp [hd'])] at h
                obtain ⟨u, -, heq⟩ := map_cons_eq_some h
                exact absurd (List.head_eq_of_cons_eq heq) (by rw [hd']; decide)
              · rw [if_neg (by simp [hd, hd'])] at h
                by_cases hd'' : d = 110
                · rw [if_pos hd''] at h
                  obtain ⟨u, -, heq⟩ := map_cons_eq_some h
                  exact absurd (List.head_eq_of_cons_eq heq) (by decide)
                · rw [if_neg hd''] at h
                  exact absurd h (by simp)
      have hc : isSpecial c = false := by simp [isSpecial, hquote, hnewline, hslash]
      rw [labelValue_cons hc] at h
      obtain ⟨u, hu, heq⟩ := map_cons_eq_some h
      cases k with
      | zero =>
          rw [← List.tail_eq_of_cons_eq heq] at hu
          exact ⟨rfl, clean_cons.mpr ⟨hc, (clean_of_labelValue_backslashes rest v 0 hu).2⟩⟩
      | succ k =>
          rw [List.replicate_succ, List.cons_append] at heq
          exact absurd (List.head_eq_of_cons_eq heq).symm hslash
termination_by v => v.length

/-- **A value that is read as it stands is clean.** Source: none: infrastructure -/
theorem clean_of_labelValue (h : labelValue (v ++ 34 :: rest) = some (v, rest')) : Clean v :=
  (clean_of_labelValue_backslashes rest v 0 h).2

end values

/-! ## Names and values -/

/-- What `name` reads to the end. Source: none: infrastructure -/
def IsName (p : UInt8 → Bool) (s : List UInt8) : Prop :=
  s ≠ [] ∧ (∀ c ∈ s, p c = true) ∧ s.head?.any isDigit = false

instance (p : UInt8 → Bool) (s : List UInt8) : Decidable (IsName p s) :=
  @instDecidableAnd _ _ inferInstance (@instDecidableAnd _ _ (List.decidableBAll _ s) inferInstance)

section tokens

variable {p : UInt8 → Bool} {c d : UInt8} {s rest : List UInt8}

/-- Source: none: infrastructure -/
theorem takeWhile_append (hs : ∀ c ∈ s, p c = true) (hd : p d = false) (rest : List UInt8) :
    (s ++ d :: rest).takeWhile p = s := by
  rw [List.takeWhile_append_of_pos hs, List.takeWhile_cons_of_neg (by simp [hd]), List.append_nil]

/-- Source: none: infrastructure -/
theorem dropWhile_append (hs : ∀ c ∈ s, p c = true) (hd : p d = false) (rest : List UInt8) :
    (s ++ d :: rest).dropWhile p = d :: rest := by
  rw [List.dropWhile_append_of_pos hs, List.dropWhile_cons_of_neg (by simp [hd])]

/-- A token ends at the first byte that is none of its own. Source: none: infrastructure -/
theorem token_append (hs : ∀ c ∈ s, p c = true) (hd : p d = false) (rest : List UInt8) :
    token p (s ++ d :: rest) = if s = [] then none else some (s, d :: rest) := by
  rw [token, takeWhile_append hs hd, dropWhile_append hs hd]

/-- Source: none: infrastructure -/
theorem name_append (hs : IsName p s) (hd : p d = false) (rest : List UInt8) :
    name p (s ++ d :: rest) = some (s, d :: rest) := by
  obtain ⟨hne, hchars, hdigit⟩ := hs
  rw [name, List.head?_append_of_ne_nil s hne, hdigit, if_neg Bool.false_ne_true,
    token_append hchars hd, if_neg hne]

/-- Source: none: infrastructure -/
theorem skipBlank_cons (hc : isBlank c = false) (s : List UInt8) : skipBlank (c :: s) = c :: s :=
  List.dropWhile_cons_of_neg (by simp [hc])

/-- Source: none: infrastructure -/
theorem skipBlank_space (hs : s.head?.any isBlank = false) : skipBlank (32 :: s) = s := by
  rw [skipBlank, List.dropWhile_cons_of_pos (by decide)]
  cases s with
  | nil => rfl
  | cons c s => exact List.dropWhile_cons_of_neg (by simpa using hs)

/-- Source: none: infrastructure -/
theorem expect_cons (hc : isBlank c = false) (d : UInt8) (s : List UInt8) :
    expect d (c :: s) = if c = d then some s else none := by
  rw [expect, skipBlank_cons hc]

/-- Source: none: infrastructure -/
theorem isNameChar_of_isLabelChar (hc : isLabelChar c = true) : isNameChar c = true := by
  rw [isNameChar, hc, Bool.true_or]

/-- Source: none: infrastructure -/
theorem isBlank_of_isNameChar (hc : isNameChar c = true) : isBlank c = false := by
  by_contra h
  rw [Bool.not_eq_false, isBlank, Bool.or_eq_true, decide_eq_true_iff, decide_eq_true_iff] at h
  rcases h with rfl | rfl
  · exact absurd hc (by decide)
  · exact absurd hc (by decide)

/-- A name of a metric or of a label begins with a byte of a name. Source: none: infrastructure -/
theorem IsName.exists_cons (hs : IsName p s) : ∃ c t, s = c :: t ∧ p c = true := by
  obtain ⟨hne, hchars, -⟩ := hs
  obtain ⟨c, t, rfl⟩ := List.exists_cons_of_ne_nil hne
  exact ⟨c, t, rfl, hchars c List.mem_cons_self⟩

/-- Source: none: infrastructure -/
theorem IsName.append {t : List UInt8} (hs : IsName p s) (ht : t.all p = true) : IsName p (s ++ t) := by
  obtain ⟨hne, hchars, hdigit⟩ := hs
  refine ⟨by simp [hne], ?_, ?_⟩
  · exact List.forall_mem_append.mpr ⟨hchars, List.all_eq_true.mp ht⟩
  · rw [List.head?_append_of_ne_nil s hne, hdigit]

end tokens

end Exposition
