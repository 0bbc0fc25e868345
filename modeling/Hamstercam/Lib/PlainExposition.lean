import Hamstercam.Lib.Exposition

/-!
# Pages written as they stand

What becomes of a page whose label values were written without escapes.

* `plainLabels`, `Sample.plain`, `Entry.plain` — the text of labels, of a sample and of an entry, with
  every byte as it stands.
* `IsPlain` — all the parts are tokens of the grammar, the label values aside. `Readable` — the label
  values are clean, and the value of a sample cannot be missed or taken for labels.
* `sample_plain`, `readable_of_sample` — a sample is read as it stands if and only if it is readable.
* `page_plain` — a page is read as it stands if and only if every line of it is readable.
-/

namespace Exposition

/-! ## Labels as they stand -/

/-- A label, its value as it stands. Source: none: infrastructure -/
def plainLabel (l : List UInt8 × List UInt8) : List UInt8 := l.1 ++ 61 :: 34 :: (l.2 ++ [34])

/-- Labels and the closing brace. Source: none: infrastructure -/
def plainLabels : List (List UInt8 × List UInt8) → List UInt8
  | [] => [125]
  | [l] => plainLabel l ++ [125]
  | l :: ls => plainLabel l ++ 44 :: plainLabels ls

section labels

variable {l : List UInt8 × List UInt8} {ls : List (List UInt8 × List UInt8)} {rest rest' : List UInt8}

/-- Reading a label is reading its value. Source: none: infrastructure -/
theorem label_plainLabel (hl : IsName isLabelChar l.1) (rest : List UInt8) :
    label (plainLabel l ++ rest) =
      (labelValue (l.2 ++ 34 :: rest)).map fun p => ((l.1, p.1), p.2) := by
  have hskip : skipBlank (plainLabel l ++ rest) = plainLabel l ++ rest := by
    obtain ⟨c, t, heq, hc⟩ := hl.exists_cons
    rw [plainLabel, heq]
    exact skipBlank_cons (isBlank_of_isNameChar (isNameChar_of_isLabelChar hc)) _
  have hname : name isLabelChar (plainLabel l ++ rest) =
      some (l.1, 61 :: 34 :: (l.2 ++ 34 :: rest)) := by
    rw [plainLabel, List.append_assoc, List.cons_append, List.cons_append, List.append_assoc]
    exact name_append hl (by decide) _
  rw [label, hskip, hname]
  simp only [Option.bind_eq_bind, Option.bind_some]
  rw [expect_cons (by decide), if_pos rfl, Option.bind_some, expect_cons (by decide), if_pos rfl,
    Option.bind_some, Option.map_eq_bind]
  rfl

/-- Source: none: infrastructure -/
theorem expect_plainLabel (hl : IsName isLabelChar l.1) (rest : List UInt8) :
    expect 125 (plainLabel l ++ rest) = none := by
  obtain ⟨c, t, heq, hc⟩ := hl.exists_cons
  rw [plainLabel, heq]
  show expect 125 (c :: _) = none
  rw [expect_cons (isBlank_of_isNameChar (isNameChar_of_isLabelChar hc)), if_neg]
  rintro rfl
  exact absurd hc (by decide)

/-- Reading labels is reading the first one and, past a comma, the others.
Source: none: infrastructure -/
theorem labelSet_plainLabel (n : Nat) (hl : IsName isLabelChar l.1) (rest : List UInt8) :
    labelSet (n + 1) (plainLabel l ++ rest) =
      (labelValue (l.2 ++ 34 :: rest)).bind fun p =>
        match skipBlank p.2 with
        | [] => none
        | c :: s =>
            if c = 44 then (labelSet n s).map fun q => ((l.1, p.1) :: q.1, q.2)
            else if c = 125 then some ([(l.1, p.1)], s)
            else none := by
  rw [labelSet, expect_plainLabel hl, label_plainLabel hl]
  cases labelValue (l.2 ++ 34 :: rest) with
  | none => rfl
  | some p =>
      simp only [Option.map_some, Option.bind_eq_bind, Option.bind_some]
      cases skipBlank p.2 with
      | nil => rfl
      | cons c s =>
          simp only [Option.map_eq_bind]
          rfl

/-- Source: none: infrastructure -/
theorem labelSet_comma (n : Nat) (hl : IsName isLabelChar l.1) (hclean : Clean l.2)
    (rest : List UInt8) :
    labelSet (n + 1) (plainLabel l ++ 44 :: rest) = (labelSet n rest).map fun q => (l :: q.1, q.2) := by
  rw [labelSet_plainLabel n hl, labelValue_clean hclean, Option.bind_some]
  simp only [skipBlank_cons (show isBlank 44 = false by decide)]
  rfl

/-- Source: none: infrastructure -/
theorem labelSet_brace (n : Nat) (hl : IsName isLabelChar l.1) (hclean : Clean l.2)
    (rest : List UInt8) : labelSet (n + 1) (plainLabel l ++ 125 :: rest) = some ([l], rest) := by
  rw [labelSet_plainLabel n hl, labelValue_clean hclean, Option.bind_some]
  simp only [skipBlank_cons (show isBlank 125 = false by decide)]
  rfl

/-- If the first label is read as it stands, its value is clean. Source: none: infrastructure -/
theorem clean_of_labelSet_cons {n : Nat} (hl : IsName isLabelChar l.1)
    (h : labelSet n (plainLabel l ++ rest) = some (l :: ls, rest')) : Clean l.2 := by
  cases n with
  | zero => exact absurd h (by simp [labelSet])
  | succ n =>
      rw [labelSet_plainLabel n hl] at h
      obtain ⟨p, hp, h⟩ := Option.bind_eq_some_iff.mp h
      have hvalue : p.1 = l.2 := by
        cases hs : skipBlank p.2 with
        | nil => simp [hs] at h
        | cons c s =>
            simp only [hs] at h
            by_cases hcomma : c = 44
            · rw [if_pos hcomma] at h
              obtain ⟨q, -, heq⟩ := Option.map_eq_some_iff.mp h
              exact congrArg Prod.snd (List.head_eq_of_cons_eq (Prod.mk.inj heq).1)
            · rw [if_neg hcomma] at h
              by_cases hbrace : c = 125
              · rw [if_pos hbrace] at h
                have heq := (Prod.mk.inj (Option.some.inj h)).1
                exact congrArg Prod.snd (List.head_eq_of_cons_eq heq)
              · rw [if_neg hbrace] at h
                exact absurd h (by simp)
      have hread : labelValue (l.2 ++ 34 :: rest) = some (l.2, p.2) := by rw [hp, ← hvalue]
      exact clean_of_labelValue hread

/-- Source: none: infrastructure -/
theorem plainLabels_cons (l : List UInt8 × List UInt8) (hls : ls ≠ []) :
    plainLabels (l :: ls) = plainLabel l ++ 44 :: plainLabels ls := by
  obtain ⟨l', ls, rfl⟩ := List.exists_cons_of_ne_nil hls
  rfl

/-- **Clean labels are read as they stand.** Source: none: infrastructure -/
theorem labelSet_plainLabels (hnames : ∀ l ∈ ls, IsName isLabelChar l.1)
    (hclean : ∀ l ∈ ls, Clean l.2) {n : Nat} (hn : ls.length ≤ n) (rest : List UInt8) :
    labelSet (n + 1) (plainLabels ls ++ rest) = some (ls, rest) := by
  induction ls generalizing n with
  | nil => rfl
  | cons l ls ih =>
      obtain ⟨hl, hnames⟩ := List.forall_mem_cons.mp hnames
      obtain ⟨hlclean, hclean⟩ := List.forall_mem_cons.mp hclean
      by_cases hls : ls = []
      · rw [hls, plainLabels, List.append_assoc]
        exact labelSet_brace n hl hlclean rest
      · rw [plainLabels_cons l hls, List.append_assoc, List.cons_append, labelSet_comma n hl hlclean]
        rw [List.length_cons] at hn
        obtain ⟨m, rfl⟩ : ∃ m, n = m + 1 := ⟨n - 1, by omega⟩
        rw [ih hnames hclean (by omega)]
        rfl

/-- **Labels that are read as they stand are clean.** Source: none: infrastructure -/
theorem clean_of_labelSet (hnames : ∀ l ∈ ls, IsName isLabelChar l.1) {n : Nat}
    (h : labelSet n (plainLabels ls ++ rest) = some (ls, rest')) : ∀ l ∈ ls, Clean l.2 := by
  induction ls generalizing n with
  | nil => exact fun l hl => absurd hl List.not_mem_nil
  | cons l ls ih =>
      obtain ⟨hl, hnames⟩ := List.forall_mem_cons.mp hnames
      by_cases hls : ls = []
      · rw [hls, plainLabels, List.append_assoc] at h
        rw [hls]
        exact List.forall_mem_singleton.mpr (clean_of_labelSet_cons hl h)
      · rw [plainLabels_cons l hls, List.append_assoc, List.cons_append] at h
        have hlclean := clean_of_labelSet_cons hl h
        refine List.forall_mem_cons.mpr ⟨hlclean, ?_⟩
        cases n with
        | zero => exact absurd h (by simp [labelSet])
        | succ n =>
            rw [labelSet_comma n hl hlclean] at h
            obtain ⟨q, hq, heq⟩ := Option.map_eq_some_iff.mp h
            obtain ⟨hcons, rfl⟩ := Prod.mk.inj heq
            apply ih hnames (n := n)
            rw [hq, ← List.tail_eq_of_cons_eq hcons]

/-- No labels are read only from a brace that is closed at once. Source: none: infrastructure -/
theorem expect_of_labelSet_nil {n : Nat} {s : List UInt8} (h : labelSet n s = some ([], rest)) :
    expect 125 s = some rest := by
  cases n with
  | zero => exact absurd h (by simp [labelSet])
  | succ n =>
      rw [labelSet] at h
      cases hbrace : expect 125 s with
      | some r =>
          simp only [hbrace] at h
          exact congrArg some (Prod.mk.inj (Option.some.inj h)).2
      | none =>
          simp only [hbrace, Option.bind_eq_bind] at h
          obtain ⟨p, -, h⟩ := Option.bind_eq_some_iff.mp h
          cases hs : skipBlank p.2 with
          | nil => simp [hs] at h
          | cons c s =>
              simp only [hs] at h
              by_cases hcomma : c = 44
              · rw [if_pos hcomma] at h
                obtain ⟨q, -, heq⟩ := Option.bind_eq_some_iff.mp h
                exact absurd heq (by simp)
              · rw [if_neg hcomma] at h
                by_cases hclose : c = 125
                · rw [if_pos hclose] at h
                  exact absurd h (by simp)
                · rw [if_neg hclose] at h
                  exact absurd h (by simp)

end labels

/-! ## Samples as they stand -/

namespace Sample

/-- The text of a sample without a timestamp. Source: none: infrastructure -/
def plain (s : Sample) : List UInt8 :=
  s.name ++ (if s.labels = [] then [] else 123 :: plainLabels s.labels) ++ 32 :: (s.value ++ [10])

/-- Names and values are tokens of the grammar, and there is no timestamp.
Source: none: infrastructure -/
def IsPlain (s : Sample) : Prop :=
  IsName isNameChar s.name ∧ (∀ l ∈ s.labels, IsName isLabelChar l.1) ∧
    (∀ c ∈ s.value, isValueChar c = true) ∧ s.timestamp = none

/-- The label values are clean, and the value cannot be missed or taken for labels.
Source: none: infrastructure -/
def Readable (s : Sample) : Prop :=
  (∀ l ∈ s.labels, Clean l.2) ∧ s.value ≠ [] ∧ (s.labels = [] → s.value.head? ≠ some 123)

end Sample

section samples

variable {s v rest rest' : List UInt8}

/-- Source: none: infrastructure -/
theorem skipBlank_value (hv : ∀ c ∈ v, isValueChar c = true) (rest : List UInt8) :
    skipBlank (v ++ 10 :: rest) = v ++ 10 :: rest := by
  cases v with
  | nil => exact skipBlank_cons (by decide) rest
  | cons c v =>
      have hc := hv c List.mem_cons_self
      rw [isValueChar, Bool.and_eq_true, Bool.not_eq_true'] at hc
      exact skipBlank_cons hc.1 (v ++ 10 :: rest)

/-- Source: none: infrastructure -/
theorem skipBlank_space_value (hv : ∀ c ∈ v, isValueChar c = true) (rest : List UInt8) :
    skipBlank (32 :: (v ++ 10 :: rest)) = v ++ 10 :: rest := by
  rw [skipBlank, List.dropWhile_cons_of_pos (by decide)]
  exact skipBlank_value hv rest

/-- What follows the labels. Source: none: infrastructure -/
theorem valueLine_eq (hv : ∀ c ∈ v, isValueChar c = true) (hs : skipBlank s = v ++ 10 :: rest) :
    valueLine s = if v = [] then none else some ((v, none), rest) := by
  have htimestamp : timestamp (10 :: rest) = some (none, 10 :: rest) := rfl
  have hend : endOfLine (10 :: rest) = some rest := rfl
  rw [valueLine, hs, token_append hv (by decide)]
  by_cases hnil : v = []
  · rw [if_pos hnil, if_pos hnil]
    rfl
  · rw [if_neg hnil, if_neg hnil]
    simp only [Option.bind_eq_bind, Option.bind_some, htimestamp, hend]
    rfl

/-- Reading a sample is reading its labels and its value. Source: none: infrastructure -/
theorem sample_name {n : List UInt8} {d : UInt8} (hn : IsName isNameChar n)
    (hd : isNameChar d = false) (s : List UInt8) :
    sample (n ++ d :: s) = (labels (d :: s)).bind fun p =>
      (valueLine p.2).map fun q => (⟨n, p.1, q.1.1, q.1.2⟩, q.2) := by
  have hskip : skipBlank (n ++ d :: s) = n ++ d :: s := by
    obtain ⟨c, t, rfl, hc⟩ := hn.exists_cons
    exact skipBlank_cons (isBlank_of_isNameChar hc) (t ++ d :: s)
  rw [sample, hskip, name_append hn hd]
  simp only [Option.bind_eq_bind, Option.bind_some, Option.map_eq_bind]
  rfl

/-- Source: none: infrastructure -/
theorem labels_brace (s : List UInt8) : labels (123 :: s) = labelSet (s.length + 1) s := rfl

/-- A value that begins with a brace is taken for labels. Source: none: infrastructure -/
theorem labels_space (hv : ∀ c ∈ v, isValueChar c = true) (rest : List UInt8) :
    labels (32 :: (v ++ 10 :: rest)) =
      if v.head? = some 123 then labelSet ((v ++ 10 :: rest).length + 1) (v ++ 10 :: rest).tail
      else some ([], 32 :: (v ++ 10 :: rest)) := by
  cases v with
  | nil => rfl
  | cons c v =>
      have hexpect : expect 123 (32 :: (c :: v ++ 10 :: rest)) =
          if c = 123 then some (v ++ 10 :: rest) else none := by
        rw [expect, skipBlank_space_value hv]
        rfl
      rw [labels, hexpect]
      by_cases hc : c = 123
      · rw [if_pos hc, if_pos (by rw [hc]; rfl)]
        rfl
      · rw [if_neg hc, if_neg (by simpa using hc)]

/-- Source: none: infrastructure -/
theorem length_le_plainLabels (ls : List (List UInt8 × List UInt8)) :
    ls.length ≤ (plainLabels ls).length := by
  induction ls with
  | nil => exact Nat.zero_le _
  | cons l ls ih =>
      by_cases hls : ls = []
      · rw [hls, plainLabels, List.length_append]
        simp
      · rw [plainLabels_cons l hls, List.length_append, List.length_cons, List.length_cons]
        omega

/-- Source: none: infrastructure -/
theorem labels_plainLabels {ls : List (List UInt8 × List UInt8)}
    (hnames : ∀ l ∈ ls, IsName isLabelChar l.1) (hclean : ∀ l ∈ ls, Clean l.2) (rest : List UInt8) :
    labels (123 :: (plainLabels ls ++ rest)) = some (ls, rest) := by
  have hlength : ls.length ≤ (plainLabels ls ++ rest).length := by
    rw [List.length_append]
    have := length_le_plainLabels ls
    omega
  rw [labels_brace, labelSet_plainLabels hnames hclean hlength]

/-- Source: none: infrastructure -/
theorem ne_nil_of_valueLine {q : (List UInt8 × Option (List UInt8)) × List UInt8}
    (hv : ∀ c ∈ v, isValueChar c = true) (h : valueLine (32 :: (v ++ 10 :: rest)) = some q) :
    v ≠ [] := by
  rw [valueLine_eq hv (skipBlank_space_value hv rest)] at h
  intro hnil
  rw [if_pos hnil] at h
  exact absurd h (by simp)

/-- A value is shorter when a brace of it is taken for the end of the labels.
Source: none: infrastructure -/
theorem length_lt_of_brace {q : (List UInt8 × Option (List UInt8)) × List UInt8}
    (hv : ∀ c ∈ v, isValueChar c = true) (h : expect 125 (v ++ 10 :: rest) = some s)
    (hq : valueLine s = some q) : q.1.1.length < v.length := by
  rw [expect, skipBlank_value hv] at h
  cases v with
  | nil => exact absurd h (by simp)
  | cons d v =>
      have htail : ∀ c ∈ v, isValueChar c = true := (List.forall_mem_cons.mp hv).2
      change (if d = 125 then some (v ++ 10 :: rest) else none) = some s at h
      by_cases hd : d = 125
      · rw [if_pos hd] at h
        obtain rfl := Option.some.inj h
        rw [valueLine_eq htail (skipBlank_value htail rest)] at hq
        by_cases hnil : v = []
        · rw [if_pos hnil] at hq
          exact absurd hq (by simp)
        · rw [if_neg hnil] at hq
          rw [← Option.some.inj hq]
          exact Nat.lt_succ_self v.length
      · rw [if_neg hd] at h
        exact absurd h (by simp)

/-- What the labels of a plain sample are read from. Source: none: infrastructure -/
theorem plain_append (x : Sample) (rest : List UInt8) : x.plain ++ rest =
    x.name ++ (if x.labels = [] then 32 :: (x.value ++ 10 :: rest)
      else 123 :: (plainLabels x.labels ++ 32 :: (x.value ++ 10 :: rest))) := by
  unfold Sample.plain
  by_cases hls : x.labels = []
  · simp [hls]
  · simp [hls]

/-- **A readable sample is read as it stands.** Source: none: infrastructure -/
theorem sample_plain {x : Sample} (hx : x.IsPlain) (hread : x.Readable) (rest : List UInt8) :
    sample (x.plain ++ rest) = some (x, rest) := by
  obtain ⟨hname, hnames, hvalue, htimestamp⟩ := hx
  obtain ⟨hclean, hne, hhead⟩ := hread
  have hline : valueLine (32 :: (x.value ++ 10 :: rest)) = some ((x.value, none), rest) := by
    rw [valueLine_eq hvalue (skipBlank_space_value hvalue rest), if_neg hne]
  have hx : (⟨x.name, x.labels, x.value, none⟩ : Sample) = x := by rw [← htimestamp]
  rw [plain_append]
  by_cases hls : x.labels = []
  · rw [if_pos hls, sample_name hname (by decide), labels_space hvalue, if_neg (hhead hls),
      Option.bind_some, hline, Option.map_some, ← hls, hx]
  · rw [if_neg hls, sample_name hname (by decide), labels_plainLabels hnames hclean,
      Option.bind_some, hline, Option.map_some, hx]

/-- **A sample that is read as it stands is readable.** Source: none: infrastructure -/
theorem readable_of_sample {x : Sample} (hx : x.IsPlain)
    (h : sample (x.plain ++ rest) = some (x, rest')) : x.Readable := by
  obtain ⟨hname, hnames, hvalue, -⟩ := hx
  rw [plain_append] at h
  by_cases hls : x.labels = []
  · rw [if_pos hls, sample_name hname (by decide), labels_space hvalue] at h
    obtain ⟨p, hp, h⟩ := Option.bind_eq_some_iff.mp h
    obtain ⟨q, hq, heq⟩ := Option.map_eq_some_iff.mp h
    have hlabels : p.1 = [] := (congrArg Sample.labels (Prod.mk.inj heq).1).trans hls
    have hread : q.1.1 = x.value := congrArg Sample.value (Prod.mk.inj heq).1
    by_cases hhead : x.value.head? = some 123
    · -- the braces were taken for an empty list of labels
      obtain ⟨w, hw⟩ : ∃ w, x.value = 123 :: w := List.head?_eq_some_iff.mp hhead
      have hwvalue : ∀ c ∈ w, isValueChar c = true := (List.forall_mem_cons.mp (hw ▸ hvalue)).2
      rw [if_pos hhead, hw, show p = ([], p.2) by rw [← hlabels]] at hp
      have hlt := length_lt_of_brace hwvalue (expect_of_labelSet_nil hp) hq
      rw [hread, hw, List.length_cons] at hlt
      omega
    · rw [if_neg hhead] at hp
      obtain rfl := Option.some.inj hp
      exact ⟨by rw [hls]; simp, ne_nil_of_valueLine hvalue hq, fun _ => hhead⟩
  · rw [if_neg hls, sample_name hname (by decide)] at h
    obtain ⟨p, hp, h⟩ := Option.bind_eq_some_iff.mp h
    obtain ⟨q, hq, heq⟩ := Option.map_eq_some_iff.mp h
    have hlabels : p.1 = x.labels := congrArg Sample.labels (Prod.mk.inj heq).1
    have hset := hp.trans (congrArg some (show p = (x.labels, p.2) by rw [← hlabels]))
    rw [labels_brace] at hset
    have hclean := clean_of_labelSet hnames hset
    rw [labels_plainLabels hnames hclean] at hp
    obtain rfl := Option.some.inj hp
    exact ⟨hclean, ne_nil_of_valueLine hvalue hq, fun h => absurd h hls⟩

/-- Source: none: infrastructure -/
theorem newline_not_mem_plainLabels {ls : List (List UInt8 × List UInt8)}
    (hnames : ∀ l ∈ ls, IsName isLabelChar l.1) (hclean : ∀ l ∈ ls, Clean l.2) :
    10 ∉ plainLabels ls := by
  have hlabel : ∀ l ∈ ls, 10 ∉ plainLabel l := by
    intro l hl hmem
    rcases List.mem_append.mp hmem with hname | hvalue
    · exact absurd ((hnames l hl).2.1 10 hname) (by decide)
    · have hvalue : 10 ∈ l.2 := by simpa using hvalue
      exact absurd (hclean l hl 10 hvalue) (by decide)
  induction ls with
  | nil => simp [plainLabels]
  | cons l ls ih =>
      obtain ⟨hl, hls⟩ := List.forall_mem_cons.mp hlabel
      by_cases hnil : ls = []
      · simp [hnil, plainLabels, hl]
      · rw [plainLabels_cons l hnil]
        simp [hl, ih (List.forall_mem_cons.mp hnames).2 (List.forall_mem_cons.mp hclean).2 hls]

/-- A readable sample is one line. Source: none: infrastructure -/
theorem plain_eq_line {x : Sample} (hx : x.IsPlain) (hread : x.Readable) :
    ∃ line, x.plain = line ++ [10] ∧ 10 ∉ line := by
  obtain ⟨hname, hnames, hvalue, -⟩ := hx
  refine ⟨x.name ++ (if x.labels = [] then [] else 123 :: plainLabels x.labels) ++ 32 :: x.value, ?_, ?_⟩
  · rw [Sample.plain, List.append_assoc _ (32 :: x.value), List.cons_append]
  · have hn : 10 ∉ x.name := fun h => absurd (hname.2.1 10 h) (by decide)
    have hv : 10 ∉ x.value := fun h => absurd (hvalue 10 h) (by decide)
    have hls := newline_not_mem_plainLabels hnames hread.1
    by_cases hnil : x.labels = []
    · simp [hnil, hn, hv]
    · simp [hnil, hn, hv, hls]

end samples

/-! ## Pages as they stand -/

namespace Entry

/-- The text of an entry, nothing in it escaped. Source: none: infrastructure -/
def plain : Entry → List UInt8
  | help n d => [35, 32, 72, 69, 76, 80, 32] ++ n ++ 32 :: (d ++ [10])
  | type n k => [35, 32, 84, 89, 80, 69, 32] ++ n ++ 32 :: (k ++ [10])
  | sample s => s.plain

/-- The parts are tokens of the grammar, and no escape is needed in the text of a help line.
Source: none: infrastructure -/
def IsPlain : Entry → Prop
  | help n d => IsName isNameChar n ∧ (∀ c ∈ d, c ≠ 10 ∧ c ≠ 92) ∧ d.head?.any isBlank = false
  | type n k => IsName isNameChar n ∧ k ∈ kinds
  | sample s => s.IsPlain

/-- Source: none: infrastructure -/
def Readable : Entry → Prop
  | sample s => s.Readable
  | _ => True

end Entry

section pages

variable {s n d k rest rest' : List UInt8}

/-- Source: none: infrastructure -/
theorem doc_append (hd : ∀ c ∈ d, c ≠ 10 ∧ c ≠ 92) (rest : List UInt8) :
    doc (d ++ 10 :: rest) = some (d, rest) := by
  induction d with
  | nil =>
      rw [List.nil_append, doc.eq_def]
      rfl
  | cons c d ih =>
      obtain ⟨⟨hnewline, hslash⟩, hd⟩ := List.forall_mem_cons.mp hd
      rw [List.cons_append, doc.eq_def]
      show (if c = 10 then _ else if c = 92 then _ else _) = _
      rw [if_neg hnewline, if_neg hslash, ih hd]
      rfl

/-- Source: none: infrastructure -/
theorem skipBlank_space_name (hn : IsName isNameChar n) (s : List UInt8) :
    skipBlank (32 :: (n ++ s)) = n ++ s := by
  obtain ⟨c, t, rfl, hc⟩ := hn.exists_cons
  apply skipBlank_space
  simpa using isBlank_of_isNameChar hc

/-- Source: none: infrastructure -/
theorem entry_help (he : (Entry.help n d).IsPlain) (rest : List UInt8) :
    entry ((Entry.help n d).plain ++ rest) = some (some (.help n d), rest) := by
  obtain ⟨hn, hd, hblank⟩ := he
  have hdoc : skipBlank (32 :: (d ++ 10 :: rest)) = d ++ 10 :: rest := by
    apply skipBlank_space
    cases d with
    | nil => rfl
    | cons c d => exact hblank
  have htext : (Entry.help n d).plain ++ rest =
      [35, 32, 72, 69, 76, 80] ++ 32 :: (n ++ 32 :: (d ++ 10 :: rest)) := by
    simp [Entry.plain]
  rw [htext]
  show comment ([32, 72, 69, 76, 80] ++ 32 :: (n ++ 32 :: (d ++ 10 :: rest))) = _
  show (name isNameChar (skipBlank (32 :: (n ++ 32 :: (d ++ 10 :: rest))))).bind _ = _
  rw [skipBlank_space_name hn, name_append hn (by decide), Option.bind_some]
  show (doc (skipBlank (32 :: (d ++ 10 :: rest)))).bind _ = _
  rw [hdoc, doc_append hd]
  rfl

/-- Source: none: infrastructure -/
theorem all_isValueChar_of_mem_kinds : ∀ k ∈ kinds, k ≠ [] ∧ k.all isValueChar = true := by
  decide

/-- Source: none: infrastructure -/
theorem entry_type (he : (Entry.type n k).IsPlain) (rest : List UInt8) :
    entry ((Entry.type n k).plain ++ rest) = some (some (.type n k), rest) := by
  obtain ⟨hn, hk⟩ := he
  obtain ⟨hne, hall⟩ := all_isValueChar_of_mem_kinds k hk
  have hchars := List.all_eq_true.mp hall
  have htext : (Entry.type n k).plain ++ rest =
      [35, 32, 84, 89, 80, 69] ++ 32 :: (n ++ 32 :: (k ++ 10 :: rest)) := by
    simp [Entry.plain]
  rw [htext]
  show comment ([32, 84, 89, 80, 69] ++ 32 :: (n ++ 32 :: (k ++ 10 :: rest))) = _
  show (name isNameChar (skipBlank (32 :: (n ++ 32 :: (k ++ 10 :: rest))))).bind _ = _
  rw [skipBlank_space_name hn, name_append hn (by decide), Option.bind_some]
  show (token isValueChar (skipBlank (32 :: (k ++ 10 :: rest)))).bind _ = _
  rw [skipBlank_space_value hchars, token_append hchars (by decide), if_neg hne, Option.bind_some]
  show (endOfLine (10 :: rest)).bind _ = _
  show (if k ∈ kinds then some (some (Entry.type n k), rest) else none) = _
  rw [if_pos hk]

/-- Source: none: infrastructure -/
theorem entry_sample {x : Sample} (hx : x.IsPlain) (rest : List UInt8) :
    entry (x.plain ++ rest) = (sample (x.plain ++ rest)).map fun p => (some (.sample p.1), p.2) := by
  obtain ⟨c, t, heq, hc⟩ := hx.1.exists_cons
  have htext : ∃ u, x.plain ++ rest = c :: u := ⟨_, by rw [plain_append, heq]; rfl⟩
  obtain ⟨u, hu⟩ := htext
  have hnewline : c ≠ 10 := by
    rintro rfl
    exact absurd hc (by decide)
  have hhash : c ≠ 35 := by
    rintro rfl
    exact absurd hc (by decide)
  rw [hu, entry, skipBlank_cons (isBlank_of_isNameChar hc)]
  show (if c = 10 then _ else if c = 35 then _ else _) = _
  rw [if_neg hnewline, if_neg hhash]

/-- Source: none: infrastructure -/
theorem entry_plain {e : Entry} (he : e.IsPlain) (hread : e.Readable) (rest : List UInt8) :
    entry (e.plain ++ rest) = some (some e, rest) :=
  match e, he, hread with
  | .help _ _, he, _ => entry_help he rest
  | .type _ _, he, _ => entry_type he rest
  | .sample x, he, hread => by
      show entry (x.plain ++ rest) = _
      rw [entry_sample he, sample_plain he hread]
      rfl

/-- A line that is read at all is read as an entry, and only a readable one as it stands.
Source: none: infrastructure -/
theorem readable_of_entry {e : Entry} {o : Option Entry} (he : e.IsPlain)
    (h : entry (e.plain ++ rest) = some (o, rest')) : (∃ e', o = some e') ∧ (o = some e → e.Readable) :=
  match e, he, h with
  | .help _ _, he, h => by
      rw [entry_help he] at h
      exact ⟨⟨_, (Prod.mk.inj (Option.some.inj h)).1.symm⟩, fun _ => trivial⟩
  | .type _ _, he, h => by
      rw [entry_type he] at h
      exact ⟨⟨_, (Prod.mk.inj (Option.some.inj h)).1.symm⟩, fun _ => trivial⟩
  | .sample x, he, h => by
      change entry (x.plain ++ rest) = _ at h
      rw [entry_sample he] at h
      obtain ⟨p, hp, heq⟩ := Option.map_eq_some_iff.mp h
      have ho := (Prod.mk.inj heq).1
      refine ⟨⟨_, ho.symm⟩, ?_⟩
      intro hread
      obtain rfl : p.1 = x := Entry.sample.inj (Option.some.inj (ho.trans hread))
      exact readable_of_sample he hp

/-- Source: none: infrastructure -/
theorem entries_succ (hs : s ≠ []) (n : Nat) : entries (n + 1) s =
    (entry s).bind fun p => (entries n p.2).map fun es => p.1.toList ++ es := by
  obtain ⟨c, s, rfl⟩ := List.exists_cons_of_ne_nil hs
  simp only [entries, Option.map_eq_bind]
  rfl

/-- Source: none: infrastructure -/
theorem plain_ne_nil {e : Entry} (he : e.IsPlain) : e.plain ≠ [] :=
  match e, he with
  | .help _ _, _ => List.cons_ne_nil _ _
  | .type _ _, _ => List.cons_ne_nil _ _
  | .sample x, he => by
      show x.plain ≠ []
      unfold Sample.plain
      simp [he.1.1]

/-- A page of readable lines is read as it stands. Source: none: infrastructure -/
theorem entries_plain {es : List Entry} (hes : ∀ e ∈ es, e.IsPlain) (hread : ∀ e ∈ es, e.Readable)
    {m : Nat} (hm : es.length ≤ m) : entries m (es.flatMap Entry.plain) = some es := by
  induction es generalizing m with
  | nil => cases m <;> rfl
  | cons e es ih =>
      obtain ⟨he, hes⟩ := List.forall_mem_cons.mp hes
      obtain ⟨hr, hread⟩ := List.forall_mem_cons.mp hread
      rw [List.length_cons] at hm
      obtain ⟨m, rfl⟩ : ∃ j, m = j + 1 := ⟨m - 1, by omega⟩
      rw [List.flatMap_cons, entries_succ (by simp [plain_ne_nil he]), entry_plain he hr,
        Option.bind_some, ih hes hread (by omega)]
      rfl

/-- A page that is read as it stands has readable lines only. Source: none: infrastructure -/
theorem readable_of_entries {es : List Entry} (hes : ∀ e ∈ es, e.IsPlain) {m : Nat}
    (h : entries m (es.flatMap Entry.plain) = some es) : ∀ e ∈ es, e.Readable := by
  induction es generalizing m with
  | nil => exact fun e he => absurd he List.not_mem_nil
  | cons e es ih =>
      obtain ⟨he, htail⟩ := List.forall_mem_cons.mp hes
      have hne : (e :: es).flatMap Entry.plain ≠ [] := by simp [List.flatMap_cons, plain_ne_nil he]
      cases m with
      | zero =>
          obtain ⟨c, s, heq⟩ := List.exists_cons_of_ne_nil hne
          rw [heq] at h
          exact absurd h (by simp [entries])
      | succ m =>
          rw [entries_succ hne, List.flatMap_cons] at h
          obtain ⟨p, hp, h⟩ := Option.bind_eq_some_iff.mp h
          obtain ⟨es', hes', heq⟩ := Option.map_eq_some_iff.mp h
          obtain ⟨⟨e', he'⟩, hread⟩ := readable_of_entry he hp
          rw [he', Option.toList_some, List.singleton_append] at heq
          obtain ⟨rfl, rfl⟩ := List.cons_eq_cons.mp heq
          have hr := hread he'
          rw [entry_plain he hr] at hp
          obtain rfl := Option.some.inj hp
          exact List.forall_mem_cons.mpr ⟨hr, ih htail hes'⟩

/-- **A page reads back as it stands if and only if every line of it is readable.**
Source: none: infrastructure -/
theorem page_plain {es : List Entry} (hes : ∀ e ∈ es, e.IsPlain) :
    page (es.flatMap Entry.plain) = some es ↔ ∀ e ∈ es, e.Readable := by
  constructor
  · exact readable_of_entries hes
  · intro hread
    apply entries_plain hes hread
    -- no line is empty
    induction es with
    | nil => exact Nat.zero_le _
    | cons e es ih =>
        obtain ⟨he, hes⟩ := List.forall_mem_cons.mp hes
        have hpos := List.length_pos_iff.mpr (plain_ne_nil he)
        have htail := ih hes (List.forall_mem_cons.mp hread).2
        rw [List.flatMap_cons, List.length_append, List.length_cons]
        omega

end pages

end Exposition
