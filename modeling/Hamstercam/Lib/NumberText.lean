import Hamstercam.Lib.SignificantDigits

/-!
# What the text of a number denotes

A reader of decimal numbers: a sign, digits, a point and digits, an exponent; the first and the last two
may be missing.

* `number s` — the number that `s` denotes, exactly.
* `number_general` — what `%.pg` writes denotes the number to `p` significant digits.
* `general_eq_iff` — so two numbers are written alike if and only if they are the same to `p` significant
  digits.
-/

namespace NumberText

open Decimal GeneralFormat

/-! ## The reader -/

/-- Digits with a point in them. Source: none: infrastructure -/
def point (whole frac : List UInt8) : ℚ := value (whole ++ frac) / 10 ^ frac.length

/-- Digits, if a point is before them, and what comes after. Source: none: infrastructure -/
def afterPoint (s : List UInt8) : List UInt8 × List UInt8 :=
  if s.head? = some 46 then (s.tail.takeWhile isDigit, s.tail.dropWhile isDigit) else ([], s)

/-- Digits with or without a point, and what comes after. Source: none: infrastructure -/
def mantissa (s : List UInt8) : Option (ℚ × List UInt8) :=
  let whole := s.takeWhile isDigit
  let (frac, rest) := afterPoint (s.dropWhile isDigit)
  if whole ++ frac = [] then none else some (point whole frac, rest)

/-- Nothing, or a letter and an exponent. Source: none: infrastructure -/
def exponent (s : List UInt8) : Option Int :=
  if s = [] then some 0
  else if s.head? = some 101 ∨ s.head? = some 69 then
    if s[1]? = some 45 then (denotes (s.drop 2)).map fun n => -n
    else if s[1]? = some 43 then (denotes (s.drop 2)).map Int.ofNat
    else (denotes (s.drop 1)).map Int.ofNat
  else none

/-- Source: none: infrastructure -/
def unsigned (s : List UInt8) : Option ℚ :=
  (mantissa s).bind fun (m, rest) => (exponent rest).map fun e => m * 10 ^ e

/-- **The number that a text denotes.** Source: none: infrastructure -/
def number (s : List UInt8) : Option ℚ :=
  if s.head? = some 45 then (unsigned s.tail).map fun v => -v
  else if s.head? = some 43 then unsigned s.tail
  else unsigned s

section reading

variable {whole frac rest s digits : List UInt8} {p : Nat} {e : Int} {v w : ℚ}

/-! ## The parts of a text -/

/-- Source: none: infrastructure -/
theorem point_append_zeros (whole frac : List UInt8) (k : Nat) :
    point whole (frac ++ List.replicate k 48) = point whole frac := by
  have hten : (10 : ℚ) ^ k ≠ 0 := pow_ne_zero k (by norm_num)
  rw [point, ← List.append_assoc, value_append, value_zeros, List.length_append, List.length_replicate,
    pow_add, add_zero, Nat.cast_mul, Nat.cast_pow, Nat.cast_ofNat, mul_div_mul_right _ _ hten, point]

/-- Zeros at the end of a fraction do not count. Source: none: infrastructure -/
theorem point_rdropWhile (whole frac : List UInt8) :
    point whole (frac.rdropWhile (· = 48)) = point whole frac := by
  have hzeros : frac.rtakeWhile (· = 48) = List.replicate (frac.rtakeWhile (· = 48)).length 48 := by
    refine List.eq_replicate_iff.mpr ⟨rfl, ?_⟩
    intro c hc
    simpa using List.mem_rtakeWhile_imp hc
  rw [← point_append_zeros whole _ (frac.rtakeWhile (· = 48)).length, ← hzeros,
    List.rdropWhile_append_rtakeWhile]

/-- Source: none: infrastructure -/
theorem afterPoint_fraction (hfrac : ∀ c ∈ frac, isDigit c = true)
    (hrest : ∀ c ∈ rest.head?, isDigit c = false ∧ c ≠ 46) :
    afterPoint (fraction frac ++ rest) = (frac.rdropWhile (· = 48), rest) := by
  unfold fraction
  by_cases hzeros : frac.rdropWhile (· = 48) = []
  · have hpoint : rest.head? ≠ some 46 := fun h => (hrest 46 h).2 rfl
    rw [if_pos hzeros, hzeros, List.nil_append, afterPoint, if_neg hpoint]
  · have hdigits : ∀ c ∈ frac.rdropWhile (· = 48), isDigit c = true :=
      fun c hc => hfrac c ((List.rdropWhile_prefix _ frac).subset hc)
    obtain ⟨htake, hdrop⟩ := span_digits hdigits fun c hc => (hrest c hc).1
    rw [if_neg hzeros, List.cons_append, afterPoint, if_pos List.head?_cons, List.tail_cons, htake,
      hdrop]

/-- Source: none: infrastructure -/
theorem mantissa_fraction (hne : whole ≠ []) (hwhole : ∀ c ∈ whole, isDigit c = true)
    (hfrac : ∀ c ∈ frac, isDigit c = true) (hrest : ∀ c ∈ rest.head?, isDigit c = false ∧ c ≠ 46) :
    mantissa (whole ++ fraction frac ++ rest) = some (point whole frac, rest) := by
  have hhead : ∀ c ∈ (fraction frac ++ rest).head?, isDigit c = false := by
    unfold fraction
    by_cases hzeros : frac.rdropWhile (· = 48) = []
    · rw [if_pos hzeros]
      exact fun c hc => (hrest c hc).1
    · rw [if_neg hzeros]
      rintro c hc
      cases hc
      decide
  obtain ⟨htake, hdrop⟩ := span_digits hwhole hhead
  rw [List.append_assoc, mantissa, htake, hdrop, afterPoint_fraction hfrac hrest]
  simp [hne, point_rdropWhile]

/-- Source: none: infrastructure -/
theorem denotes_leftpad (k n : Nat) : denotes ((decimal n).leftpad k 48) = some n := by
  obtain ⟨⟨hne, hdigits⟩, hvalue⟩ := denotes_eq_some.mp (denotes_decimal n)
  apply denotes_eq_some.mpr
  refine ⟨⟨by simp [List.leftpad, hne], isDigit_zeros_append _ hdigits⟩, ?_⟩
  rw [List.leftpad, value_zeros_append, hvalue]

/-- Source: none: infrastructure -/
theorem exponent_eq (e : Int) :
    exponent (101 :: (if e < 0 then 45 else 43) :: (decimal e.natAbs).leftpad 2 48) = some e := by
  have hpad := denotes_leftpad 2 e.natAbs
  generalize (decimal e.natAbs).leftpad 2 48 = digits at hpad ⊢
  by_cases he : e < 0
  · simp [exponent, he, hpad, abs_of_neg he]
  · simp [exponent, he, hpad, abs_of_nonneg (not_lt.mp he)]

/-- Source: none: infrastructure -/
theorem unsigned_fraction (hne : whole ≠ []) (hwhole : ∀ c ∈ whole, isDigit c = true)
    (hfrac : ∀ c ∈ frac, isDigit c = true) (hrest : ∀ c ∈ rest.head?, isDigit c = false ∧ c ≠ 46)
    (he : exponent rest = some e) :
    unsigned (whole ++ fraction frac ++ rest) = some (point whole frac * 10 ^ e) := by
  rw [unsigned, mantissa_fraction hne hwhole hfrac hrest]
  show (exponent rest).map _ = _
  rw [he, Option.map_some]

/-- A text that is read without a sign has none. Source: none: infrastructure -/
theorem number_of_unsigned (h : unsigned s = some v) : number s = some v := by
  have hsign : ∀ c, s.head? = some c → c ≠ 45 ∧ c ≠ 43 := by
    intro c hc
    obtain ⟨t, rfl⟩ := List.head?_eq_some_iff.mp hc
    constructor
    · rintro rfl
      simp [unsigned, mantissa, afterPoint, isDigit] at h
    · rintro rfl
      simp [unsigned, mantissa, afterPoint, isDigit] at h
  rw [number, if_neg fun hc => (hsign 45 hc).1 rfl, if_neg fun hc => (hsign 43 hc).2 rfl, h]

/-! ## What is written -/

/-- With the point after the first `k` digits. Source: none: infrastructure -/
theorem point_take_drop (k : Nat) (digits : List UInt8) :
    point (digits.take k) (digits.drop k) = (value digits : ℚ) / 10 ^ (digits.length - k) := by
  rw [point, List.take_append_drop, List.length_drop]

/-- Source: none: infrastructure -/
theorem unsigned_point (hne : whole ≠ []) (hwhole : ∀ c ∈ whole, isDigit c = true)
    (hfrac : ∀ c ∈ frac, isDigit c = true) :
    unsigned (whole ++ fraction frac) = some (point whole frac) := by
  have hread := @unsigned_fraction whole frac [] 0 hne hwhole hfrac (by simp) rfl
  rwa [List.append_nil, zpow_zero, mul_one] at hread

/-- Source: none: infrastructure -/
theorem unsigned_positional (hdigits : IsNumeral digits) (he : e < digits.length) :
    unsigned (positional digits e) = some ((value digits : ℚ) * 10 ^ (e + 1 - digits.length)) := by
  obtain ⟨hne, hdigits⟩ := hdigits
  unfold positional
  by_cases hsign : 0 ≤ e
  · rw [if_pos hsign, unsigned_point (by simp [hne]) (fun c hc => hdigits c (List.mem_of_mem_take hc))
      fun c hc => hdigits c (List.mem_of_mem_drop hc), point_take_drop, div_eq_mul_inv, ← zpow_natCast,
      ← zpow_neg]
    congr 3
    omega
  · have hzero : ∀ c ∈ [(48 : UInt8)], isDigit c = true := List.forall_mem_singleton.mpr (by decide)
    have hzeros := isDigit_zeros_append (-e - 1).toNat hdigits
    have hvalue : value ([48] ++ (List.replicate (-e - 1).toNat 48 ++ digits)) = value digits := by
      rw [← List.append_assoc, ← List.replicate_one, List.replicate_append_replicate,
        value_zeros_append]
    rw [if_neg hsign, ← List.singleton_append, unsigned_point (List.cons_ne_nil 48 []) hzero hzeros,
      point, hvalue, List.length_append, List.length_replicate, div_eq_mul_inv, ← zpow_natCast,
      ← zpow_neg]
    congr 3
    omega

/-- Source: none: infrastructure -/
theorem unsigned_exponential (hdigits : IsNumeral digits) (e : Int) :
    unsigned (exponential digits e) = some ((value digits : ℚ) * 10 ^ (e + 1 - digits.length)) := by
  obtain ⟨hne, hdigits⟩ := hdigits
  have hlength : 0 < digits.length := List.length_pos_iff.mpr hne
  unfold exponential
  rw [unsigned_fraction (by simp [hne]) (fun c hc => hdigits c (List.mem_of_mem_take hc))
    (fun c hc => hdigits c (List.mem_of_mem_drop hc)) _ (exponent_eq e), point_take_drop, div_eq_mul_inv,
    ← zpow_natCast, ← zpow_neg, mul_assoc, ← zpow_add₀ (by norm_num)]
  · congr 3
    omega
  · rintro c hc
    cases hc
    decide

/-- Source: none: infrastructure -/
theorem unsigned_magnitude (hp : 0 < p) (hv : 0 < v) :
    unsigned (magnitude p v) = some (roundedMagnitude p v) := by
  rcases hsig : significant p v with ⟨m, e⟩
  obtain ⟨⟨hmin, hmax⟩, hvalue⟩ := significant_spec hp hv hsig
  have hlength : (decimal m).length = p := by
    rw [length_decimal hmin (by rwa [Nat.sub_add_cancel hp]), Nat.sub_add_cancel hp]
  have hdigits := (denotes_eq_some.mp (denotes_decimal m)).2
  rw [← hvalue, magnitude, hsig]
  show unsigned (if _ then _ else _) = _
  split_ifs with he
  · rw [unsigned_positional (isNumeral_decimal m) (by rw [hlength]; exact he.2), hdigits, hlength]
  · rw [unsigned_exponential (isNumeral_decimal m), hdigits, hlength]

/-- **The text denotes the number to `p` significant digits.** Source: none: infrastructure -/
theorem number_general (hp : 0 < p) (v : ℚ) : number (general p v) = some (rounded p v) := by
  unfold general
  by_cases hzero : v = 0
  · rw [if_pos hzero, hzero, rounded_zero]
    decide +kernel
  · rw [if_neg hzero]
    by_cases hneg : v < 0
    · rw [if_pos hneg, number, if_pos List.head?_cons, List.tail_cons,
        unsigned_magnitude hp (neg_pos.mpr hneg), rounded, if_pos hneg]
      rfl
    · have hpos : 0 < v := lt_of_le_of_ne (not_lt.mp hneg) (Ne.symm hzero)
      rw [if_neg hneg, number_of_unsigned (unsigned_magnitude hp hpos), rounded, if_neg hneg]

/-- Rounding changes nothing that is written. Source: none: infrastructure -/
theorem magnitude_rounded (hp : 0 < p) (hv : 0 < v) :
    0 < roundedMagnitude p v ∧ magnitude p (roundedMagnitude p v) = magnitude p v := by
  rcases hsig : significant p v with ⟨m, e⟩
  obtain ⟨⟨hmin, hmax⟩, hvalue⟩ := significant_spec hp hv hsig
  have hmpos : 0 < m := (Nat.pow_pos (by decide)).trans_le hmin
  rw [← hvalue]
  refine ⟨mul_pos (Nat.cast_pos.mpr hmpos) (zpow_pos (by norm_num) _), ?_⟩
  rw [magnitude, magnitude, significant_scaled hp hmin hmax, hsig]

/-- **A number is written as it is when rounded.** Source: none: infrastructure -/
theorem general_rounded (hp : 0 < p) (v : ℚ) : general p (rounded p v) = general p v := by
  unfold rounded
  rcases lt_trichotomy v 0 with hneg | rfl | hpos
  · obtain ⟨hrounded, hsame⟩ := magnitude_rounded hp (neg_pos.mpr hneg)
    have hminus : -roundedMagnitude p (-v) < 0 := neg_neg_of_pos hrounded
    rw [if_pos hneg, general, if_neg hminus.ne, if_pos hminus, neg_neg, hsame, general, if_neg hneg.ne,
      if_pos hneg]
  · exact congrArg (general p) (rounded_zero p)
  · obtain ⟨hrounded, hsame⟩ := magnitude_rounded hp hpos
    rw [if_neg hpos.le.not_gt, general, if_neg hrounded.ne', if_neg hrounded.le.not_gt, hsame, general,
      if_neg hpos.ne', if_neg hpos.le.not_gt]

/-- **Two numbers are written alike if and only if they are the same to `p` significant digits.**
Source: none: infrastructure -/
theorem general_eq_iff (hp : 0 < p) : general p v = general p w ↔ rounded p v = rounded p w := by
  constructor
  · intro h
    have hread := number_general hp v
    rw [h, number_general hp w] at hread
    exact (Option.some.inj hread).symm
  · intro h
    rw [← general_rounded hp v, h, general_rounded hp w]

end reading

end NumberText
