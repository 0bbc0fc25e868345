import Mathlib.Data.List.TakeWhile
import Hamstercam.Lib.Decimal

/-!
# Reading an unsigned number

`std::stoul` in base ten, for a 64-bit `unsigned long` and the "C" locale.

* `Subject` — what `strtoul` takes a string apart into: blanks, a sign, digits and the rest.
* `stoul` — the number and how many bytes were read, or `none` where it throws.
* `extract` — what is left in a variable that is read from a stream; `extract_decimal` — a numeral after blanks
  is read, whatever follows it.
* `Reads s blanks sign digits` — the strings that are read to their end, without the scanner;
  `stoul_of_reads` and `reads_of_stoul` say that these are the ones.
-/

namespace Unsigned

open Decimal

/-! ## The scanner -/

/-- `isspace` of the "C" locale. Source: none: infrastructure -/
def isSpace (c : UInt8) : Bool := c == 32 || (9 ≤ c && c ≤ 13)

/-- `'+'` and `'-'`. Source: none: infrastructure -/
def isSign (c : UInt8) : Bool := c == 43 || c == 45

/-- What a string is taken apart into. Source: none: infrastructure -/
structure Subject where
  /-- The leading blanks. -/
  blanks : List UInt8
  /-- The sign: at most one byte. -/
  sign : List UInt8
  /-- The digits. -/
  digits : List UInt8
  /-- What is not read. -/
  rest : List UInt8

/-- The sign at the front of a string, if there is one. Source: none: infrastructure -/
def signOf (s : List UInt8) : List UInt8 := (s.head?.filter isSign).toList

/-- Source: none: infrastructure -/
def subject (s : List UInt8) : Subject :=
  let signed := s.dropWhile isSpace
  let sign := signOf signed
  let unsigned := signed.drop sign.length
  { blanks := s.takeWhile isSpace
    sign
    digits := unsigned.takeWhile isDigit
    rest := unsigned.dropWhile isDigit }

/-- A minus sign negates in the arithmetic of 64 bits. Source: none: infrastructure -/
def signed (sign : List UInt8) (n : Nat) : Nat := if sign = [45] then (2 ^ 64 - n) % 2 ^ 64 else n

/-- `std::stoul(s, &pos)`: the number and `pos`. It throws where there is no digit, and where the digits
denote a number that does not fit. Source: none: infrastructure -/
def stoul (s : List UInt8) : Option (Nat × Nat) :=
  let p := subject s
  if p.digits = [] then none
  else if 2 ^ 64 ≤ value p.digits then none
  else some (signed p.sign (value p.digits), p.blanks.length + p.sign.length + p.digits.length)

/-- What `std::istream >> n` leaves in a 64-bit `n`: nothing of a string without a number but zero, and of a
number that does not fit the greatest that does. Source: none: infrastructure -/
def extract (s : List UInt8) : Nat :=
  let p := subject s
  if p.digits = [] then 0
  else if 2 ^ 64 ≤ value p.digits then 2 ^ 64 - 1
  else signed p.sign (value p.digits)

/-! ## What is read to its end -/

/-- The string is blanks, at most one sign and a numeral that fits into 64 bits.
Source: none: infrastructure -/
structure Reads (s blanks sign digits : List UInt8) : Prop where
  /-- There is nothing else. -/
  text_eq : s = blanks ++ sign ++ digits
  /-- What comes first is blank. -/
  blank : ∀ c ∈ blanks, isSpace c = true
  /-- There is at most one sign. -/
  oneSign : sign = [] ∨ sign = [43] ∨ sign = [45]
  /-- There is at least one digit. -/
  numeral : IsNumeral digits
  /-- No range error. -/
  fits : value digits < 2 ^ 64

variable {s blanks sign digits : List UInt8} {c : UInt8} {v : Nat}

/-- The parts of a string make it up. Source: none: infrastructure -/
theorem subject_text (s : List UInt8) :
    (subject s).blanks ++ (subject s).sign ++ (subject s).digits ++ (subject s).rest = s := by
  have hsign : ∀ l : List UInt8, signOf l ++ l.drop (signOf l).length = l := by
    intro l
    cases l with
    | nil => rfl
    | cons c l =>
        unfold signOf
        by_cases h : isSign c = true
        · simp [Option.filter, h]
        · simp [Option.filter, h]
  unfold subject
  simp only [List.append_assoc, List.takeWhile_append_dropWhile, hsign]

/-- Source: none: infrastructure -/
theorem signOf_cases (s : List UInt8) : signOf s = [] ∨ signOf s = [43] ∨ signOf s = [45] := by
  unfold signOf
  cases s with
  | nil => exact Or.inl rfl
  | cons c s =>
      by_cases h : isSign c = true
      · have hc : c = 43 ∨ c = 45 := by simpa [isSign] using h
        right
        simpa [Option.filter, h] using hc
      · left
        simp [Option.filter, h]

/-- Bytes of the three kinds are told apart. Source: none: infrastructure -/
theorem kinds_disjoint :
    ∀ c : UInt8, (isDigit c = true → isSpace c = false ∧ isSign c = false) ∧
      (isSign c = true → isSpace c = false) := by
  intro c
  have hdigit : isDigit c = true ↔ 48 ≤ c.toNat ∧ c.toNat ≤ 57 := isDigit_iff
  have hspace : isSpace c = true ↔ c.toNat = 32 ∨ (9 ≤ c.toNat ∧ c.toNat ≤ 13) := by
    simp [isSpace, UInt8.le_iff_toNat_le, ← UInt8.toNat_inj]
  have hsign : isSign c = true ↔ c.toNat = 43 ∨ c.toNat = 45 := by
    simp [isSign, ← UInt8.toNat_inj]
  refine ⟨fun h => ⟨?_, ?_⟩, fun h => ?_⟩
  · apply Bool.eq_false_iff.mpr
    rw [ne_eq, hspace]
    have := hdigit.mp h
    omega
  · apply Bool.eq_false_iff.mpr
    rw [ne_eq, hsign]
    have := hdigit.mp h
    omega
  · apply Bool.eq_false_iff.mpr
    rw [ne_eq, hspace]
    have := hsign.mp h
    omega

/-- The scanner finds the parts again. Source: none: infrastructure -/
theorem subject_of_reads (h : Reads s blanks sign digits) :
    (subject s).blanks = blanks ∧ (subject s).sign = sign ∧ (subject s).digits = digits := by
  obtain ⟨d, digits', rfl⟩ := List.exists_cons_of_ne_nil h.numeral.1
  have hd : isDigit d = true := h.numeral.2 d (by simp)
  have htail : ∀ c ∈ (sign ++ d :: digits').head?, isSpace c = false := by
    obtain hsign | hsign | hsign := h.oneSign
    · subst hsign
      intro c hc
      obtain rfl : d = c := by simpa using hc
      exact ((kinds_disjoint d).1 hd).1
    · subst hsign
      simp [isSpace]
    · subst hsign
      simp [isSpace]
  have hblanks : s.takeWhile isSpace = blanks ∧ s.dropWhile isSpace = sign ++ d :: digits' := by
    rw [h.text_eq, List.append_assoc, List.takeWhile_append_of_pos h.blank,
      List.dropWhile_append_of_pos h.blank]
    obtain ⟨c, rest, hcons⟩ : ∃ c rest, sign ++ d :: digits' = c :: rest :=
      List.exists_cons_of_ne_nil (by simp)
    have hc : isSpace c = false := htail c (by rw [hcons]; rfl)
    rw [hcons, List.takeWhile_cons_of_neg (by simp [hc]), List.dropWhile_cons_of_neg (by simp [hc])]
    exact ⟨List.append_nil _, rfl⟩
  have hsign : signOf (sign ++ d :: digits') = sign := by
    obtain hsign | hsign | hsign := h.oneSign
    · subst hsign
      simp [signOf, Option.filter, ((kinds_disjoint d).1 hd).2]
    · subst hsign
      simp [signOf, Option.filter, isSign]
    · subst hsign
      simp [signOf, Option.filter, isSign]
  unfold subject
  simp only [hblanks.1, hblanks.2, hsign, List.drop_left, true_and]
  exact List.takeWhile_eq_self_iff.mpr h.numeral.2

/-- **Such a string is read to its end.** Source: none: infrastructure -/
theorem stoul_of_reads (h : Reads s blanks sign digits) :
    stoul s = some (signed sign (value digits), s.length) := by
  obtain ⟨hblanks, hsign, hdigits⟩ := subject_of_reads h
  have hlength : s.length = blanks.length + sign.length + digits.length := by
    rw [h.text_eq, List.length_append, List.length_append]
  unfold stoul
  simp only [hblanks, hsign, hdigits]
  rw [if_neg h.numeral.1, if_neg (Nat.not_le.mpr h.fits), ← hlength]

/-- **No other string is.** Source: none: infrastructure -/
theorem reads_of_stoul (h : stoul s = some (v, s.length)) :
    Reads s (subject s).blanks (subject s).sign (subject s).digits := by
  unfold stoul at h
  simp only at h
  split at h
  · cases h
  · rename_i hdigits
    split at h
    · cases h
    · rename_i hfits
      have hread : (subject s).blanks.length + (subject s).sign.length + (subject s).digits.length =
          s.length := by
        simp only [Option.some.injEq, Prod.mk.injEq] at h
        exact h.2
      have htext := subject_text s
      have hrest : (subject s).rest = [] := by
        have := congrArg List.length htext
        simp only [List.length_append] at this
        apply List.eq_nil_of_length_eq_zero
        omega
      rw [hrest, List.append_nil] at htext
      refine ⟨htext.symm, ?_, signOf_cases _, ⟨hdigits, ?_⟩, Nat.not_le.mp hfits⟩
      · intro c hc
        exact List.mem_takeWhile_imp hc
      · intro c hc
        exact List.mem_takeWhile_imp hc

/-! ## A numeral among other things -/

/-- **A numeral after blanks is read**, whatever follows it. Source: none: infrastructure -/
theorem extract_decimal {n : Nat} {rest : List UInt8} (hblank : ∀ c ∈ blanks, isSpace c = true)
    (hrest : ∀ c ∈ rest.head?, isDigit c = false) (hn : n < 2 ^ 64) :
    extract (blanks ++ (decimal n ++ rest)) = n := by
  obtain ⟨hdigits, -⟩ := @span_decimal n rest hrest
  obtain ⟨hnumeral, hvalue⟩ := denotes_eq_some.mp (denotes_decimal n)
  obtain ⟨d, digits', hd⟩ := List.exists_cons_of_ne_nil hnumeral.1
  have hfirst : isSpace d = false ∧ isSign d = false :=
    (kinds_disjoint d).1 (hnumeral.2 d (hd ▸ List.mem_cons_self))
  have hskip : (blanks ++ (decimal n ++ rest)).dropWhile isSpace = decimal n ++ rest := by
    rw [List.dropWhile_append_of_pos hblank, hd, List.cons_append,
      List.dropWhile_cons_of_neg (by simp [hfirst.1])]
  have hsign : signOf (decimal n ++ rest) = [] := by
    rw [hd, List.cons_append, signOf, List.head?_cons]
    simp [Option.filter, hfirst.2]
  have hparts : (subject (blanks ++ (decimal n ++ rest))).digits = decimal n ∧
      (subject (blanks ++ (decimal n ++ rest))).sign = [] := by
    unfold subject
    simp only [hskip, hsign]
    exact ⟨hdigits, trivial⟩
  unfold extract
  simp only [hparts.1, hparts.2]
  rw [if_neg hnumeral.1, if_neg (by omega), hvalue]
  rfl

end Unsigned
