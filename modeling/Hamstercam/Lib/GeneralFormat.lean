import Mathlib.Algebra.Order.Field.Rat
import Mathlib.Data.Int.Log
import Mathlib.Data.List.DropRight
import Mathlib.Data.Rat.Floor
import Hamstercam.Lib.Decimal

/-!
# The general format of a number

The text that `printf` writes for a finite `double` under `%.pg`, over the rationals.

* `significant p v` — the first `p` significant digits of a positive number, correctly rounded, and the
  exponent of the first one.
* `general p v` — the text: positional where the exponent allows it, else in exponential notation, in
  both cases without trailing zeros.
* `IsNumberText` — a non-empty text of the bytes that numbers are written with; `isNumberText_general`.
-/

namespace GeneralFormat

open Decimal

/-! ## The format -/

/-- The nearest integer, an even one if there are two. Source: none: infrastructure -/
def roundHalfEven (q : ℚ) : Nat :=
  if q - ⌊q⌋₊ < 1 / 2 then ⌊q⌋₊
  else if 1 / 2 < q - ⌊q⌋₊ then ⌊q⌋₊ + 1
  else if ⌊q⌋₊ % 2 = 0 then ⌊q⌋₊
  else ⌊q⌋₊ + 1

/-- `p` significant digits of a positive number, and the exponent of the first.
Source: none: infrastructure -/
def significant (p : Nat) (v : ℚ) : Nat × Int :=
  let e := Int.log 10 v
  let m := roundHalfEven (v * 10 ^ ((p : Int) - 1 - e))
  -- the digits were nines, and rounding carries
  if m = 10 ^ p then (10 ^ (p - 1), e + 1) else (m, e)

/-- The digits after the point. Source: none: infrastructure -/
def fraction (digits : List UInt8) : List UInt8 :=
  if digits.rdropWhile (· = 48) = [] then [] else 46 :: digits.rdropWhile (· = 48)

/-- Positional notation. Source: none: infrastructure -/
def positional (digits : List UInt8) (e : Int) : List UInt8 :=
  if 0 ≤ e then digits.take (e.toNat + 1) ++ fraction (digits.drop (e.toNat + 1))
  else 48 :: fraction (List.replicate (-e - 1).toNat 48 ++ digits)

/-- Exponential notation, the exponent with a sign and at least two digits.
Source: none: infrastructure -/
def exponential (digits : List UInt8) (e : Int) : List UInt8 :=
  digits.take 1 ++ fraction (digits.drop 1) ++
    101 :: (if e < 0 then 45 else 43) :: (decimal e.natAbs).leftpad 2 48

/-- Source: none: infrastructure -/
def magnitude (p : Nat) (v : ℚ) : List UInt8 :=
  let (m, e) := significant p v
  if -4 ≤ e ∧ e < p then positional (decimal m) e else exponential (decimal m) e

/-- **`%.pg`.** Source: none: infrastructure -/
def general (p : Nat) (v : ℚ) : List UInt8 :=
  if v = 0 then [48] else if v < 0 then 45 :: magnitude p (-v) else magnitude p v

/-! ## The bytes of a number -/

/-- A digit, a sign, a point, or a letter of `e`, `inf` and `nan`. Source: none: infrastructure -/
def isNumberChar (c : UInt8) : Bool :=
  isDigit c || c = 43 || c = 45 || c = 46 || c = 97 || c = 101 || c = 102 || c = 105 || c = 110

/-- Source: none: infrastructure -/
def IsNumberText (s : List UInt8) : Prop := s ≠ [] ∧ ∀ c ∈ s, isNumberChar c = true

section bytes

variable {c : UInt8} {s digits : List UInt8}

/-- Source: none: infrastructure -/
theorem isNumberChar_of_isDigit (hc : isDigit c = true) : isNumberChar c = true := by
  simp [isNumberChar, hc]

/-- Source: none: infrastructure -/
theorem isNumberText_decimal (n : Nat) : IsNumberText (decimal n) := by
  obtain ⟨hne, hdigits⟩ := isNumeral_decimal n
  exact ⟨hne, fun c hc => isNumberChar_of_isDigit (hdigits c hc)⟩

/-- Source: none: infrastructure -/
theorem isNumberText_cons (hc : isNumberChar c = true) (hs : ∀ c ∈ s, isNumberChar c = true) :
    IsNumberText (c :: s) :=
  ⟨List.cons_ne_nil c s, List.forall_mem_cons.mpr ⟨hc, hs⟩⟩

/-- Source: none: infrastructure -/
theorem isNumberChar_fraction (hdigits : ∀ c ∈ digits, isNumberChar c = true) :
    ∀ c ∈ fraction digits, isNumberChar c = true := by
  unfold fraction
  by_cases h : digits.rdropWhile (· = 48) = []
  · rw [if_pos h]
    exact fun c hc => absurd hc List.not_mem_nil
  · rw [if_neg h]
    refine List.forall_mem_cons.mpr ⟨by decide, ?_⟩
    intro c hc
    exact hdigits c ((List.rdropWhile_prefix _ digits).subset hc)

/-- Source: none: infrastructure -/
theorem isNumberText_positional (hdigits : IsNumberText digits) (e : Int) :
    IsNumberText (positional digits e) := by
  obtain ⟨hne, hchars⟩ := hdigits
  unfold positional
  by_cases he : 0 ≤ e
  · rw [if_pos he]
    refine ⟨by simp [hne], ?_⟩
    intro c hc
    rcases List.mem_append.mp hc with hc | hc
    · exact hchars c (List.mem_of_mem_take hc)
    · exact isNumberChar_fraction (fun d hd => hchars d (List.mem_of_mem_drop hd)) c hc
  · rw [if_neg he]
    apply isNumberText_cons (by decide)
    apply isNumberChar_fraction
    intro c hc
    rcases List.mem_append.mp hc with hc | hc
    · rw [(List.mem_replicate.mp hc).2]
      decide
    · exact hchars c hc

/-- Source: none: infrastructure -/
theorem isNumberText_exponential (hdigits : IsNumberText digits) (e : Int) :
    IsNumberText (exponential digits e) := by
  obtain ⟨hne, hchars⟩ := hdigits
  unfold exponential
  refine ⟨by simp, ?_⟩
  intro c hc
  rcases List.mem_append.mp hc with hc | hc
  · rcases List.mem_append.mp hc with hc | hc
    · exact hchars c (List.mem_of_mem_take hc)
    · exact isNumberChar_fraction (fun d hd => hchars d (List.mem_of_mem_drop hd)) c hc
  · rcases List.mem_cons.mp hc with rfl | hc
    · decide
    · rcases List.mem_cons.mp hc with rfl | hc
      · split_ifs <;> decide
      · rw [List.leftpad] at hc
        rcases List.mem_append.mp hc with hc | hc
        · rw [(List.mem_replicate.mp hc).2]
          decide
        · exact (isNumberText_decimal e.natAbs).2 c hc

/-- Source: none: infrastructure -/
theorem isNumberText_magnitude (p : Nat) (v : ℚ) : IsNumberText (magnitude p v) := by
  have hdigits := isNumberText_decimal (significant p v).1
  show IsNumberText (if _ then _ else _)
  split_ifs
  · exact isNumberText_positional hdigits _
  · exact isNumberText_exponential hdigits _

/-- **The text of a number has only the bytes of one.** Source: none: infrastructure -/
theorem isNumberText_general (p : Nat) (v : ℚ) : IsNumberText (general p v) := by
  unfold general
  by_cases hzero : v = 0
  · rw [if_pos hzero]
    exact isNumberText_decimal 0
  · rw [if_neg hzero]
    by_cases hneg : v < 0
    · rw [if_pos hneg]
      exact isNumberText_cons (by decide) (isNumberText_magnitude p (-v)).2
    · rw [if_neg hneg]
      exact isNumberText_magnitude p v

end bytes

end GeneralFormat
