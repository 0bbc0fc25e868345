import Mathlib.Data.Nat.Digits.Lemmas

/-!
# Decimal numerals as bytes

* `isDigit`, `digit` — the ASCII digits.
* `value s` — the number that a string of digits denotes; `denotes s` is `none` unless `s` is one.
* `decimal n` — the numeral of `n`; `denotes_decimal` reads it back.
* `value_cons`, `value_append` — the laws for a reader that goes from left to right.
-/

namespace Decimal

/-- An ASCII digit. Source: none: infrastructure -/
def isDigit (c : UInt8) : Bool := 48 ≤ c && c ≤ 57

/-- What a digit denotes. Source: none: infrastructure -/
def digit (c : UInt8) : Nat := (c - 48).toNat

/-- What a string of digits denotes. Source: none: infrastructure -/
def value (s : List UInt8) : Nat := Nat.ofDigits 10 (s.reverse.map digit)

/-- A non-empty string of digits and nothing else. Source: none: infrastructure -/
def IsNumeral (s : List UInt8) : Prop := s ≠ [] ∧ ∀ c ∈ s, isDigit c = true

instance (s : List UInt8) : Decidable (IsNumeral s) :=
  @instDecidableAnd _ _ inferInstance (List.decidableBAll _ s)

/-- The number that a string denotes, if it is a numeral. Source: none: infrastructure -/
def denotes (s : List UInt8) : Option Nat := if IsNumeral s then some (value s) else none

/-- The numeral of a number. Source: none: infrastructure -/
def decimal (n : Nat) : List UInt8 :=
  if n = 0 then [48] else ((Nat.digits 10 n).map fun d => UInt8.ofNat (48 + d)).reverse

variable {s : List UInt8} {c : UInt8} {n : Nat}

/-- Source: none: infrastructure -/
theorem isDigit_iff : isDigit c = true ↔ 48 ≤ c.toNat ∧ c.toNat ≤ 57 := by
  rw [isDigit, Bool.and_eq_true, decide_eq_true_iff, decide_eq_true_iff, UInt8.le_iff_toNat_le,
    UInt8.le_iff_toNat_le]
  rfl

/-- Source: none: infrastructure -/
@[simp] theorem value_nil : value [] = 0 := rfl

/-- The first digit of a numeral weighs the most. Source: none: infrastructure -/
theorem value_cons (c : UInt8) (s : List UInt8) : value (c :: s) = digit c * 10 ^ s.length + value s := by
  rw [value, List.reverse_cons, List.map_append, Nat.ofDigits_append, List.length_map,
    List.length_reverse, value]
  simp only [List.map_cons, List.map_nil, Nat.ofDigits_singleton]
  ring

/-- Source: none: infrastructure -/
theorem value_append (s t : List UInt8) : value (s ++ t) = value s * 10 ^ t.length + value t := by
  induction s with
  | nil => simp
  | cons c s ih =>
      rw [List.cons_append, value_cons, value_cons, ih, List.length_append]
      ring

/-- Source: none: infrastructure -/
@[simp] theorem value_zeros (k : Nat) : value (List.replicate k 48) = 0 := by
  induction k with
  | zero => rfl
  | succ k ih =>
      rw [List.replicate_succ, value_cons, ih]
      exact Nat.zero_mul _

/-- So many digits denote at most so much. Source: none: infrastructure -/
theorem value_lt (hs : ∀ c ∈ s, isDigit c = true) : value s < 10 ^ s.length := by
  induction s with
  | nil => exact Nat.one_pos
  | cons c s ih =>
      obtain ⟨hc, hs⟩ := List.forall_mem_cons.mp hs
      obtain ⟨hmin, hmax⟩ := isDigit_iff.mp hc
      have hle : (48 : UInt8) ≤ c := UInt8.le_iff_toNat_le.mpr hmin
      have hdigit : digit c ≤ 9 := by
        rw [digit, UInt8.toNat_sub_of_le _ _ hle]
        exact Nat.sub_le_of_le_add hmax
      calc value (c :: s) = digit c * 10 ^ s.length + value s := value_cons c s
        _ ≤ 9 * 10 ^ s.length + value s := Nat.add_le_add_right (Nat.mul_le_mul_right _ hdigit) _
        _ < 9 * 10 ^ s.length + 10 ^ s.length := Nat.add_lt_add_left (ih hs) _
        _ = 10 ^ (c :: s).length := by rw [List.length_cons, Nat.pow_succ]; ring

/-- Zeros in front of digits are digits. Source: none: infrastructure -/
theorem isDigit_zeros_append (k : Nat) (hs : ∀ c ∈ s, isDigit c = true) :
    ∀ c ∈ List.replicate k 48 ++ s, isDigit c = true := by
  intro c hc
  rcases List.mem_append.mp hc with hc | hc
  · rw [(List.mem_replicate.mp hc).2]
    decide
  · exact hs c hc

/-- Zeros in front do not count. Source: none: infrastructure -/
theorem value_zeros_append (k : Nat) (s : List UInt8) : value (List.replicate k 48 ++ s) = value s := by
  rw [value_append, value_zeros, Nat.zero_mul, Nat.zero_add]

/-- Source: none: infrastructure -/
theorem denotes_of_isNumeral (h : IsNumeral s) : denotes s = some (value s) := if_pos h

/-- Source: none: infrastructure -/
theorem denotes_of_not_isNumeral (h : ¬ IsNumeral s) : denotes s = none := if_neg h

/-- Source: none: infrastructure -/
theorem denotes_eq_some : denotes s = some n ↔ IsNumeral s ∧ value s = n := by
  unfold denotes
  by_cases h : IsNumeral s
  · simp [h]
  · simp [h]

/-- The digits of a numeral. Source: none: infrastructure -/
theorem isDigit_ofNat :
    ∀ d < 10, isDigit (UInt8.ofNat (48 + d)) = true ∧ digit (UInt8.ofNat (48 + d)) = d := by
  decide

/-- A numeral has digits only. Source: none: infrastructure -/
theorem isNumeral_decimal (n : Nat) : IsNumeral (decimal n) := by
  unfold decimal
  by_cases h : n = 0
  · rw [if_pos h]
    decide
  · rw [if_neg h]
    refine ⟨by simp [Nat.digits_ne_nil_iff_ne_zero, h], ?_⟩
    intro c hc
    obtain ⟨d, hd, rfl⟩ := List.mem_map.mp (List.mem_reverse.mp hc)
    exact (isDigit_ofNat d (Nat.digits_lt_base (by decide) hd)).1

/-- **A numeral denotes its number.** Source: none: infrastructure -/
theorem denotes_decimal (n : Nat) : denotes (decimal n) = some n := by
  apply denotes_eq_some.mpr
  refine ⟨isNumeral_decimal n, ?_⟩
  unfold decimal
  by_cases h : n = 0
  · rw [if_pos h, h]
    rfl
  · rw [if_neg h, value, List.reverse_reverse, List.map_map]
    have hdigits : ∀ d ∈ Nat.digits 10 n, (digit ∘ fun d => UInt8.ofNat (48 + d)) d = d := by
      intro d hd
      exact (isDigit_ofNat d (Nat.digits_lt_base (by decide) hd)).2
    rw [List.map_congr_left hdigits, List.map_id', Nat.ofDigits_digits]

/-- Source: none: infrastructure -/
theorem length_decimal {k : Nat} (hmin : 10 ^ k ≤ n) (hmax : n < 10 ^ (k + 1)) :
    (decimal n).length = k + 1 := by
  have hn : n ≠ 0 := ((Nat.pow_pos (by decide)).trans_le hmin).ne'
  rw [decimal, if_neg hn, List.length_reverse, List.length_map]
  apply le_antisymm
  · exact (Nat.digits_length_le_iff (by decide) n).mpr hmax
  · exact (Nat.lt_digits_length_iff (by decide) n).mpr hmin

/-- A numeral has no leading zero, unless it is one. Source: none: infrastructure -/
theorem decimal_head (h : (decimal n).head? = some 48) : decimal n = [48] := by
  unfold decimal at h ⊢
  by_cases hn : n = 0
  · exact if_pos hn
  · rw [if_neg hn, List.head?_reverse, List.getLast?_map] at h
    have hne : Nat.digits 10 n ≠ [] := Nat.digits_ne_nil_iff_ne_zero.mpr hn
    rw [List.getLast?_eq_some_getLast hne, Option.map_some, Option.some_inj] at h
    have hlast := (isDigit_ofNat _ (Nat.digits_lt_base (by decide) (List.getLast_mem hne))).2
    rw [h] at hlast
    exact absurd hlast.symm (Nat.getLast_digit_ne_zero 10 hn)

/-- A reader of digits finds their end. Source: none: infrastructure -/
theorem span_digits {rest : List UInt8} (hs : ∀ c ∈ s, isDigit c = true)
    (h : ∀ c ∈ rest.head?, isDigit c = false) :
    (s ++ rest).takeWhile isDigit = s ∧ (s ++ rest).dropWhile isDigit = rest := by
  rw [List.takeWhile_append_of_pos hs, List.dropWhile_append_of_pos hs]
  cases rest with
  | nil => simp
  | cons c rest =>
      have hc := h c rfl
      rw [List.takeWhile_cons_of_neg (by simp [hc]), List.dropWhile_cons_of_neg (by simp [hc])]
      exact ⟨List.append_nil _, rfl⟩

/-- A reader of digits finds the end of a numeral. Source: none: infrastructure -/
theorem span_decimal {rest : List UInt8} (h : ∀ c ∈ rest.head?, isDigit c = false) :
    (decimal n ++ rest).takeWhile isDigit = decimal n ∧
      (decimal n ++ rest).dropWhile isDigit = rest :=
  span_digits (isNumeral_decimal n).2 h

end Decimal
