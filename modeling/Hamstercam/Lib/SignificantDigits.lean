import Mathlib.Algebra.Order.Floor.Semifield
import Hamstercam.Lib.GeneralFormat

/-!
# Rounding to significant digits

What `significant` computes, as a number.

* `rounded p v` — `v` to `p` significant digits. `significant_spec` says that the digits and the
  exponent stand for it, and `significant_scaled` that they are those of any number they stand for.
* `toPrecision p n` — the same of a natural number, by division with remainder; `rounded_natCast` joins
  the two.
* `toPrecision_eq_self_iff` — which numbers are kept; `exists_neighbour` — from `10 ^ p` on, no number is
  told from both of its neighbours.
-/

namespace GeneralFormat

section rounding

variable {n m u p : Nat} {e : Int} {q v : ℚ}

/-! ## The nearest integer -/

/-- Source: none: infrastructure -/
@[simp] theorem roundHalfEven_natCast (n : Nat) : roundHalfEven (n : ℚ) = n := by
  simp [roundHalfEven]

/-- Source: none: infrastructure -/
theorem roundHalfEven_bounds (q : ℚ) : ⌊q⌋₊ ≤ roundHalfEven q ∧ roundHalfEven q ≤ ⌊q⌋₊ + 1 := by
  unfold roundHalfEven
  split_ifs <;> omega

/-- Source: none: infrastructure -/
theorem le_roundHalfEven (hn : (n : ℚ) ≤ q) : n ≤ roundHalfEven q :=
  (Nat.le_floor hn).trans (roundHalfEven_bounds q).1

/-- Source: none: infrastructure -/
theorem roundHalfEven_le (hq : 0 ≤ q) (hn : q ≤ n) : roundHalfEven q ≤ n := by
  by_cases h : q = n
  · rw [h, roundHalfEven_natCast]
  · have hfloor : ⌊q⌋₊ < n := (Nat.floor_lt hq).mpr (lt_of_le_of_ne hn h)
    exact (roundHalfEven_bounds q).2.trans hfloor

/-- How many units are nearest to `n`, an even number of them if two are.
Source: none: infrastructure -/
def units (u n : Nat) : Nat :=
  if 2 * (n % u) < u then n / u
  else if u < 2 * (n % u) then n / u + 1
  else if n / u % 2 = 0 then n / u
  else n / u + 1

/-- Source: none: infrastructure -/
theorem roundHalfEven_div (hu : 0 < u) : roundHalfEven ((n : ℚ) / u) = units u n := by
  have hpos : (0 : ℚ) < u := Nat.cast_pos.mpr hu
  have hrest : (n : ℚ) / u - (n / u : Nat) = (n % u : Nat) / u := by
    have hsplit : (n : ℚ) = u * (n / u : Nat) + (n % u : Nat) := by
      exact_mod_cast (Nat.div_add_mod n u).symm
    rw [div_sub' hpos.ne', div_left_inj' hpos.ne']
    linarith
  have hlow : (n % u : Nat) / (u : ℚ) < 1 / 2 ↔ 2 * (n % u) < u := by
    rw [div_lt_div_iff₀ hpos two_pos]
    norm_cast
    omega
  have hhigh : 1 / 2 < (n % u : Nat) / (u : ℚ) ↔ u < 2 * (n % u) := by
    rw [div_lt_div_iff₀ two_pos hpos]
    norm_cast
    omega
  unfold roundHalfEven units
  rw [Nat.floor_div_eq_div, hrest]
  simp only [hlow, hhigh]

/-! ## Significant digits of a number -/

/-- `v` to `p` significant digits, for `v` not negative. Source: none: infrastructure -/
def roundedMagnitude (p : Nat) (v : ℚ) : ℚ :=
  roundHalfEven (v / 10 ^ (Int.log 10 v + 1 - p)) * 10 ^ (Int.log 10 v + 1 - p)

/-- **`v` to `p` significant digits.** Source: none: infrastructure -/
def rounded (p : Nat) (v : ℚ) : ℚ := if v < 0 then -roundedMagnitude p (-v) else roundedMagnitude p v

/-- Source: none: infrastructure -/
@[simp] theorem rounded_zero (p : Nat) : rounded p 0 = 0 := by
  have hzero : roundHalfEven 0 = 0 := roundHalfEven_natCast 0
  simp [rounded, roundedMagnitude, hzero]

/-- Source: none: infrastructure -/
theorem pow_mul_zpow (k : Nat) (j : Int) : ((10 ^ k : Nat) : ℚ) * 10 ^ j = 10 ^ ((k : Int) + j) := by
  rw [Nat.cast_pow, Nat.cast_ofNat, ← zpow_natCast, ← zpow_add₀ (by norm_num)]

/-- Source: none: infrastructure -/
theorem significant_eq (p : Nat) (v : ℚ) : significant p v =
    if roundHalfEven (v / 10 ^ (Int.log 10 v + 1 - p)) = 10 ^ p then (10 ^ (p - 1), Int.log 10 v + 1)
    else (roundHalfEven (v / 10 ^ (Int.log 10 v + 1 - p)), Int.log 10 v) := by
  have hquotient : v * 10 ^ ((p : Int) - 1 - Int.log 10 v) = v / 10 ^ (Int.log 10 v + 1 - p) := by
    rw [div_eq_mul_inv, ← zpow_neg]
    congr 2
    ring
  rw [← hquotient]
  rfl

/-- Before a carry there are `p` digits, and rounding makes them no more than a carry.
Source: none: infrastructure -/
theorem roundHalfEven_quotient (hp : 0 < p) (hv : 0 < v) :
    10 ^ (p - 1) ≤ roundHalfEven (v / 10 ^ (Int.log 10 v + 1 - p)) ∧
      roundHalfEven (v / 10 ^ (Int.log 10 v + 1 - p)) ≤ 10 ^ p := by
  have hunit : (0 : ℚ) < 10 ^ (Int.log 10 v + 1 - p) := zpow_pos (by norm_num) _
  have hlow : (10 : ℚ) ^ Int.log 10 v ≤ v := Int.zpow_log_le_self (by decide) hv
  have hhigh : v < (10 : ℚ) ^ (Int.log 10 v + 1) := Int.lt_zpow_succ_log_self (by decide) v
  have hfirst : ((10 ^ (p - 1) : Nat) : ℚ) ≤ v / 10 ^ (Int.log 10 v + 1 - p) := by
    rw [le_div_iff₀ hunit, pow_mul_zpow,
      show ((p - 1 : Nat) : Int) + (Int.log 10 v + 1 - p) = Int.log 10 v by omega]
    exact hlow
  have hlast : v / 10 ^ (Int.log 10 v + 1 - p) ≤ ((10 ^ p : Nat) : ℚ) := by
    rw [div_le_iff₀ hunit, pow_mul_zpow,
      show (p : Int) + (Int.log 10 v + 1 - p) = Int.log 10 v + 1 by omega]
    exact hhigh.le
  exact ⟨le_roundHalfEven hfirst, roundHalfEven_le (div_nonneg hv.le hunit.le) hlast⟩

/-- **What the digits and the exponent stand for.** The digits are `p`, and they stand for the rounded
number. Source: none: infrastructure -/
theorem significant_spec (hp : 0 < p) (hv : 0 < v) (h : significant p v = (m, e)) :
    (10 ^ (p - 1) ≤ m ∧ m < 10 ^ p) ∧ (m : ℚ) * 10 ^ (e + 1 - p) = roundedMagnitude p v := by
  obtain ⟨hmin, hmax⟩ := roundHalfEven_quotient hp hv
  rw [significant_eq] at h
  unfold roundedMagnitude
  by_cases hcarry : roundHalfEven (v / 10 ^ (Int.log 10 v + 1 - p)) = 10 ^ p
  · rw [if_pos hcarry] at h
    obtain ⟨rfl, rfl⟩ := Prod.mk.inj h
    refine ⟨⟨le_rfl, Nat.pow_lt_pow_right (by decide) (by omega)⟩, ?_⟩
    rw [hcarry, pow_mul_zpow, pow_mul_zpow]
    congr 1
    omega
  · rw [if_neg hcarry] at h
    obtain ⟨rfl, rfl⟩ := Prod.mk.inj h
    exact ⟨⟨hmin, lt_of_le_of_ne hmax hcarry⟩, rfl⟩

/-- **The digits and the exponent are those of the number they stand for.**
Source: none: infrastructure -/
theorem significant_scaled (hp : 0 < p) (hmin : 10 ^ (p - 1) ≤ m) (hmax : m < 10 ^ p) :
    significant p ((m : ℚ) * 10 ^ (e + 1 - p)) = (m, e) := by
  have hunit : (0 : ℚ) < 10 ^ (e + 1 - p) := zpow_pos (by norm_num) _
  have hmpos : 0 < m := (Nat.pow_pos (by decide)).trans_le hmin
  have hpos : (0 : ℚ) < m * 10 ^ (e + 1 - p) := mul_pos (Nat.cast_pos.mpr hmpos) hunit
  have hlow : (10 : ℚ) ^ e ≤ m * 10 ^ (e + 1 - p) := by
    calc (10 : ℚ) ^ e = ((10 ^ (p - 1) : Nat) : ℚ) * 10 ^ (e + 1 - p) := by
          rw [pow_mul_zpow]
          congr 1
          omega
      _ ≤ m * 10 ^ (e + 1 - p) := mul_le_mul_of_nonneg_right (Nat.cast_le.mpr hmin) hunit.le
  have hhigh : (m : ℚ) * 10 ^ (e + 1 - p) < 10 ^ (e + 1) := by
    calc (m : ℚ) * 10 ^ (e + 1 - p) < ((10 ^ p : Nat) : ℚ) * 10 ^ (e + 1 - p) :=
          mul_lt_mul_of_pos_right (Nat.cast_lt.mpr hmax) hunit
      _ = 10 ^ (e + 1) := by
          rw [pow_mul_zpow]
          congr 1
          omega
  have hlog : Int.log 10 ((m : ℚ) * 10 ^ (e + 1 - p)) = e := by
    apply le_antisymm
    · exact Int.lt_add_one_iff.mp ((Int.lt_zpow_iff_log_lt (by decide) hpos).mp hhigh)
    · exact (Int.zpow_le_iff_le_log (by decide) hpos).mp hlow
  rw [significant_eq, hlog, mul_div_cancel_right₀ _ hunit.ne', roundHalfEven_natCast, if_neg hmax.ne]

/-! ## Significant digits of a natural number -/

/-- The weight of the last of `p` significant digits, and of the units for short numbers.
Source: none: infrastructure -/
def lastPlace (p n : Nat) : Nat := 10 ^ (Nat.log 10 n + 1 - p)

/-- **`n` to `p` significant digits**, a half to the even digit. Source: none: infrastructure -/
def toPrecision (p n : Nat) : Nat := units (lastPlace p n) n * lastPlace p n

/-- Source: none: infrastructure -/
theorem lastPlace_pos (p n : Nat) : 0 < lastPlace p n := Nat.pow_pos (by decide)

/-- **Rounding, by division with remainder.** Source: none: infrastructure -/
theorem rounded_natCast (p n : Nat) : rounded p (n : ℚ) = (toPrecision p n : ℚ) := by
  have hsign : ¬ (n : ℚ) < 0 := not_lt.mpr (Nat.cast_nonneg n)
  rw [rounded, if_neg hsign, roundedMagnitude, toPrecision, Nat.cast_mul]
  have hlog : Int.log 10 (n : ℚ) = Nat.log 10 n := Int.log_natCast 10 n
  rw [hlog]
  rcases Nat.le_total p (Nat.log 10 n + 1) with hp | hp
  · have hplace : (10 : ℚ) ^ ((Nat.log 10 n : Int) + 1 - p) = (lastPlace p n : ℚ) := by
      rw [lastPlace, Nat.cast_pow, Nat.cast_ofNat, ← zpow_natCast]
      congr 1
      omega
    rw [hplace, roundHalfEven_div (lastPlace_pos p n)]
  · have hscaled : (n : ℚ) / 10 ^ ((Nat.log 10 n : Int) + 1 - p) =
        (n * 10 ^ (p - (Nat.log 10 n + 1)) : Nat) := by
      rw [Nat.cast_mul, Nat.cast_pow, Nat.cast_ofNat, ← zpow_natCast, div_eq_mul_inv, ← zpow_neg]
      congr 2
      omega
    have hplace : lastPlace p n = 1 := by
      rw [lastPlace, Nat.sub_eq_zero_of_le hp, pow_zero]
    have hunit : (10 : ℚ) ^ ((Nat.log 10 n : Int) + 1 - p) ≠ 0 := zpow_ne_zero _ (by norm_num)
    have hone : units 1 n = n := by
      rw [units, Nat.mod_one, if_pos (by decide), Nat.div_one]
    rw [hscaled, roundHalfEven_natCast, ← hscaled, div_mul_cancel₀ _ hunit, hplace, hone, Nat.cast_one,
      mul_one]

/-! ## What is kept, and what is shared -/

/-- **The numbers that are kept** are those of `p` digits with zeros after them.
Source: none: infrastructure -/
theorem toPrecision_eq_self_iff : toPrecision p n = n ↔ ∃ m < 10 ^ p, ∃ k, n = m * 10 ^ k := by
  have hplaces : toPrecision p n = n ↔ lastPlace p n ∣ n := by
    constructor
    · exact fun h => Dvd.intro_left (units (lastPlace p n) n) h
    · intro h
      have hrest : n % lastPlace p n = 0 := Nat.mod_eq_zero_of_dvd h
      rw [toPrecision, units, hrest, if_pos (lastPlace_pos p n), Nat.div_mul_cancel h]
  rw [hplaces]
  constructor
  · intro h
    refine ⟨n / lastPlace p n, ?_, Nat.log 10 n + 1 - p, (Nat.div_mul_cancel h).symm⟩
    rw [Nat.div_lt_iff_lt_mul (lastPlace_pos p n), lastPlace, ← pow_add]
    calc n < 10 ^ (Nat.log 10 n + 1) := Nat.lt_pow_succ_log_self (by decide) n
      _ ≤ 10 ^ (p + (Nat.log 10 n + 1 - p)) := Nat.pow_le_pow_right (by decide) (by omega)
  · rintro ⟨m, hm, k, rfl⟩
    by_cases hzero : m * 10 ^ k = 0
    · rw [hzero]
      exact Nat.dvd_zero _
    · have hlog : Nat.log 10 (m * 10 ^ k) < p + k := by
        apply Nat.log_lt_of_lt_pow hzero
        rw [pow_add]
        exact Nat.mul_lt_mul_of_pos_right hm (Nat.pow_pos (by decide))
      have hplace : lastPlace p (m * 10 ^ k) ∣ 10 ^ k := Nat.pow_dvd_pow 10 (by omega)
      exact hplace.trans (Nat.dvd_mul_left _ _)

/-- Source: none: infrastructure -/
theorem toPrecision_of_lt (hn : n < 10 ^ p) : toPrecision p n = n :=
  toPrecision_eq_self_iff.mpr ⟨n, hn, 0, (mul_one n).symm⟩

/-- The powers of ten around `n`, in units of its last place. Source: none: infrastructure -/
theorem pow_log_eq (hp : 0 < p) (hn : 10 ^ p ≤ n) :
    10 ^ Nat.log 10 n = 10 ^ (p - 1) * lastPlace p n ∧
      10 ^ (Nat.log 10 n + 1) = 10 ^ p * lastPlace p n := by
  have hlog : p ≤ Nat.log 10 n := Nat.le_log_of_pow_le (by decide) hn
  rw [lastPlace, ← pow_add, ← pow_add]
  constructor
  · congr 1
    omega
  · congr 1
    omega

/-- A long number has `p` digits before its last place. Source: none: infrastructure -/
theorem quotient_bounds (hp : 0 < p) (hn : 10 ^ p ≤ n) :
    10 ^ (p - 1) ≤ n / lastPlace p n ∧ n / lastPlace p n < 10 ^ p := by
  have hpos : 0 < n := (Nat.pow_pos (by decide)).trans_le hn
  obtain ⟨hlow, hhigh⟩ := pow_log_eq hp hn
  rw [Nat.le_div_iff_mul_le (lastPlace_pos p n), Nat.div_lt_iff_lt_mul (lastPlace_pos p n), ← hlow,
    ← hhigh]
  exact ⟨Nat.pow_log_le_self 10 hpos.ne', Nat.lt_pow_succ_log_self (by decide) n⟩

/-- Rounding does not fall below a power of ten. Source: none: infrastructure -/
theorem le_toPrecision (hp : 0 < p) (hn : 10 ^ p ≤ n) : 10 ^ p ≤ toPrecision p n := by
  have hunits : n / lastPlace p n ≤ units (lastPlace p n) n := by
    unfold units
    split_ifs <;> omega
  calc 10 ^ p ≤ 10 ^ Nat.log 10 n :=
        Nat.pow_le_pow_right (by decide) (Nat.le_log_of_pow_le (by decide) hn)
    _ = 10 ^ (p - 1) * lastPlace p n := (pow_log_eq hp hn).1
    _ ≤ toPrecision p n := Nat.mul_le_mul_right _ ((quotient_bounds hp hn).1.trans hunits)

/-- A short number is rounded to by itself only. Source: none: infrastructure -/
theorem eq_of_toPrecision_eq (hp : 0 < p) (hn : n < 10 ^ p) (h : toPrecision p m = toPrecision p n) :
    m = n := by
  rw [toPrecision_of_lt hn] at h
  rcases Nat.lt_or_ge m (10 ^ p) with hm | hm
  · rwa [toPrecision_of_lt hm] at h
  · exact absurd (le_toPrecision hp hm) (Nat.not_le.mpr (h ▸ hn))

/-- Between two multiples of the last place it is the same. Source: none: infrastructure -/
theorem lastPlace_eq (hp : 0 < p) (hn : 10 ^ p ≤ n) (h : m / lastPlace p n = n / lastPlace p n) :
    lastPlace p m = lastPlace p n := by
  have hbounds := quotient_bounds hp hn
  obtain ⟨hlow, hhigh⟩ := pow_log_eq hp hn
  rw [← h, Nat.le_div_iff_mul_le (lastPlace_pos p n), Nat.div_lt_iff_lt_mul (lastPlace_pos p n), ← hlow,
    ← hhigh] at hbounds
  have hlog : Nat.log 10 m = Nat.log 10 n := Nat.log_eq_of_pow_le_of_lt_pow hbounds.1 hbounds.2
  rw [lastPlace, lastPlace, hlog]

/-- In a unit of ten or more, a number shares its nearest multiple with a neighbour.
Source: none: infrastructure -/
theorem exists_units_eq (hu : 10 ∣ u) (hpos : 0 < u) (n : Nat) :
    ∃ m, (m = n + 1 ∨ m + 1 = n) ∧ m / u = n / u ∧ units u m = units u n := by
  have hten : 10 ≤ u := Nat.le_of_dvd hpos hu
  have hrest : n % u < u := Nat.mod_lt n hpos
  have hsplit : n % u + u * (n / u) = n := Nat.mod_add_div n u
  have hnext : n % u + 1 < u → (n + 1) / u = n / u ∧ (n + 1) % u = n % u + 1 :=
    fun h => (Nat.div_mod_unique hpos).mpr ⟨by omega, h⟩
  have hlast : 0 < n % u → (n - 1) / u = n / u ∧ (n - 1) % u = n % u - 1 :=
    fun h => (Nat.div_mod_unique hpos).mpr ⟨by omega, by omega⟩
  -- a neighbour on the other side of a half is avoided, and so is one past a multiple
  by_cases hup : n % u = 0 ∨ u ≤ 2 * (n % u) ∧ n % u + 1 < u ∧ (2 * (n % u) = u → n / u % 2 = 1)
  · obtain ⟨hdiv, hmod⟩ := hnext (by omega)
    refine ⟨n + 1, .inl rfl, hdiv, ?_⟩
    unfold units
    rw [hdiv, hmod]
    split_ifs <;> omega
  · obtain ⟨hdiv, hmod⟩ := hlast (by omega)
    refine ⟨n - 1, .inr (by omega), hdiv, ?_⟩
    unfold units
    rw [hdiv, hmod]
    split_ifs <;> omega

/-- **A long number shares its rounding with a neighbour.** Source: none: infrastructure -/
theorem exists_neighbour (hp : 0 < p) (hn : 10 ^ p ≤ n) :
    ∃ m, (m = n + 1 ∨ m + 1 = n) ∧ toPrecision p m = toPrecision p n := by
  have hlog : p ≤ Nat.log 10 n := Nat.le_log_of_pow_le (by decide) hn
  have hten : 10 ∣ lastPlace p n := dvd_pow_self 10 (by omega)
  obtain ⟨m, hm, hdiv, hunits⟩ := exists_units_eq hten (lastPlace_pos p n) n
  refine ⟨m, hm, ?_⟩
  rw [toPrecision, lastPlace_eq hp hn hdiv, hunits, toPrecision]

end rounding

end GeneralFormat
