import Mathlib.Data.List.Infix
import Mathlib.Data.List.TakeWhile

/-!
# Searching a text that is still growing

* `position pat s` — where `pat` stands first in `s`. `position_extends` and `position_restricts` relate
  a search in a text and one in a prefix of it: what is found in the prefix stays the first
  occurrence, and an occurrence that ends within the prefix is found there already.
* `words blank s` — the words of a text; `nextWord` takes off the first one, and `words_eq` says that
  this gives them one after the other.
-/

namespace Search

/-! ## A pattern -/

section pattern

variable {α : Type} {pat b s : List α} {i : Nat}

/-- Inside a prefix, a text and its prefix have the same occurrences. Source: none: infrastructure -/
theorem occurs_iff (hb : b <+: s) (hfits : i + pat.length ≤ b.length) :
    pat <+: b.drop i ↔ pat <+: s.drop i := by
  obtain ⟨rest, rfl⟩ := hb
  rw [List.drop_append_of_le_length (by omega)]
  constructor
  · exact fun h => h.trans (List.prefix_append _ _)
  · intro h
    apply List.prefix_of_prefix_length_le h (List.prefix_append _ _)
    rw [List.length_drop]
    omega

variable [BEq α] [LawfulBEq α]

/-- Where a pattern stands first in a text. Source: none: infrastructure -/
def position (pat s : List α) : Option Nat := s.tails.findIdx? fun t => pat.isPrefixOf t

/-- Source: none: infrastructure -/
theorem position_eq_some : position pat s = some i ↔
    i ≤ s.length ∧ pat <+: s.drop i ∧ ∀ j < i, ¬ pat <+: s.drop j := by
  unfold position
  rw [List.findIdx?_eq_some_iff_getElem]
  simp only [List.getElem_tails, List.length_tails, List.isPrefixOf_iff_prefix]
  constructor
  · rintro ⟨hi, hpat, hfirst⟩
    exact ⟨Nat.lt_succ_iff.mp hi, hpat, hfirst⟩
  · rintro ⟨hi, hpat, hfirst⟩
    exact ⟨Nat.lt_succ_iff.mpr hi, hpat, hfirst⟩

/-- An occurrence ends inside the text. Source: none: infrastructure -/
theorem position_bound (h : position pat s = some i) : i + pat.length ≤ s.length := by
  obtain ⟨hi, hpat, -⟩ := position_eq_some.mp h
  have hlength := hpat.length_le
  rw [List.length_drop] at hlength
  omega

/-- **What is found in a prefix stays the first occurrence.** Source: none: infrastructure -/
theorem position_extends (hb : b <+: s) (h : position pat b = some i) : position pat s = some i := by
  have hbound := position_bound h
  obtain ⟨hi, hpat, hfirst⟩ := position_eq_some.mp h
  refine position_eq_some.mpr ⟨hi.trans hb.length_le, (occurs_iff hb hbound).mp hpat, ?_⟩
  intro j hj hearlier
  exact hfirst j hj ((occurs_iff hb (by omega)).mpr hearlier)

/-- **An occurrence that ends within a prefix is found there.** Source: none: infrastructure -/
theorem position_restricts (hb : b <+: s) (h : position pat s = some i)
    (hfits : i + pat.length ≤ b.length) : position pat b = some i := by
  obtain ⟨-, hpat, hfirst⟩ := position_eq_some.mp h
  refine position_eq_some.mpr ⟨by omega, (occurs_iff hb hfits).mpr hpat, ?_⟩
  intro j hj hearlier
  exact hfirst j hj ((occurs_iff hb (by omega)).mp hearlier)

end pattern

/-! ## Words -/

section words

variable {α : Type} {blank : α → Bool} {s : List α}

/-- The words of a text: its longest pieces without blanks. Source: none: infrastructure -/
def words (blank : α → Bool) (s : List α) : List (List α) :=
  (s.splitOnP blank).filter fun w => !w.isEmpty

/-- The first word of a text, and what comes after it. Source: none: infrastructure -/
def nextWord (blank : α → Bool) (s : List α) : Option (List α × List α) :=
  let front := s.dropWhile blank
  if front.isEmpty then none
  else some (front.takeWhile fun c => !blank c, front.dropWhile fun c => !blank c)

/-- Source: none: infrastructure -/
theorem splitOnP_blank {c : α} (hc : blank c = true) :
    (c :: s).splitOnP blank = [] :: s.splitOnP blank := by
  show ([] ++ c :: s).splitOnP blank = _
  exact List.splitOnP_append_cons_of_forall_mem (by simp) c hc s

/-- Blanks in front do not count. Source: none: infrastructure -/
theorem words_dropWhile (s : List α) : words blank (s.dropWhile blank) = words blank s := by
  induction s with
  | nil => rfl
  | cons c s ih =>
      by_cases hc : blank c = true
      · rw [List.dropWhile_cons_of_pos hc, ih]
        have hskip : words blank (c :: s) = words blank s := by
          unfold words
          rw [splitOnP_blank hc]
          rfl
        exact hskip.symm
      · rw [List.dropWhile_cons_of_neg hc]

/-- A word ends at the first blank. Source: none: infrastructure -/
theorem words_append {w rest : List α} (hw : w ≠ []) (hplain : ∀ c ∈ w, blank c = false)
    (hrest : ∀ c ∈ rest.head?, blank c = true) : words blank (w ++ rest) = w :: words blank rest := by
  have hkeep : ∀ ws : List (List α),
      ((w :: ws).filter fun w => !w.isEmpty) = w :: ws.filter fun w => !w.isEmpty :=
    fun ws => List.filter_cons_of_pos (by simpa using hw)
  unfold words
  cases rest with
  | nil =>
      rw [List.append_nil, List.splitOnP_eq_singleton hplain, hkeep]
      rfl
  | cons c rest =>
      have hc : blank c = true := hrest c rfl
      rw [List.splitOnP_append_cons_of_forall_mem hplain c hc, hkeep, splitOnP_blank hc]
      rfl

/-- **The words come one after the other.** Source: none: infrastructure -/
theorem words_eq (s : List α) :
    words blank s = (nextWord blank s).elim [] fun p => p.1 :: words blank p.2 := by
  rw [← words_dropWhile s]
  unfold nextWord
  set front := s.dropWhile blank with hfront
  by_cases hempty : front = []
  · simp only [hempty, List.isEmpty_nil, if_true, Option.elim_none]
    rfl
  · obtain ⟨c, cs, hcons⟩ := List.exists_cons_of_ne_nil hempty
    have hc : blank c = false := by
      have hnot := List.head?_dropWhile_not blank s
      rw [← hfront, hcons] at hnot
      simpa using hnot
    have hword : (front.takeWhile fun c => !blank c) ≠ [] := by
      rw [hcons, List.takeWhile_cons_of_pos (by simp [hc])]
      exact List.cons_ne_nil _ _
    rw [if_neg (by simpa using hempty), Option.elim_some]
    have hsplit : (front.takeWhile fun c => !blank c) ++ (front.dropWhile fun c => !blank c) =
        front := List.takeWhile_append_dropWhile
    conv_lhs => rw [← hsplit]
    apply words_append hword
    · intro d hd
      simpa using List.mem_takeWhile_imp hd
    · intro d hd
      have hnot := List.head?_dropWhile_not (fun c => !blank c) front
      rw [Option.mem_def.mp hd] at hnot
      simpa using hnot

end words

end Search
