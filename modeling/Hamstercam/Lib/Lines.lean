import Mathlib.Data.List.DropRight
import Mathlib.Logic.Basic

/-!
# Lines: a list cut at a separator

* `complete sep xs` — the pieces of `xs` that a separator ends, in order; `pending sep xs` — what
  stands after the last separator. `line_induction` is the induction that goes with them: a list has
  no separator, or it is one line, the separator, and a list.
* `complete_append`, `pending_append` — of what was read so far, only the pending part matters for
  what is read next. This is the law behind every incremental reader of lines.
* `AtLine sep xs before l` — `l` is a whole line of `xs`, and `before` is what stands before it. The
  position tells two equal lines apart. `located before ls` gives the lines of a list their positions,
  and `mem_located_complete` says that these are all of them.
* `Agree P Q as bs` — one list has only elements of another where `P` looks, and all of them where `Q`
  looks; `agree_append_iff` and `agree_cons_iff` take it apart.
-/

namespace Lines

variable {α : Type} [DecidableEq α] {sep : α} {xs ys l before after : List α}

/-- The pieces that a separator ends. Source: none: infrastructure -/
def complete (sep : α) (xs : List α) : List (List α) := (xs.splitOn sep).dropLast

/-- What stands after the last separator. Source: none: infrastructure -/
def pending (sep : α) (xs : List α) : List α := xs.rtakeWhile (· ≠ sep)

/-! ## One line after the other -/

/-- Source: none: infrastructure -/
theorem complete_of_not_mem (h : sep ∉ xs) : complete sep xs = [] := by
  rw [complete, List.splitOn_eq_singleton h, List.dropLast_singleton]

/-- Source: none: infrastructure -/
theorem pending_of_not_mem (h : sep ∉ xs) : pending sep xs = xs := by
  rw [pending, List.rtakeWhile_eq_self_iff]
  intro x hx
  have hne : x ≠ sep := fun he => h (he ▸ hx)
  simpa using hne

/-- Source: none: infrastructure -/
@[simp] theorem complete_nil : complete sep ([] : List α) = [] := complete_of_not_mem (by simp)

/-- Source: none: infrastructure -/
@[simp] theorem pending_nil : pending sep ([] : List α) = [] := pending_of_not_mem (by simp)

/-- Source: none: infrastructure -/
theorem complete_line (h : sep ∉ l) : complete sep (l ++ sep :: xs) = l :: complete sep xs := by
  rw [complete, List.splitOn_append_cons_self_of_not_mem h,
    List.dropLast_cons_of_ne_nil (List.splitOn_ne_nil sep xs), complete]

/-- Where the first separator stands, a list comes apart in one way only.
Source: none: infrastructure -/
theorem append_sep_inj (hx : sep ∉ xs) (hy : sep ∉ ys)
    (h : xs ++ sep :: before = ys ++ sep :: after) : xs = ys ∧ before = after := by
  have hlines := congrArg (complete sep) h
  rw [complete_line hx, complete_line hy] at hlines
  obtain rfl := (List.cons_eq_cons.mp hlines).1
  exact ⟨rfl, (List.cons_eq_cons.mp (List.append_cancel_left h)).2⟩

/-- A separator is pending for nobody. Source: none: infrastructure -/
theorem pending_line : pending sep (l ++ sep :: xs) = pending sep xs := by
  induction xs using List.reverseRecOn with
  | nil => simp [pending]
  | append_singleton xs x ih =>
      simp only [pending] at ih ⊢
      rw [← List.cons_append, ← List.append_assoc, List.rtakeWhile_concat, ih,
        List.rtakeWhile_concat]

/-- **Induction line by line.** Source: none: infrastructure -/
theorem line_induction (sep : α) {motive : List α → Prop} (tail : ∀ xs, sep ∉ xs → motive xs)
    (line : ∀ l xs, sep ∉ l → motive xs → motive (l ++ sep :: xs)) (xs : List α) : motive xs := by
  induction hn : xs.length using Nat.strong_induction_on generalizing xs with
  | _ n ih =>
      by_cases h : sep ∈ xs
      · obtain ⟨l, rest, rfl, hl⟩ := List.eq_append_cons_of_mem h
        have hlt : rest.length < n := by
          rw [← hn, List.length_append, List.length_cons]
          omega
        exact line l rest hl (ih rest.length hlt rest rfl)
      · exact tail xs h

/-! ## What was read, and what is read next -/

/-- Source: none: infrastructure -/
theorem not_mem_pending : sep ∉ pending sep xs := by
  intro h
  simpa using List.mem_rtakeWhile_imp h

/-- Source: none: infrastructure -/
theorem pending_suffix : pending sep xs <:+ xs := List.rtakeWhile_suffix _ xs

/-- **What is read next completes the pending line first.** Source: none: infrastructure -/
theorem complete_append (xs ys : List α) :
    complete sep (xs ++ ys) = complete sep xs ++ complete sep (pending sep xs ++ ys) := by
  induction xs using line_induction sep with
  | tail xs h => rw [complete_of_not_mem h, pending_of_not_mem h, List.nil_append]
  | line l xs h ih =>
      rw [List.append_assoc, List.cons_append, complete_line h, complete_line h, ih, pending_line,
        List.cons_append]

/-- Source: none: infrastructure -/
theorem pending_append (xs ys : List α) :
    pending sep (xs ++ ys) = pending sep (pending sep xs ++ ys) := by
  induction xs using line_induction sep with
  | tail xs h => rw [pending_of_not_mem h]
  | line l xs h ih => rw [List.append_assoc, List.cons_append, pending_line, ih, pending_line]

/-- Every separator ends a line. Source: none: infrastructure -/
theorem length_complete : (complete sep xs).length = xs.count sep := by
  induction xs using line_induction sep with
  | tail xs h => rw [complete_of_not_mem h, List.count_eq_zero_of_not_mem h, List.length_nil]
  | line l xs h ih =>
      rw [complete_line h, List.length_cons, ih, List.count_append, List.count_cons_self,
        List.count_eq_zero_of_not_mem h, Nat.zero_add]

/-- What is in front of the first line matters for that line only, and only if there is one.
Source: none: infrastructure -/
theorem complete_append_inj (hx : sep ∉ xs) (hy : sep ∉ ys) :
    complete sep (xs ++ l) = complete sep (ys ++ l) ↔ (sep ∈ l → xs = ys) := by
  by_cases hl : sep ∈ l
  · obtain ⟨first, rest, rfl, hf⟩ := List.eq_append_cons_of_mem hl
    rw [← List.append_assoc, ← List.append_assoc, complete_line (by simp [hx, hf]),
      complete_line (by simp [hy, hf])]
    constructor
    · intro h _
      exact List.append_cancel_right (List.cons_eq_cons.mp h).1
    · intro h
      rw [h hl]
  · rw [complete_of_not_mem (by simp [hx, hl]), complete_of_not_mem (by simp [hy, hl])]
    simp [hl]

/-! ## Lines with their position -/

section positions

variable {ls ms : List (List α)} {x : List α × List α}

/-- `l` is a whole line of `xs`, and `before` is what stands before it: a list or a separator on its
left, and a separator on its right. Source: none: infrastructure -/
def AtLine (sep : α) (xs before l : List α) : Prop :=
  pending sep before = [] ∧ sep ∉ l ∧ before ++ l ++ [sep] <+: xs

/-- What stands before the last line. Source: none: infrastructure -/
def ended (sep : α) (xs : List α) : List α := (complete sep xs).flatMap (· ++ [sep])

/-- Lines that follow each other, each with what stands before it. Source: none: infrastructure -/
def located (sep : α) (before : List α) : List (List α) → List (List α × List α)
  | [] => []
  | l :: ls => (before, l) :: located sep (before ++ l ++ [sep]) ls

/-- Source: none: infrastructure -/
theorem ended_append_pending (xs : List α) : ended sep xs ++ pending sep xs = xs := by
  induction xs using line_induction sep with
  | tail xs h =>
      rw [ended, complete_of_not_mem h, pending_of_not_mem h, List.flatMap_nil, List.nil_append]
  | line l xs h ih =>
      rw [ended, complete_line h, pending_line, List.flatMap_cons, ← ended, List.append_assoc, ih,
        List.append_assoc, List.singleton_append]

/-- Source: none: infrastructure -/
theorem ended_append (xs ys : List α) :
    ended sep (xs ++ ys) = ended sep xs ++ ended sep (pending sep xs ++ ys) := by
  rw [ended, complete_append, List.flatMap_append, ← ended, ← ended]

omit [DecidableEq α] in
/-- Source: none: infrastructure -/
theorem located_append (ls ms : List (List α)) : located sep before (ls ++ ms) =
    located sep before ls ++ located sep (before ++ ls.flatMap (· ++ [sep])) ms := by
  induction ls generalizing before with
  | nil => simp [located]
  | cons l ls ih => simp [located, ih]

omit [DecidableEq α] in
/-- Source: none: infrastructure -/
theorem located_lines (sep : α) (before : List α) (ls : List (List α)) :
    (located sep before ls).map Prod.snd = ls := by
  induction ls generalizing before with
  | nil => rfl
  | cons l ls ih => rw [located, List.map_cons, ih]

omit [DecidableEq α] in
/-- Source: none: infrastructure -/
theorem forall_mem_located (sep : α) (before : List α) {P : List α → Prop} :
    (∀ x ∈ located sep before ls, P x.2) ↔ ∀ l ∈ ls, P l := by
  conv_rhs => rw [← located_lines sep before ls]
  exact List.forall_mem_map.symm

omit [DecidableEq α] in
/-- Source: none: infrastructure -/
theorem length_le_of_mem_located (h : x ∈ located sep before ls) : before.length ≤ x.1.length := by
  induction ls generalizing before with
  | nil => simp [located] at h
  | cons l ls ih =>
      rcases List.mem_cons.mp h with rfl | h
      · exact Nat.le_refl _
      · have hle := ih h
        rw [List.length_append, List.length_append] at hle
        omega

/-- **The located lines are all the lines there are.** Source: none: infrastructure -/
theorem mem_located_complete : x ∈ located sep before (complete sep xs) ↔
    ∃ front, x.1 = before ++ front ∧ AtLine sep xs front x.2 := by
  induction xs using line_induction sep generalizing before with
  | tail xs h =>
      rw [complete_of_not_mem h]
      constructor
      · intro hx
        simp [located] at hx
      · rintro ⟨front, -, -, -, hpre⟩
        exact absurd (hpre.subset (by simp)) h
  | line l xs h ih =>
      rw [complete_line h, located, List.mem_cons, ih]
      constructor
      · rintro (rfl | ⟨front, hx, hstart, hl, hpre⟩)
        · exact ⟨[], by simp, pending_nil, h, ⟨xs, by simp⟩⟩
        · refine ⟨l ++ sep :: front, by rw [hx]; simp, by rw [pending_line, hstart], hl, ?_⟩
          simpa using hpre
      · rintro ⟨front, hx, hstart, hl, hpre⟩
        obtain ⟨after, hafter⟩ := hpre
        by_cases hf : sep ∈ front
        · obtain ⟨first, rest, rfl, hfirst⟩ := List.eq_append_cons_of_mem hf
          have heq : first ++ sep :: (rest ++ x.2 ++ [sep] ++ after) = l ++ sep :: xs := by
            simpa using hafter
          obtain ⟨rfl, hrest⟩ := append_sep_inj hfirst h heq
          refine .inr ⟨rest, by simpa using hx, ?_, hl, ⟨after, hrest⟩⟩
          rwa [pending_line] at hstart
        · rw [pending_of_not_mem hf] at hstart
          subst hstart
          have heq : x.2 ++ sep :: after = l ++ sep :: xs := by
            simpa using hafter
          obtain ⟨hline, -⟩ := append_sep_inj hl h heq
          exact .inl (Prod.ext (by simpa using hx) hline)

/-- Where a located line ends. Source: none: infrastructure -/
def finish (x : List α × List α) : Nat := x.1.length + x.2.length

/-- The lines that `ys` completes end in `ys`. Source: none: infrastructure -/
theorem finish_of_mem_located (hx : sep ∉ xs)
    (h : x ∈ located sep before (complete sep (xs ++ ys))) :
    (before ++ xs).length ≤ finish x ∧ finish x < (before ++ xs ++ ys).length := by
  obtain ⟨front, hfront, -, -, hpre⟩ := mem_located_complete.mp h
  have hlen := hpre.length_le
  simp only [List.length_append, List.length_singleton] at hlen
  rw [finish, hfront, List.length_append, List.length_append, List.length_append, List.length_append]
  refine ⟨?_, by omega⟩
  by_contra hlt
  have hin : front ++ x.2 ++ [sep] <+: xs := by
    apply List.prefix_of_prefix_length_le hpre (List.prefix_append xs ys)
    rw [List.length_append, List.length_append, List.length_singleton]
    omega
  exact hx (hin.subset (by simp))

end positions

/-! ## Two lists that agree where it matters -/

section agree

variable {β : Type} {P Q : β → Prop} {a b : β} {as bs cs ds later : List β}

/-- Where `P` looks, `as` has only elements of `bs`; where `Q` looks, it has all of them.
Source: none: infrastructure -/
def Agree (P Q : β → Prop) (as bs : List β) : Prop :=
  (∀ y ∈ as, P y → y ∈ bs) ∧ ∀ y ∈ bs, Q y → y ∈ as

/-- Source: none: infrastructure -/
@[simp] theorem agree_self : Agree P Q as as := ⟨fun _ hy _ => hy, fun _ hy _ => hy⟩

/-- Source: none: infrastructure -/
theorem agree_nil_left : Agree P Q [] bs ↔ ∀ y ∈ bs, ¬ Q y := by
  simp [Agree]

/-- Lists whose elements lie on both sides of a mark agree on each side of it.
Source: none: infrastructure -/
theorem agree_append_iff (rank : β → Nat) (n : Nat) (ha : ∀ y ∈ as, rank y < n)
    (hb : ∀ y ∈ bs, n ≤ rank y) (hc : ∀ y ∈ cs, rank y < n) (hd : ∀ y ∈ ds, n ≤ rank y) :
    Agree P Q (as ++ bs) (cs ++ ds) ↔ Agree P Q as cs ∧ Agree P Q bs ds := by
  have hfirst : ∀ {y : β} {us vs : List β}, rank y < n → (∀ z ∈ vs, n ≤ rank z) →
      (y ∈ us ++ vs ↔ y ∈ us) := by
    intro y us vs hy hv
    rw [List.mem_append]
    exact ⟨fun h => h.elim id fun h => absurd hy (Nat.not_lt.mpr (hv y h)), .inl⟩
  have hlast : ∀ {y : β} {us vs : List β}, n ≤ rank y → (∀ z ∈ us, rank z < n) →
      (y ∈ us ++ vs ↔ y ∈ vs) := by
    intro y us vs hy hu
    rw [List.mem_append]
    exact ⟨fun h => h.elim (fun h => absurd (hu y h) (Nat.not_lt.mpr hy)) id, .inr⟩
  constructor
  · rintro ⟨h₁, h₂⟩
    refine ⟨⟨fun y hy hP => ?_, fun y hy hQ => ?_⟩, ⟨fun y hy hP => ?_, fun y hy hQ => ?_⟩⟩
    · exact (hfirst (ha y hy) hd).mp (h₁ y (List.mem_append_left _ hy) hP)
    · exact (hfirst (hc y hy) hb).mp (h₂ y (List.mem_append_left _ hy) hQ)
    · exact (hlast (hb y hy) hc).mp (h₁ y (List.mem_append_right _ hy) hP)
    · exact (hlast (hd y hy) ha).mp (h₂ y (List.mem_append_right _ hy) hQ)
  · rintro ⟨h₁, h₂⟩
    refine ⟨fun y hy hP => ?_, fun y hy hQ => ?_⟩
    · rcases List.mem_append.mp hy with hy | hy
      · exact List.mem_append_left _ (h₁.1 y hy hP)
      · exact List.mem_append_right _ (h₂.1 y hy hP)
    · rcases List.mem_append.mp hy with hy | hy
      · exact List.mem_append_left _ (h₁.2 y hy hQ)
      · exact List.mem_append_right _ (h₂.2 y hy hQ)

/-- Lists that differ in the first element agree where nobody looks at it.
Source: none: infrastructure -/
theorem agree_cons_iff (hab : a ≠ b) (ha : a ∉ later) (hb : b ∉ later) :
    Agree P Q (a :: later) (b :: later) ↔ ¬ P a ∧ ¬ Q b := by
  have hab' : a ∉ b :: later := fun h => (List.mem_cons.mp h).elim hab ha
  have hba' : b ∉ a :: later := fun h => (List.mem_cons.mp h).elim (Ne.symm hab) hb
  constructor
  · rintro ⟨h₁, h₂⟩
    exact ⟨fun hP => hab' (h₁ a List.mem_cons_self hP), fun hQ => hba' (h₂ b List.mem_cons_self hQ)⟩
  · rintro ⟨hP, hQ⟩
    refine ⟨fun y hy hy' => ?_, fun y hy hy' => ?_⟩
    · rcases List.mem_cons.mp hy with rfl | hy
      · exact absurd hy' hP
      · exact List.mem_cons_of_mem _ hy
    · rcases List.mem_cons.mp hy with rfl | hy
      · exact absurd hy' hQ
      · exact List.mem_cons_of_mem _ hy

end agree

end Lines
