import Mathlib.Logic.Basic

/-!
# Contracts

A program and its environment make observations together, and each promises something about every one of
them. What is promised depends on a state that the observations move.

* `Contract σ ω` — the state, and what either side promises.
* `Keeps` — the program keeps its part as long as the environment has kept its own; `Relies` — the
  environment keeps its part to the end.
* `Triple I tr J` — from every state of `I` the program keeps its part of `tr`, and if the environment does
  too they end in `J`. The rules `triple_*` follow the observations.
-/

namespace Contracts

/-- Source: none: infrastructure -/
structure Contract (σ ω : Type) where
  /-- How an observation moves the state. -/
  next : σ → ω → σ
  /-- What the environment promises. -/
  relies : σ → ω → Prop
  /-- What the program promises. -/
  guarantees : σ → ω → Prop

namespace Contract

variable {σ ω : Type} (C : Contract σ ω)

/-- The state after some observations. Source: none: infrastructure -/
def after (s : σ) (tr : List ω) : σ := tr.foldl C.next s

/-- The environment keeps its part. Source: none: infrastructure -/
def Relies (s : σ) : List ω → Prop
  | [] => True
  | o :: tr => C.relies s o ∧ Relies (C.next s o) tr

/-- The program keeps its part, as long as the environment has kept its own.
Source: none: infrastructure -/
def Keeps (s : σ) : List ω → Prop
  | [] => True
  | o :: tr => C.guarantees s o ∧ (C.relies s o → Keeps (C.next s o) tr)

/-- From every state of `I`, the program keeps its part of `tr`; if the environment does too, they end in
`J`. Source: none: infrastructure -/
def Triple (I : σ → Prop) (tr : List ω) (J : σ → Prop) : Prop :=
  ∀ s, I s → C.Keeps s tr ∧ (C.Relies s tr → J (C.after s tr))

variable {C} {I J K : σ → Prop} {s : σ} {o : ω} {tr tr' : List ω}

/-- Source: none: infrastructure -/
theorem relies_append : C.Relies s (tr ++ tr') ↔ C.Relies s tr ∧ C.Relies (C.after s tr) tr' := by
  induction tr generalizing s with
  | nil => exact ⟨fun h => ⟨trivial, h⟩, fun h => h.2⟩
  | cons o tr ih =>
      show C.relies s o ∧ C.Relies (C.next s o) (tr ++ tr') ↔ _
      rw [ih]
      exact and_assoc.symm

/-- Source: none: infrastructure -/
theorem keeps_append :
    C.Keeps s (tr ++ tr') ↔ C.Keeps s tr ∧ (C.Relies s tr → C.Keeps (C.after s tr) tr') := by
  induction tr generalizing s with
  | nil => exact ⟨fun h => ⟨trivial, fun _ => h⟩, fun h => h.2 trivial⟩
  | cons o tr ih =>
      show C.guarantees s o ∧ (C.relies s o → C.Keeps (C.next s o) (tr ++ tr')) ↔ _
      rw [ih]
      constructor
      · rintro ⟨ho, h⟩
        exact ⟨⟨ho, fun hr => (h hr).1⟩, fun hr => (h hr.1).2 hr.2⟩
      · rintro ⟨⟨ho, h⟩, h'⟩
        exact ⟨ho, fun hr => ⟨h hr, fun hr' => h' ⟨hr, hr'⟩⟩⟩

/-- Source: none: infrastructure -/
theorem triple_nil (I : σ → Prop) : C.Triple I [] I := fun _ hs => ⟨trivial, fun _ => hs⟩

/-- **One after the other.** Source: none: infrastructure -/
theorem Triple.append (h : C.Triple I tr J) (h' : C.Triple J tr' K) : C.Triple I (tr ++ tr') K := by
  intro s hs
  obtain ⟨hkeeps, hafter⟩ := h s hs
  refine ⟨keeps_append.mpr ⟨hkeeps, fun hr => (h' _ (hafter hr)).1⟩, fun hr => ?_⟩
  obtain ⟨hr, hr'⟩ := relies_append.mp hr
  rw [after, List.foldl_append]
  exact (h' _ (hafter hr)).2 hr'

/-- One observation. Source: none: infrastructure -/
theorem triple_one (hg : ∀ s, I s → C.guarantees s o)
    (hnext : ∀ s, I s → C.relies s o → J (C.next s o)) : C.Triple I [o] J :=
  fun s hs => ⟨⟨hg s hs, fun _ => trivial⟩, fun hr => hnext s hs hr.1⟩

/-- Observations that do not move the state. Source: none: infrastructure -/
theorem triple_stutter (h : ∀ o ∈ tr, ∀ s, I s → C.guarantees s o ∧ C.next s o = s) :
    C.Triple I tr I := by
  induction tr with
  | nil => exact triple_nil I
  | cons o tr ih =>
      obtain ⟨ho, htr⟩ := List.forall_mem_cons.mp h
      rw [← List.singleton_append]
      refine (triple_one (fun s hs => (ho s hs).1) fun s hs _ => ?_).append (ih htr)
      rw [(ho s hs).2]
      exact hs

/-- Source: none: infrastructure -/
theorem Triple.weaken (h : C.Triple I tr J) (hJ : ∀ s, J s → K s) : C.Triple I tr K :=
  fun s hs => ⟨(h s hs).1, fun hr => hJ _ ((h s hs).2 hr)⟩

/-- Source: none: infrastructure -/
theorem Triple.strengthen (h : C.Triple J tr K) (hI : ∀ s, I s → J s) : C.Triple I tr K :=
  fun s hs => h s (hI s hs)

end Contract

end Contracts
