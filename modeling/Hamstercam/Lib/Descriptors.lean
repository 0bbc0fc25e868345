import Mathlib.Data.List.Count
import Mathlib.Data.List.Perm.Basic
import Mathlib.Logic.Basic

/-!
# The discipline of descriptors

What a program does with the descriptors it is given, as a list of actions.

* `Action α` — a descriptor is acquired, used or released.
* `Leads limit held acts held'` — from the descriptors `held` the actions lead to `held'`: nothing is used
  or released that is not held, and never are more than `limit` held.
* `Leads.session` — what is acquired first and released last leaves no trace. `leads_uses` is the rule
  for what happens in between, and `Leads.trans` puts the pieces together.
* `Leads.balance`, `Leads.used_held`, `Leads.within` — what the discipline says: as much is released as was
  acquired and is not held any more; what is used is held then; the bound holds all the time.
-/

namespace Descriptors

variable {α : Type} [DecidableEq α] {limit : Nat} {held held' held'' : List α} {a : α}

/-- What a program does with a descriptor. Source: none: infrastructure -/
inductive Action (α : Type)
  | acquire (a : α)
  | use (a : α)
  | release (a : α)
  deriving DecidableEq

/-- What is held after an action, unless it breaks the discipline. Source: none: infrastructure -/
def check (limit : Nat) (held : List α) : Action α → Option (List α)
  | .acquire a => if held.length < limit then some (a :: held) else none
  | .use a => if a ∈ held then some held else none
  | .release a => if a ∈ held then some (held.erase a) else none

/-- From `held` the actions lead to `held'`. Source: none: infrastructure -/
def Leads (limit : Nat) (held : List α) (acts : List (Action α)) (held' : List α) : Prop :=
  acts.foldlM (check limit) held = some held'

instance (limit : Nat) (held : List α) (acts : List (Action α)) (held' : List α) :
    Decidable (Leads limit held acts held') := inferInstanceAs (Decidable (_ = _))

variable {acts acts' : List (Action α)} {x : Action α}

/-- Source: none: infrastructure -/
theorem check_acquire :
    check limit held (.acquire a) = some held' ↔ held.length < limit ∧ held' = a :: held := by
  by_cases h : held.length < limit
  · simp [check, h, eq_comm]
  · simp [check, h]

/-- Source: none: infrastructure -/
theorem check_use : check limit held (.use a) = some held' ↔ a ∈ held ∧ held' = held := by
  by_cases h : a ∈ held
  · simp [check, h, eq_comm]
  · simp [check, h]

/-- Source: none: infrastructure -/
theorem check_release :
    check limit held (.release a) = some held' ↔ a ∈ held ∧ held' = held.erase a := by
  by_cases h : a ∈ held
  · simp [check, h, eq_comm]
  · simp [check, h]

/-! ## Composing -/

/-- Source: none: infrastructure -/
@[simp] theorem leads_nil : Leads limit held [] held' ↔ held = held' := by
  rw [Leads, List.foldlM_nil]
  exact Option.some_inj

/-- Source: none: infrastructure -/
theorem leads_append : Leads limit held (acts ++ acts') held'' ↔
    ∃ held', Leads limit held acts held' ∧ Leads limit held' acts' held'' := by
  rw [Leads, List.foldlM_append]
  exact Option.bind_eq_some_iff

/-- Source: none: infrastructure -/
theorem leads_cons : Leads limit held (x :: acts) held'' ↔
    ∃ held', check limit held x = some held' ∧ Leads limit held' acts held'' := by
  rw [Leads, List.foldlM_cons]
  exact Option.bind_eq_some_iff

/-- Source: none: infrastructure -/
theorem Leads.trans (h : Leads limit held acts held') (h' : Leads limit held' acts' held'') :
    Leads limit held (acts ++ acts') held'' :=
  leads_append.mpr ⟨held', h, h'⟩

/-- Acquiring, then going on. Source: none: infrastructure -/
theorem Leads.acquire (hroom : held.length < limit) (h : Leads limit (a :: held) acts held') :
    Leads limit held (.acquire a :: acts) held' :=
  leads_cons.mpr ⟨a :: held, check_acquire.mpr ⟨hroom, rfl⟩, h⟩

/-- Using, then going on. Source: none: infrastructure -/
theorem Leads.use (ha : a ∈ held) (h : Leads limit held acts held') :
    Leads limit held (.use a :: acts) held' :=
  leads_cons.mpr ⟨held, check_use.mpr ⟨ha, rfl⟩, h⟩

/-- Releasing what was acquired last. Source: none: infrastructure -/
theorem leads_release : Leads limit (a :: held) [.release a] held := by
  refine leads_cons.mpr ⟨held, check_release.mpr ⟨List.mem_cons_self, ?_⟩, leads_nil.mpr rfl⟩
  rw [List.erase_cons_head]

/-- Uses of what is held. Source: none: infrastructure -/
theorem leads_uses (h : ∀ x ∈ acts, ∃ a ∈ held, x = .use a) : Leads limit held acts held := by
  induction acts with
  | nil => exact leads_nil.mpr rfl
  | cons x acts ih =>
      obtain ⟨⟨a, ha, rfl⟩, hacts⟩ := List.forall_mem_cons.mp h
      exact .use ha (ih hacts)

/-- **What is acquired first and released last leaves no trace.** Source: none: infrastructure -/
theorem Leads.session (hroom : held.length < limit) (h : Leads limit (a :: held) acts (a :: held)) :
    Leads limit held (.acquire a :: (acts ++ [.release a])) held :=
  .acquire hroom (h.trans leads_release)

/-! ## What the discipline says -/

/-- **The balance.** Source: none: infrastructure -/
theorem Leads.balance (h : Leads limit held acts held') (a : α) :
    held.count a + acts.count (.acquire a) = held'.count a + acts.count (.release a) := by
  induction acts generalizing held with
  | nil =>
      rw [leads_nil.mp h]
      rfl
  | cons x acts ih =>
      obtain ⟨mid, hx, hacts⟩ := leads_cons.mp h
      have hrest := ih hacts
      cases x with
      | acquire b =>
          obtain ⟨-, rfl⟩ := check_acquire.mp hx
          rw [List.count_cons_of_ne (by simp) (l := acts) (a := Action.release a)]
          by_cases hb : b = a
          · rw [hb, List.count_cons_self] at hrest ⊢
            omega
          · rw [List.count_cons_of_ne hb] at hrest
            rw [List.count_cons_of_ne (fun heq => hb (Action.acquire.inj heq))]
            exact hrest
      | use b =>
          obtain ⟨-, rfl⟩ := check_use.mp hx
          rw [List.count_cons_of_ne (by simp), List.count_cons_of_ne (by simp)]
          exact hrest
      | release b =>
          obtain ⟨hmem, rfl⟩ := check_release.mp hx
          rw [List.count_cons_of_ne (by simp) (l := acts) (a := Action.acquire a)]
          by_cases hb : b = a
          · have hpos : 0 < held.count a := List.count_pos_iff.mpr (hb ▸ hmem)
            rw [hb, List.count_erase_self] at hrest
            rw [hb, List.count_cons_self]
            omega
          · rw [List.count_erase_of_ne (Ne.symm hb)] at hrest
            rw [List.count_cons_of_ne (fun heq => hb (Action.release.inj heq))]
            exact hrest

/-- **What is used has been acquired, and not been released since.** Source: none: infrastructure -/
theorem Leads.used_held (h : Leads limit [] acts held') {before after : List (Action α)}
    (hsplit : acts = before ++ .use a :: after) :
    before.count (.release a) < before.count (.acquire a) := by
  rw [hsplit] at h
  obtain ⟨mid, hbefore, hrest⟩ := leads_append.mp h
  obtain ⟨next, huse, -⟩ := leads_cons.mp hrest
  have hpos : 0 < mid.count a := List.count_pos_iff.mpr (check_use.mp huse).1
  have hbalance := hbefore.balance a
  rw [List.count_nil] at hbalance
  omega

/-- **The bound holds all the time.** Source: none: infrastructure -/
theorem Leads.within (h : Leads limit held acts held') (hheld : held.length ≤ limit) :
    held'.length ≤ limit := by
  induction acts generalizing held with
  | nil =>
      rw [← leads_nil.mp h]
      exact hheld
  | cons x acts ih =>
      obtain ⟨mid, hx, hacts⟩ := leads_cons.mp h
      refine ih hacts ?_
      cases x with
      | acquire b =>
          obtain ⟨hroom, rfl⟩ := check_acquire.mp hx
          exact hroom
      | use b =>
          obtain ⟨-, rfl⟩ := check_use.mp hx
          exact hheld
      | release b =>
          obtain ⟨-, rfl⟩ := check_release.mp hx
          exact Nat.le_trans List.length_erase_le hheld

end Descriptors
