import Mathlib.Algebra.BigOperators.Group.Finset.Basic
import Mathlib.Algebra.Order.BigOperators.Group.Multiset
import Mathlib.Algebra.Order.BigOperators.Group.Finset
import Mathlib.Algebra.BigOperators.Group.Finset.Piecewise
import Hamstercam.Lib.Descriptors

/-!
# Several parties with descriptors

What several parties do, as one list in the order in which it happens, each action with its party.

* `ofParty i zs` — what the party `i` does.
* `leads_parties` — parties that keep the discipline of descriptors each for itself keep it together, however
  they are interleaved; the bounds add up.
* `Fresh acts` — no descriptor is given that has not been released since. `Leads.own` — then no other party
  holds what a party uses or releases.
-/

namespace Descriptors

variable {ι α β : Type} [DecidableEq ι] [DecidableEq α]

/-! ## What a party does -/

/-- What the party `i` does. Source: none: infrastructure -/
def ofParty (i : ι) (zs : List (ι × β)) : List β :=
  zs.filterMap fun z => if z.1 = i then some z.2 else none

section ofParty

variable {i j : ι} {y : β} {zs : List (ι × β)}

/-- Source: none: infrastructure -/
@[simp] theorem ofParty_nil : ofParty i ([] : List (ι × β)) = [] := rfl

/-- Source: none: infrastructure -/
@[simp] theorem ofParty_cons_self : ofParty i ((i, y) :: zs) = y :: ofParty i zs :=
  List.filterMap_cons_some (if_pos rfl)

/-- Source: none: infrastructure -/
theorem ofParty_cons_ne (h : j ≠ i) : ofParty i ((j, y) :: zs) = ofParty i zs :=
  List.filterMap_cons_none (if_neg h)

/-- Source: none: infrastructure -/
@[simp] theorem ofParty_append (zs ws : List (ι × β)) :
    ofParty i (zs ++ ws) = ofParty i zs ++ ofParty i ws := List.filterMap_append

/-- Every action is that of one party. Source: none: infrastructure -/
theorem count_parties [Fintype ι] [DecidableEq β] (y : β) (zs : List (ι × β)) :
    (zs.map Prod.snd).count y = ∑ i, (ofParty i zs).count y := by
  induction zs with
  | nil => simp
  | cons z zs ih =>
      obtain ⟨j, x⟩ := z
      have hone : ∀ i, (ofParty i ((j, x) :: zs)).count y =
          (if j = i then [x].count y else 0) + (ofParty i zs).count y := by
        intro i
        by_cases h : j = i
        · subst h
          rw [ofParty_cons_self, if_pos rfl, ← List.singleton_append, List.count_append]
        · rw [ofParty_cons_ne h, if_neg h, Nat.zero_add]
      rw [List.map_cons, ← List.singleton_append, List.count_append, ih]
      simp only [hone, Finset.sum_add_distrib, Finset.sum_ite_eq, Finset.mem_univ, if_true]

end ofParty

/-! ## The discipline -/

section parties

variable [Fintype ι] {limit : ι → Nat} {held held' : ι → List α} {all : List α}
  {zs : List (ι × Action α)}

/-- What all parties hold. Source: none: infrastructure -/
def together (held : ι → List α) : Multiset α := ∑ i, (held i : Multiset α)

omit [DecidableEq α] in
/-- The share of one party. Source: none: infrastructure -/
theorem together_update (held : ι → List α) (j : ι) (mid : List α) :
    together (Function.update held j mid) = mid + ∑ i ∈ Finset.univ.erase j, (held i : Multiset α) := by
  rw [together, ← Finset.add_sum_erase _ _ (Finset.mem_univ j), Function.update_self]
  congr 1
  refine Finset.sum_congr rfl fun i hi => ?_
  rw [Function.update_of_ne (Finset.ne_of_mem_erase hi)]

/-- **One action of one party.** Source: none: infrastructure -/
theorem check_together {j : ι} {x : Action α} {mid : List α} (h : check (limit j) (held j) x = some mid)
    (hwithin : ∀ i, (held i).length ≤ limit i) (hall : (all : Multiset α) = together held) :
    ∃ all', check (∑ i, limit i) all x = some all' ∧
      (all' : Multiset α) = together (Function.update held j mid) := by
  have hshare := together_update held j (held j)
  rw [Function.update_eq_self, ← hall] at hshare
  have hmem : ∀ a ∈ held j, a ∈ all := by
    intro a ha
    rw [← Multiset.mem_coe, hshare]
    exact Multiset.mem_add.mpr (.inl ha)
  rw [together_update]
  cases x with
  | acquire a =>
      obtain ⟨hroom, rfl⟩ := check_acquire.mp h
      refine ⟨a :: all, check_acquire.mpr ⟨?_, rfl⟩, ?_⟩
      · have hlength : all.length = ∑ i, (held i).length := by
          rw [← Multiset.coe_card, hall, together, Multiset.card_sum]
          rfl
        rw [hlength]
        exact Finset.sum_lt_sum (fun i _ => hwithin i) ⟨j, Finset.mem_univ j, hroom⟩
      · rw [← Multiset.cons_coe, hshare, ← Multiset.cons_coe, Multiset.cons_add]
  | use a =>
      obtain ⟨ha, rfl⟩ := check_use.mp h
      exact ⟨all, check_use.mpr ⟨hmem a ha, rfl⟩, hshare⟩
  | release a =>
      obtain ⟨ha, rfl⟩ := check_release.mp h
      refine ⟨all.erase a, check_release.mpr ⟨hmem a ha, rfl⟩, ?_⟩
      rw [← Multiset.coe_erase, hshare, ← Multiset.coe_erase,
        Multiset.erase_add_left_pos _ (Multiset.mem_coe.mpr ha)]

/-- **Parties that keep the discipline each for itself keep it together**, however they are interleaved.
Source: none: infrastructure -/
theorem leads_parties (h : ∀ i, Leads (limit i) (held i) (ofParty i zs) (held' i))
    (hwithin : ∀ i, (held i).length ≤ limit i) (hall : (all : Multiset α) = together held) :
    ∃ all', Leads (∑ i, limit i) all (zs.map Prod.snd) all' ∧ (all' : Multiset α) = together held' := by
  induction zs generalizing held all with
  | nil =>
      have hsame : held = held' := funext fun i => leads_nil.mp (h i)
      exact ⟨all, leads_nil.mpr rfl, hsame ▸ hall⟩
  | cons z zs ih =>
      obtain ⟨j, x⟩ := z
      have hj := h j
      rw [ofParty_cons_self] at hj
      obtain ⟨mid, hx, hrest⟩ := leads_cons.mp hj
      obtain ⟨next, hnext, hsum⟩ := check_together hx hwithin hall
      have hone : Leads (limit j) (held j) [x] mid := leads_cons.mpr ⟨mid, hx, leads_nil.mpr rfl⟩
      have hlater : ∀ i, Leads (limit i) (Function.update held j mid i) (ofParty i zs) (held' i) := by
        intro i
        by_cases hi : j = i
        · subst hi
          rw [Function.update_self]
          exact hrest
        · rw [Function.update_of_ne (Ne.symm hi), ← ofParty_cons_ne hi]
          exact h i
      have hroom : ∀ i, (Function.update held j mid i).length ≤ limit i := by
        intro i
        by_cases hi : j = i
        · subst hi
          rw [Function.update_self]
          exact hone.within (hwithin j)
        · rw [Function.update_of_ne (Ne.symm hi)]
          exact hwithin i
      obtain ⟨all', hleads, hend⟩ := ih hlater hroom hsum
      exact ⟨all', leads_cons.mpr ⟨next, hnext, hleads⟩, hend⟩

end parties

/-! ## No party touches what another one holds -/

/-- No descriptor is given that has not been released since. Source: none: infrastructure -/
def Fresh (acts : List (Action α)) : Prop :=
  ∀ before a after, acts = before ++ .acquire a :: after →
    before.count (.acquire a) ≤ before.count (.release a)

/-- Source: none: infrastructure -/
theorem Fresh.left {acts acts' : List (Action α)} (h : Fresh (acts ++ acts')) : Fresh acts := by
  intro before a after hsplit
  refine h before a (after ++ acts') ?_
  rw [hsplit, List.append_assoc, List.cons_append]

/-- Nobody holds a descriptor twice. Source: none: infrastructure -/
theorem Fresh.count_le {acts : List (Action α)} (h : Fresh acts) (a : α) :
    acts.count (.acquire a) ≤ acts.count (.release a) + 1 := by
  induction acts using List.reverseRecOn with
  | nil => exact Nat.zero_le _
  | append_singleton acts x ih =>
      have hbefore := ih h.left
      rw [List.count_append, List.count_append]
      by_cases hx : x = .acquire a
      · subst hx
        have hnone := h acts a [] rfl
        rw [List.count_singleton_self]
        omega
      · have hzero : [x].count (.acquire a) = 0 := List.count_singleton.trans (if_neg (by simpa using hx))
        omega

section own

variable [Fintype ι] {limit : ι → Nat} {held' : ι → List α} {zs before after : List (ι × Action α)}
  {i j : ι} {x : Action α} {a : α}

/-- A descriptor that is used or released is held. Source: none: infrastructure -/
theorem Leads.touched_held {limit : Nat} {acts after : List (Action α)} {end' : List α}
    (h : Leads limit [] (acts ++ x :: after) end') (hx : x = .use a ∨ x = .release a) :
    acts.count (.release a) < acts.count (.acquire a) := by
  obtain ⟨mid, hbefore, hrest⟩ := leads_append.mp h
  obtain ⟨next, htouch, -⟩ := leads_cons.mp hrest
  have hmem : a ∈ mid := by
    rcases hx with rfl | rfl
    · exact (check_use.mp htouch).1
    · exact (check_release.mp htouch).1
  have hpos : 0 < mid.count a := List.count_pos_iff.mpr hmem
  have hbalance := hbefore.balance a
  rw [List.count_nil] at hbalance
  omega

/-- **No other party holds what a party uses or releases**, if every descriptor that is given is fresh.
Source: none: infrastructure -/
theorem Leads.own (h : ∀ i, Leads (limit i) [] (ofParty i zs) (held' i))
    (hfresh : Fresh (zs.map Prod.snd)) (hsplit : zs = before ++ (i, x) :: after)
    (hx : x = .use a ∨ x = .release a) (hji : j ≠ i) :
    (ofParty j before).count (.acquire a) = (ofParty j before).count (.release a) := by
  subst hsplit
  have hi := h i
  rw [ofParty_append, ofParty_cons_self] at hi
  have hheld := hi.touched_held hx
  have hmore : ∀ k, (ofParty k before).count (.release a) ≤ (ofParty k before).count (.acquire a) := by
    intro k
    have hk := h k
    rw [ofParty_append] at hk
    obtain ⟨mid, hbefore, -⟩ := leads_append.mp hk
    have hbalance := hbefore.balance a
    rw [List.count_nil] at hbalance
    omega
  rw [List.map_append] at hfresh
  have htotal := hfresh.left.count_le a
  rw [count_parties, count_parties] at htotal
  -- the shares of `i` and `j` are parts of all that is held, and that is one at most
  have hpair : ∑ k ∈ ({i, j} : Finset ι), ((ofParty k before).count (.acquire a) -
      (ofParty k before).count (.release a)) ≤ ∑ k, ((ofParty k before).count (.acquire a) -
      (ofParty k before).count (.release a)) :=
    Finset.sum_le_sum_of_subset (Finset.subset_univ _)
  rw [Finset.sum_pair (Ne.symm hji), Finset.sum_tsub_distrib _ fun k _ => hmore k] at hpair
  have hj := hmore j
  omega

end own

end Descriptors
