import Mathlib.Data.List.Basic
import Mathlib.Data.List.Pairwise

/-!
This module contains the choice among guarded branches: the first branch whose guard holds is taken,
and `otherwise` is taken if there is none. Where no two guards hold of the same input, the order of
the branches does not matter.
-/

namespace FirstMatch

structure Branch (α β : Type _) where
  guard : α → Bool
  body : α → β

variable {α β : Type _}

def choose (branches : List (Branch α β)) (otherwise : α → β) (x : α) : β :=
  match branches with
  | [] => otherwise x
  | b :: branches => if b.guard x then b.body x else choose branches otherwise x

def Exclusive (branches : List (Branch α β)) : Prop :=
  branches.Pairwise fun b c => ∀ x, ¬(b.guard x = true ∧ c.guard x = true)

theorem Exclusive.perm {branches branches' : List (Branch α β)} (hexcl : Exclusive branches)
    (hperm : branches.Perm branches')
    : Exclusive branches' := by
  refine (hperm.pairwise_iff ?_).mp hexcl
  intro b c h x hboth
  exact h x hboth.symm

theorem choose_of_forall_not {branches : List (Branch α β)} (otherwise : α → β) {x : α}
    (h : ∀ b ∈ branches, b.guard x = false)
    : choose branches otherwise x = otherwise x := by
  induction branches with
  | nil => rfl
  | cons b branches ih =>
    have hb := h b List.mem_cons_self
    have htail := fun c hc => h c (List.mem_cons_of_mem b hc)
    simp only [choose, hb, Bool.false_eq_true, if_false]
    exact ih htail

theorem choose_of_mem {branches : List (Branch α β)} (otherwise : α → β) {b : Branch α β} {x : α}
    (hexcl : Exclusive branches) (hmem : b ∈ branches) (hguard : b.guard x = true)
    : choose branches otherwise x = b.body x := by
  induction branches with
  | nil => contradiction
  | cons c branches ih =>
    have ⟨hc, htail⟩ := List.pairwise_cons.mp hexcl
    rcases List.mem_cons.mp hmem with rfl | hmem
    . simp only [choose, hguard, if_true]
    . have hskip : c.guard x = false := by
        have := hc b hmem x
        grind
      simp only [choose, hskip, Bool.false_eq_true, if_false]
      exact ih htail hmem

/--
The branches of an exclusive choice can be put in any order.
-/
theorem choose_perm {branches branches' : List (Branch α β)} (otherwise : α → β)
    (hexcl : Exclusive branches) (hperm : branches.Perm branches')
    : choose branches otherwise = choose branches' otherwise := by
  funext x
  by_cases h : ∃ b ∈ branches, b.guard x = true
  . rcases h with ⟨b, hmem, hguard⟩
    rw [choose_of_mem otherwise hexcl hmem hguard]
    rw [choose_of_mem otherwise (hexcl.perm hperm) (hperm.mem_iff.mp hmem) hguard]
  . have hnone : ∀ b ∈ branches, b.guard x = false := by
      intro b hb
      by_contra hguard
      exact h ⟨b, hb, by simpa using hguard⟩
    rw [choose_of_forall_not otherwise hnone]
    rw [choose_of_forall_not otherwise fun b hb => hnone b (hperm.mem_iff.mpr hb)]

end FirstMatch
