import Mathlib.Data.List.Nodup
import Mathlib.Order.Lattice

/-!
This module contains the answers to an ordered query: the rows of a table, in descending order of a
key, where rows with equal keys may come in any order.
-/

namespace Query

section

variable {α β κ : Type} [LE κ]

structure OrderByDesc (key : α → κ) (table rows : List α) : Prop where
  perm : rows.Perm table
  sorted : rows.Pairwise fun a b => key b ≤ key a

variable {key : α → κ} {table rows : List α}

instance [DecidableEq α] [DecidableLE κ] : Decidable (OrderByDesc key table rows) :=
  decidable_of_iff (rows.Perm table ∧ rows.Pairwise fun a b => key b ≤ key a)
    ⟨fun h => ⟨h.1, h.2⟩, fun h => ⟨h.perm, h.sorted⟩⟩

theorem OrderByDesc.filter (h : OrderByDesc key table rows) (p : α → Bool)
    : OrderByDesc key (table.filter p) (rows.filter p) := by
  constructor
  . apply h.perm.filter
  . apply h.sorted.filter

theorem OrderByDesc.map (h : OrderByDesc key table rows) {f : α → β} {key' : β → κ}
    (hkey : ∀ a, key' (f a) = key a) : OrderByDesc key' (table.map f) (rows.map f) := by
  constructor
  . apply h.perm.map
  . rw [List.pairwise_map]
    apply h.sorted.imp
    intro a b hle
    rw [hkey, hkey]
    exact hle

theorem OrderByDesc.of_perm (h : OrderByDesc key table rows) {table' : List α}
    (hperm : table.Perm table') : OrderByDesc key table' rows := by
  constructor
  . apply h.perm.trans hperm
  . exact h.sorted

end

variable {α κ : Type} [PartialOrder κ] {key : α → κ} {table rows rows' : List α}

theorem OrderByDesc.unique (h : OrderByDesc key table rows) (h' : OrderByDesc key table rows')
    (hkeys : (table.map key).Nodup) : rows = rows' := by
  apply List.Perm.eq_of_pairwise _ h.sorted h'.sorted (h.perm.trans h'.perm.symm)
  intro a b ha hb hab hba
  apply List.inj_on_of_nodup_map hkeys
  . apply h.perm.mem_iff.mp ha
  . apply h'.perm.mem_iff.mp hb
  . apply le_antisymm hba hab

theorem exists_orderByDesc {α κ : Type} [LinearOrder κ] (key : α → κ) (table : List α)
    : ∃ rows, OrderByDesc key table rows := by
  let le (a b : α) : Bool := key b ≤ key a
  have htrans : ∀ a b c : α, le a b = true → le b c = true → le a c = true := by
    intro a b c hab hbc
    apply decide_eq_true
    exact le_trans (of_decide_eq_true hbc) (of_decide_eq_true hab)
  have htotal : ∀ a b : α, (le a b || le b a) = true := by
    intro a b
    rw [Bool.or_eq_true]
    rcases le_total (key b) (key a) with hle | hle
    . exact Or.inl (decide_eq_true hle)
    . exact Or.inr (decide_eq_true hle)
  refine ⟨table.mergeSort le, List.mergeSort_perm _ _, ?_⟩
  exact (List.pairwise_mergeSort htrans htotal table).imp of_decide_eq_true

end Query
