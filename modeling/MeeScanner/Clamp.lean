import Mathlib.Order.Interval.Set.LinearOrder
import Mathlib.Data.Set.Prod
import Mathlib.Order.MinMax

/-!
This module contains clamping in a linear order: clamping both ends of an interval into a range
intersects the interval with the range. In two dimensions this is clipping a box to a window.
-/

namespace Clamp

variable {α : Type} [LinearOrder α] {lo hi : α}

def clamp (lo hi x : α) : α := max lo (min hi x)

theorem le_clamp (lo hi x : α) : lo ≤ clamp lo hi x := by
  apply le_max_left

theorem clamp_le (h : lo ≤ hi) (x : α) : clamp lo hi x ≤ hi := by
  apply max_le h (min_le_left hi x)

theorem clamp_le_iff {p : α} (hlo : lo ≤ p) (hhi : p < hi) (x : α)
    : clamp lo hi x ≤ p ↔ x ≤ p := by
  unfold clamp
  rw [max_le_iff, min_le_iff]
  simp [hlo, not_le.mpr hhi]

theorem lt_clamp_iff {p : α} (hlo : lo ≤ p) (hhi : p < hi) (x : α)
    : p < clamp lo hi x ↔ p < x := by
  unfold clamp
  rw [lt_max_iff, lt_min_iff]
  simp [hhi, not_lt.mpr hlo]

theorem Ico_clamp (h : lo ≤ hi) (a b : α)
    : Set.Ico (clamp lo hi a) (clamp lo hi b) = Set.Ico lo hi ∩ Set.Ico a b := by
  ext p
  simp only [Set.mem_inter_iff, Set.mem_Ico]
  constructor
  . intro hp
    have hlo : lo ≤ p := le_trans (le_clamp lo hi a) hp.1
    have hhi : p < hi := lt_of_lt_of_le hp.2 (clamp_le h b)
    rw [clamp_le_iff hlo hhi, lt_clamp_iff hlo hhi] at hp
    exact ⟨⟨hlo, hhi⟩, hp⟩
  . intro hp
    rw [clamp_le_iff hp.1.1 hp.1.2, lt_clamp_iff hp.1.1 hp.1.2]
    exact hp.2

theorem clip_eq_inter {β : Type} [LinearOrder β] {lo' hi' : β} (h : lo ≤ hi) (h' : lo' ≤ hi')
    (a b : α) (a' b' : β)
    : Set.Ico (clamp lo hi a) (clamp lo hi b) ×ˢ Set.Ico (clamp lo' hi' a') (clamp lo' hi' b')
        =
      (Set.Ico lo hi ×ˢ Set.Ico lo' hi') ∩ (Set.Ico a b ×ˢ Set.Ico a' b') := by
  rw [Ico_clamp h, Ico_clamp h', Set.prod_inter_prod]

end Clamp
