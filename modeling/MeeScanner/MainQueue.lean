import Mathlib.Data.List.Nodup
import Mathlib.Data.List.TakeWhile

/-!
This module contains a first-in first-out queue that holds each of its jobs at most once: scheduling
a job that waits already changes nothing. `Ahead a b` says that `a` waits and runs before `b` does.

The jobs of a `StateFlow` are the collectors of its values, `write` schedules one where the value
changes.
-/

namespace MainQueue

variable {κ α : Type} [DecidableEq κ] [DecidableEq α]

def schedule (queue : List κ) (k : κ) : List κ := if k ∈ queue then queue else queue ++ [k]

def write (old new : α) (queue : List κ) (k : κ) : List κ :=
  if old = new then queue else schedule queue k

def Ahead (a b : κ) (queue : List κ) : Prop := a ∈ queue.takeWhile (· ≠ b)

instance (a b : κ) : DecidablePred (Ahead a b) := fun queue =>
  inferInstanceAs (Decidable (a ∈ queue.takeWhile (· ≠ b)))

variable {a b k : κ} {queue : List κ}

@[simp]
theorem mem_schedule : a ∈ schedule queue k ↔ a ∈ queue ∨ a = k := by
  unfold schedule
  split
  . next hmem =>
    constructor
    . intro h
      exact Or.inl h
    . intro h
      rcases h with h | rfl
      . exact h
      . exact hmem
  . simp

theorem nodup_schedule (h : queue.Nodup) (k : κ) : (schedule queue k).Nodup := by
  unfold schedule
  split
  . exact h
  . next hmem =>
    rw [← List.concat_eq_append]
    apply h.concat hmem

theorem ahead_cons : Ahead a b (k :: queue) ↔ k ≠ b ∧ (a = k ∨ Ahead a b queue) := by
  unfold Ahead
  rw [List.takeWhile_cons]
  split
  . next hk =>
    rw [decide_eq_true_eq] at hk
    simp [hk]
  . next hk =>
    simp only [decide_eq_true_eq] at hk
    simp [hk]

theorem not_ahead_head : ¬ Ahead a b (b :: queue) := by
  simp [ahead_cons]

theorem Ahead.mem (h : Ahead a b queue) : a ∈ queue := by
  apply List.takeWhile_subset _ h

theorem head_of_not_ahead (hab : a ≠ b) (hall : ∀ k ∈ queue, k = a ∨ k = b) (hmem : b ∈ queue)
    (h : ¬ Ahead a b queue) : ∃ rest, queue = b :: rest := by
  cases queue with
  | nil => contradiction
  | cons k rest =>
    rw [List.forall_mem_cons] at hall
    rcases hall.1 with rfl | rfl
    . exact absurd (ahead_cons.mpr ⟨hab, Or.inl rfl⟩) h
    . exact ⟨rest, rfl⟩

theorem Ahead.append (h : Ahead a b queue) (queue' : List κ) : Ahead a b (queue ++ queue') := by
  induction queue with
  | nil => contradiction
  | cons k queue ih =>
    rw [ahead_cons] at h
    rw [List.cons_append, ahead_cons]
    refine ⟨h.1, ?_⟩
    rcases h.2 with h | h
    . exact Or.inl h
    . exact Or.inr (ih h)

theorem Ahead.schedule (h : Ahead a b queue) (k : κ) : Ahead a b (schedule queue k) := by
  unfold MainQueue.schedule
  split
  . exact h
  . apply h.append

theorem ahead_of_not_mem (ha : a ∈ queue) (hb : b ∉ queue) : Ahead a b queue := by
  unfold Ahead
  rw [List.takeWhile_eq_self_iff.mpr]
  . exact ha
  . intro x hx
    rw [decide_eq_true_eq]
    intro hcontra
    subst hcontra
    contradiction

theorem ahead_schedule (ha : a ∈ queue) (hb : b ∉ queue) : Ahead a b (schedule queue b) := by
  apply (ahead_of_not_mem ha hb).schedule

section

variable {old new : α}

theorem mem_write : a ∈ write old new queue k ↔ a ∈ queue ∨ (old ≠ new ∧ a = k) := by
  unfold write
  split
  . next heq => simp [heq]
  . next hne => simp [hne]

theorem not_mem_write (h : a ∉ write old new queue k) : a ∉ queue := by
  intro hmem
  apply h
  rw [mem_write]
  exact Or.inl hmem

-- A flow whose collector does not wait after a write had this value before.
theorem eq_of_not_mem_write (h : k ∉ write old new queue k) : old = new := by
  by_contra hne
  apply h
  rw [mem_write]
  exact Or.inr ⟨hne, rfl⟩

theorem write_cons (old new : α) (a : κ) (queue : List κ) (k : κ)
    : ∃ rest, write old new (a :: queue) k = a :: rest := by
  unfold write schedule
  split
  . exact ⟨queue, rfl⟩
  . split
    . exact ⟨queue, rfl⟩
    . exact ⟨queue ++ [k], rfl⟩

theorem nodup_write (h : queue.Nodup) (k : κ) : (write old new queue k).Nodup := by
  unfold write
  split
  . exact h
  . apply nodup_schedule h

theorem Ahead.write (h : Ahead a b queue) (k : κ) : Ahead a b (write old new queue k) := by
  unfold MainQueue.write
  split
  . exact h
  . apply h.schedule

theorem ahead_write (hne : old ≠ new) (ha : a ∈ queue) (hb : b ∉ queue)
    : Ahead a b (write old new queue b) := by
  unfold write
  rw [if_neg hne]
  apply ahead_schedule ha hb

end

end MainQueue
