import Mathlib.Data.Option.Basic

/-!
This module contains the part of the Compose runtime that side effects depend on. The slot of a
`LaunchedEffect(key) { block }` call remembers the key of the composition before. A composition with
another key cancels the block launched last and launches a new one, which runs later with the values
it captured (`scheduled` until then). Leaving the composition cancels it as well.
-/

namespace Compose

structure LaunchedEffect (κ π : Type) where
  key : Option κ
  scheduled : Option π
  deriving DecidableEq, Repr

namespace LaunchedEffect

variable {κ π : Type}

def absent : LaunchedEffect κ π := ⟨none, none⟩

def compose [DecidableEq κ] (l : LaunchedEffect κ π) (key : κ) (captured : π)
    : LaunchedEffect κ π :=
  if l.key = some key then l else ⟨some key, some captured⟩

def ran (l : LaunchedEffect κ π) : LaunchedEffect κ π := { l with scheduled := none }

@[simp]
theorem key_absent : (absent : LaunchedEffect κ π).key = none := by
  rfl

@[simp]
theorem scheduled_absent : (absent : LaunchedEffect κ π).scheduled = none := by
  rfl

@[simp]
theorem key_ran (l : LaunchedEffect κ π) : l.ran.key = l.key := by
  rfl

@[simp]
theorem scheduled_ran (l : LaunchedEffect κ π) : l.ran.scheduled = none := by
  rfl

-- The same effect with another view of what its block captured.
def map {ρ : Type} (f : π → ρ) (l : LaunchedEffect κ π) : LaunchedEffect κ ρ :=
  ⟨l.key, l.scheduled.map f⟩

@[simp]
theorem map_absent {ρ : Type} (f : π → ρ)
    : (absent : LaunchedEffect κ π).map f = absent := by
  rfl

@[simp]
theorem map_ran {ρ : Type} (f : π → ρ) (l : LaunchedEffect κ π) : l.ran.map f = (l.map f).ran := by
  rfl

variable [DecidableEq κ]

@[simp]
theorem map_compose {ρ : Type} (f : π → ρ) (l : LaunchedEffect κ π) (key : κ) (captured : π)
    : (l.compose key captured).map f = (l.map f).compose key (f captured) := by
  unfold compose map
  split <;> simp_all

@[simp]
theorem key_compose (l : LaunchedEffect κ π) (key : κ) (captured : π)
    : (l.compose key captured).key = some key := by
  unfold compose
  split
  . assumption
  . rfl

theorem compose_same {l : LaunchedEffect κ π} {key : κ} (h : l.key = some key) (captured : π)
    : l.compose key captured = l := by
  simp [compose, h]

theorem compose_other {l : LaunchedEffect κ π} {key : κ} (h : l.key ≠ some key) (captured : π)
    : l.compose key captured = ⟨some key, some captured⟩ := by
  simp [compose, h]

theorem of_scheduled_compose {l : LaunchedEffect κ π} {key : κ} {captured launch : π}
    (h : (l.compose key captured).scheduled = some launch)
    : (l.key = some key ∧ l.scheduled = some launch) ∨ launch = captured := by
  by_cases hkey : l.key = some key
  . rw [compose_same hkey] at h
    exact Or.inl ⟨hkey, h⟩
  . rw [compose_other hkey] at h
    injection h with h
    exact Or.inr h.symm

/--
If what is scheduled has captured the key, it still has after a composition that captures its own.
-/
theorem captured_compose {l : LaunchedEffect κ π} {f : π → κ}
    (h : ∀ launch, l.scheduled = some launch → l.key = some (f launch)) (captured : π)
    : ∀ launch, (l.compose (f captured) captured).scheduled = some launch →
        (l.compose (f captured) captured).key = some (f launch) := by
  intro launch hlaunch
  rw [key_compose]
  rcases of_scheduled_compose hlaunch with ⟨hkey, hold⟩ | rfl
  . rw [← hkey]
    exact h launch hold
  . rfl

theorem compose_eq_self_iff {l : LaunchedEffect κ π} {key : κ} {captured : π}
    : l.compose key captured = l ↔ l.key = some key := by
  constructor
  . intro h
    rw [← h]
    simp
  . intro h
    exact compose_same h captured

/-
What is left to do until the effect of a composition with this key has run. The key is `none` where
the composition does not make the call.
-/
def due (key : Option κ) (l : LaunchedEffect κ π) : Nat :=
  (if l.scheduled.isSome then 1 else 0) + if l.key = key then 0 else 2

theorem due_ran {l : LaunchedEffect κ π} {launch : π} (h : l.scheduled = some launch)
    (key : Option κ) : l.ran.due key < l.due key := by
  unfold due
  rw [scheduled_ran, key_ran, h]
  simp

theorem due_le (key key' : Option κ) (l : LaunchedEffect κ π) : l.due key ≤ l.due key' + 2 := by
  unfold due
  split <;> split <;> omega

theorem due_bound (key : Option κ) (l : LaunchedEffect κ π) : l.due key ≤ 3 := by
  unfold due
  split <;> split <;> omega

theorem due_compose (l : LaunchedEffect κ π) (key : κ) (captured : π)
    : l.compose key captured = l ∨ (l.compose key captured).due (some key) < l.due (some key) := by
  by_cases h : l.key = some key
  . exact Or.inl (compose_same h captured)
  . apply Or.inr
    rw [compose_other h]
    simp only [due, Option.isSome_some, ↓reduceIte, h]
    omega

theorem due_absent (l : LaunchedEffect κ π)
    : absent = l ∨ (absent : LaunchedEffect κ π).due none < l.due none := by
  cases l with
  | mk key scheduled => cases key <;> cases scheduled <;> simp [due, absent]

end LaunchedEffect
end Compose
