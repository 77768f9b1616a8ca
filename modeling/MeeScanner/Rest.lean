import MeeScanner.Reaches

/-!
This module contains what a system does on its own: the runs of some of its events, those that no
user and nothing around it has to cause. Where a measure decreases with every such event that
changes anything, whatever their order only few of them do, and the system can come to rest.
-/

namespace Transition

universe u v w

variable {σ : Type u} {ε : Type v}

def restrict (step : σ → ε → Option σ) (allowed : ε → Bool) (s : σ) (e : ε) : Option σ :=
  if allowed e then step s e else none

def Quiet (step : σ → ε → Option σ) (s : σ) : Prop := ∀ e s', step s e = some s' → s' = s

-- The number of steps of a run that change the state.
def changes [DecidableEq σ] (step : σ → ε → Option σ) (s : σ) : List ε → Nat
  | [] => 0
  | e :: es =>
    match step s e with
    | none => 0
    | some s' => (if s' = s then 0 else 1) + changes step s' es

section

variable {step : σ → ε → Option σ} {allowed : ε → Bool} {s s' : σ} {e : ε}

theorem restrict_eq_some_iff
    : restrict step allowed s e = some s' ↔ allowed e = true ∧ step s e = some s' := by
  simp [restrict]

theorem Quiet.eq (h : Quiet (restrict step allowed) s) (e : ε) (hallowed : allowed e = true)
    (hs : step s e = some s') : s' = s :=
  h e s' (restrict_eq_some_iff.mpr ⟨hallowed, hs⟩)

theorem Quiet.eq_none {β : Type w} (h : Quiet (restrict step allowed) s)
    (pending : σ → Option β) (e : ε) (hallowed : allowed e = true)
    (hrun : ∀ b, pending s = some b → ∃ s', step s e = some s' ∧ pending s' = none)
    : pending s = none := by
  cases hpending : pending s with
  | none => rfl
  | some b =>
    rcases hrun b hpending with ⟨s', hs', hnone⟩
    rw [h.eq e hallowed hs', hpending] at hnone
    contradiction

end

variable {step : σ → ε → Option σ} {measure : σ → Nat}

theorem changes_le [DecidableEq σ]
    (hstep : ∀ s e s', step s e = some s' → s' = s ∨ measure s' < measure s) (s : σ) (es : List ε)
    : changes step s es ≤ measure s := by
  induction es generalizing s with
  | nil => exact Nat.zero_le _
  | cons e es ih =>
    simp only [changes]
    split
    . exact Nat.zero_le _
    . next s' hs' =>
      have hrest := ih s'
      rcases hstep s e s' hs' with rfl | hlt
      . simpa using hrest
      . split <;> omega

theorem reaches_quiet (hstep : ∀ s e s', step s e = some s' → s' = s ∨ measure s' < measure s)
    (s : σ) : ∃ s', Reaches step s s' ∧ Quiet step s' := by
  have hcloser : ∀ s, True → ¬ Quiet step s →
      ∃ s', Reaches step s s' ∧ True ∧ measure s' < measure s := by
    intro s _ hloud
    simp only [Quiet, not_forall] at hloud
    rcases hloud with ⟨e, s', hs', hne⟩
    rcases hstep s e s' hs' with heq | hlt
    . exact absurd heq hne
    . exact ⟨s', Reaches.of_step hs', trivial, hlt⟩
  rcases reaches_of_closer measure hcloser trivial with ⟨s', hreaches, _, hquiet⟩
  exact ⟨s', hreaches, hquiet⟩

-- The rule for what comes to rest, `view` is a part of the state that no step changes.
theorem rests_of_measure [DecidableEq σ] {β : Type w} (view : σ → β)
    (hstep : ∀ s e s', step s e = some s' → s' = s ∨ measure s' < measure s)
    (hview : ∀ s e s', step s e = some s' → view s' = view s) {s s' : σ} {es : List ε}
    (hexec : exec step s es = some s')
    : changes step s es ≤ measure s
        ∧ ∃ t, Reaches step s' t ∧ Quiet step t ∧ view t = view s := by
  refine ⟨changes_le hstep s es, ?_⟩
  rcases reaches_quiet hstep s' with ⟨t, hreaches, hquiet⟩
  refine ⟨t, hreaches, hquiet, ?_⟩
  apply ((Reaches.of_exec es hexec).trans hreaches).inv (I := fun t => view t = view s)
  . intro t e t' ht hs
    rw [hview t e t' hs, ht]
  . rfl

-- The share of a copy that has yet to be collected in a measure.
def behind {α : Type u} [DecidableEq α] (weight : Nat) (copy value : α) : Nat :=
  if copy = value then 0 else weight

section

variable {α : Type u} [DecidableEq α] {weight : Nat} {copy value : α}

@[simp]
theorem behind_self : behind weight value value = 0 := by
  simp [behind]

theorem behind_of_ne (h : copy ≠ value) : behind weight copy value = weight := by
  simp [behind, h]

theorem behind_le : behind weight copy value ≤ weight := by
  unfold behind
  split <;> omega

end

end Transition
