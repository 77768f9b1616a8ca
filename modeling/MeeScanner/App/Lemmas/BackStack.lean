import MeeScanner.App.Lemmas.Step

/-!
This module contains the shape of the back stack. System back looks at the stack before it pops,
the pushes and the pop of `App` do not.
-/

open Transition

namespace MeeScanner
namespace App

def State.routes (s : State) : List Route := s.backStack.map (·.route)

def BackStackShape (s : State) : Prop :=
  s.routes = [.home] ∨ s.routes = [.home, .result] ∨ s.routes = [.home, .history]

instance : DecidablePred BackStackShape := fun s =>
  inferInstanceAs (Decidable (s.routes = [.home] ∨ s.routes = [.home, .result]
    ∨ s.routes = [.home, .history]))

-- Home alone is on the stack at each push, and it is not alone at each click on back.
def NavigatesInTurn (s : State) : Event → Prop
  | .scanDelivered .. => s.routes = [.home]
  | .historyClick _ => s.routes = [.home]
  | .backClick _ => s.routes ≠ [.home]
  | _ => True

section

variable {s s' : State} {e : Event}

@[simp]
theorem routes_navigate (route : Route) : (s.navigate route).routes = s.routes ++ [route] := by
  simp [State.routes, State.navigate]

@[simp]
theorem routes_onScanResult (result : ScanResult) (analyzerType : AnalyzerType)
    : (s.onScanResult result analyzerType).routes = s.routes ++ [.result] := by
  simp [State.routes, State.onScanResult, State.navigate]

@[simp]
theorem routes_popBackStack : s.popBackStack.routes = s.routes.dropLast := by
  simp [State.routes, State.popBackStack, List.map_dropLast]

theorem BackStackShape.ne_nil (h : BackStackShape s) : s.backStack ≠ [] := by
  intro hempty
  simp [BackStackShape, State.routes, hempty] at h

theorem BackStackShape.popped (h : BackStackShape s) (hmany : s.routes ≠ [.home])
    : BackStackShape s.popBackStack := by
  rcases h with h | h | h
  . contradiction
  . apply Or.inl
    simp [h]
  . apply Or.inl
    simp [h]

theorem BackStackShape.not_pushed (h : BackStackShape s) (hmany : s.routes ≠ [.home])
    {route : Route} (hpush : s'.routes = s.routes ++ [route]) : ¬ BackStackShape s' := by
  unfold BackStackShape
  rw [hpush]
  rcases h with h | h | h
  . contradiction
  . simp [h]
  . simp [h]

theorem BackStackShape.step (h : BackStackShape s) (hguard : NavigatesInTurn s e)
    (hs : Step s e s') : BackStackShape s' := by
  cases hs with
  | scanDelivered result analyzerType =>
    apply Or.inr (Or.inl ?_)
    rw [routes_onScanResult, hguard]
    rfl
  | historyClick =>
    apply Or.inr (Or.inr ?_)
    rw [routes_navigate, hguard]
    rfl
  | backClick => apply h.popped hguard
  | systemBack hmany =>
    apply h.popped
    intro hhome
    have hlength : s.routes.length = s.backStack.length := by simp [State.routes]
    rw [hhome] at hlength
    simp only [List.length_singleton] at hlength
    omega
  | restarted hempty => exact absurd hempty h.ne_nil
  | _ => exact h

theorem BackStackShape.step_bad (h : BackStackShape s) (hguard : ¬ NavigatesInTurn s e)
    (hs : Step s e s') : ¬ BackStackShape s' := by
  cases hs with
  | scanDelivered result analyzerType => apply h.not_pushed hguard (routes_onScanResult _ _)
  | historyClick => apply h.not_pushed hguard (routes_navigate _)
  | backClick =>
    simp only [NavigatesInTurn, not_not] at hguard
    simp [BackStackShape, hguard]
  | _ => exact absurd trivial hguard

end

theorem backStackShape_iff (es : List Event)
    : Always step BackStackShape init es ↔ Meets step NavigatesInTurn init es := by
  apply always_iff_meets (I := BackStackShape)
  . intro s h
    exact h
  . intro s e s' h hguard hs
    apply h.step hguard (Step.of_step hs)
  . intro s e s' h hguard hs
    apply h.step_bad hguard (Step.of_step hs)
  . apply Or.inl
    rfl

-- A second click on back while History is still on display pops Home.
def doubleBack : List Event :=
  let home : Composition := { entry := ⟨0, .home⟩ }
  let history : Composition := { entry := ⟨1, .history⟩ }
  [
    .enter ⟨0, .home⟩, .historyClick home, .enter ⟨1, .history⟩, .leave home, .backClick history,
    .backClick history
  ]

theorem doubleBack_empty : ¬ Always step BackStackShape init doubleBack := by
  apply not_always_of_any
  decide

end App
end MeeScanner
