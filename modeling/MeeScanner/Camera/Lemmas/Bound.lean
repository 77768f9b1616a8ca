import MeeScanner.Camera.Lemmas.Wedge

/-!
This module contains what is bound to the camera. Where the composition is up to date, the bound
analyzer is the one of the selected tab, and the camera is dark only after a QR code was found.
-/

open Compose Transition

namespace MeeScanner
namespace Camera

def BoundAgrees (s : State) : Prop :=
  s.Settled → s.hasCameraPermission = true →
    (∀ binding, s.bound = some binding →
      binding.launch.analyzerType = HomeViewModel.analyzerOfTab s.selectedTab
        ∧ binding.launch.triggerCapture = s.homeViewModel.triggerCapture)
      ∧ (s.bound = none → ∃ scan ∈ s.scans, scan.result.isQr = true)

structure BoundKept (s : State) : Prop where
  effects : EffectsKeyed s
  tab : s.homeViewModel.selectedAnalyzer = HomeViewModel.analyzerOfTab s.homeViewModel.selectedTab
  dark : s.cameraEffect.key ≠ none → s.cameraEffect.scheduled = none → s.bound = none →
    ∃ scan ∈ s.scans, scan.result.isQr = true

theorem boundKept_init : BoundKept init := by
  constructor
  . exact captureServed_init.effects
  . rfl
  . intro hkey
    contradiction

section

variable {s s' : State} {e : Event}

theorem dark_composePreview
    (h : s.cameraEffect.key ≠ none → s.cameraEffect.scheduled = none → s.bound = none →
      ∃ scan ∈ s.scans, scan.result.isQr = true)
    : s.composePreview.cameraEffect.key ≠ none → s.composePreview.cameraEffect.scheduled = none →
        s.bound = none → ∃ scan ∈ s.scans, scan.result.isQr = true := by
  simp only [State.composePreview]
  split
  . by_cases hkey : s.cameraEffect.key = some (s.analyzerType, s.triggerCapture)
    . rw [LaunchedEffect.compose_same hkey]
      exact h
    . rw [LaunchedEffect.compose_other hkey]
      intro _ hscheduled
      contradiction
  . intro hkey
    contradiction

theorem BoundKept.step (h : BoundKept s) (hs : Step s e s') : BoundKept s' := by
  refine ⟨h.effects.step hs, ?_, ?_⟩
  . cases hs with
    | tabSelected => rfl
    | _ => exact h.tab
  . cases hs with
    | recompose => exact dark_composePreview h.dark
    | enterComposition granted hcomp =>
      apply dark_composePreview
      exact h.dark
    | cameraBound =>
      intro _ _ hbound
      contradiction
    | barcodeFound =>
      intro _ _ _
      refine ⟨_, List.mem_append_right _ (List.mem_singleton_self _), rfl⟩
    | textSuccess =>
      intro hkey hscheduled hbound
      rcases h.dark hkey hscheduled hbound with ⟨scan, hscan, hqr⟩
      exact ⟨scan, List.mem_append_left _ hscan, hqr⟩
    | objectSuccess =>
      intro hkey hscheduled hbound
      rcases h.dark hkey hscheduled hbound with ⟨scan, hscan, hqr⟩
      exact ⟨scan, List.mem_append_left _ hscan, hqr⟩
    | documentResult =>
      intro hkey hscheduled hbound
      rcases h.dark hkey hscheduled hbound with ⟨scan, hscan, hqr⟩
      exact ⟨scan, List.mem_append_left _ hscan, hqr⟩
    | leaveComposition =>
      intro hkey
      contradiction
    | _ => exact h.dark

theorem BoundKept.agrees (h : BoundKept s) : BoundAgrees s := by
  intro hsettled hpermission
  have hkey := cameraKey_of_settled hsettled hpermission
  rcases hsettled with ⟨_, htab, hanalyzer, htrigger, _, _, hscheduled⟩
  constructor
  . intro binding hbound
    have hlaunch := h.effects.boundLaunch _ binding hkey hscheduled hbound
    injection hlaunch with htype hflag
    rw [← htype, ← hflag, hanalyzer, h.tab, htab, htrigger]
    exact ⟨rfl, rfl⟩
  . intro hbound
    apply h.dark _ hscheduled hbound
    rw [hkey]
    simp

end

theorem boundAgrees (es : List Event) : Always step BoundAgrees init es := by
  apply always_of_inv (I := BoundKept)
  . intro s h
    exact h.agrees
  . intro s e s' h hs
    exact h.step (Step.of_step hs)
  . exact boundKept_init

end Camera
end MeeScanner
