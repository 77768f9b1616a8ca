import MeeScanner.Camera.Lemmas.Step

/-!
This module contains the accounting of shutter presses and of the results they yield. Every press is
either pending, `triggerCapture` being its only trace, or was paid back by one result: a result that
arrives while the flag is on clears it, and nothing else does.
-/

open Transition

namespace MeeScanner
namespace Camera

namespace State

def captureResults (s : State) : Nat := s.scans.countP (·.result.isCapture)

def pendingPress (s : State) : Nat := if s.homeViewModel.triggerCapture then 1 else 0

variable (s : State)

theorem captureResults_onScanResult (result : ScanResult) (analyzerType : AnalyzerType) (now : Int)
    : (s.onScanResult result analyzerType now).captureResults
        =
      s.captureResults + if result.isCapture then 1 else 0 := by
  simp [captureResults, onScanResult, List.countP_append, List.countP_singleton]

theorem pendingPress_of_off (h : s.homeViewModel.triggerCapture = false) : s.pendingPress = 0 := by
  simp [pendingPress, h]

theorem pendingPress_of_on (h : s.homeViewModel.triggerCapture = true) : s.pendingPress = 1 := by
  simp [pendingPress, h]

end State

def OneResultPerPress (s : State) : Prop := s.captureResults ≤ s.presses

instance : DecidablePred OneResultPerPress := fun s =>
  inferInstanceAs (Decidable (s.captureResults ≤ s.presses))

def Accounted (s : State) : Prop := s.captureResults + s.pendingPress = s.presses

theorem accounted_init : Accounted init := by
  rfl

-- Each delivery of a text or object result finds the flag still on.
def AnswersWhileTriggered (s : State) : Event → Prop
  | .textSuccess .. => s.homeViewModel.triggerCapture = true
  | .objectSuccess .. => s.homeViewModel.triggerCapture = true
  | _ => True

section

variable {s s' : State} {e : Event}

theorem Accounted.served (h : Accounted s) (hon : s.homeViewModel.triggerCapture = true)
    (hresults : s'.captureResults = s.captureResults + 1)
    (hoff : s'.homeViewModel.triggerCapture = false) (hpresses : s'.presses = s.presses)
    : Accounted s' := by
  unfold Accounted at *
  have := s.pendingPress_of_on hon
  have := s'.pendingPress_of_off hoff
  omega

theorem Accounted.exceeded (h : Accounted s) (hoff : s.homeViewModel.triggerCapture = false)
    (hresults : s'.captureResults = s.captureResults + 1) (hpresses : s'.presses = s.presses)
    : s'.presses < s'.captureResults := by
  unfold Accounted at h
  have := s.pendingPress_of_off hoff
  omega

theorem Accounted.unchanged (h : Accounted s) (hresults : s'.captureResults = s.captureResults)
    (hvm : s'.homeViewModel.triggerCapture = s.homeViewModel.triggerCapture)
    (hpresses : s'.presses = s.presses) : Accounted s' := by
  unfold Accounted State.pendingPress at *
  rw [hresults, hvm, hpresses]
  exact h

theorem Accounted.step (h : Accounted s) (hguard : AnswersWhileTriggered s e) (hs : Step s e s')
    : Accounted s' := by
  cases hs with
  | shutterPressed _ _ hoff =>
    unfold Accounted at *
    have := s.pendingPress_of_off hoff
    change s.captureResults + 1 = s.presses + 1
    omega
  | textSuccess =>
    apply h.served hguard
    . apply State.captureResults_onScanResult
    . rfl
    . rfl
  | objectSuccess =>
    apply h.served hguard
    . apply State.captureResults_onScanResult
    . rfl
    . rfl
  | barcodeFound =>
    apply h.unchanged
    . apply State.captureResults_onScanResult
    . rfl
    . rfl
  | documentResult =>
    apply h.unchanged
    . apply State.captureResults_onScanResult
    . rfl
    . rfl
  | _ => exact h

theorem Accounted.step_bad (h : Accounted s) (hguard : ¬ AnswersWhileTriggered s e)
    (hs : Step s e s') : s'.presses < s'.captureResults := by
  cases hs with
  | textSuccess =>
    simp only [AnswersWhileTriggered, Bool.not_eq_true] at hguard
    apply h.exceeded hguard
    . apply State.captureResults_onScanResult
    . rfl
  | objectSuccess =>
    simp only [AnswersWhileTriggered, Bool.not_eq_true] at hguard
    apply h.exceeded hguard
    . apply State.captureResults_onScanResult
    . rfl
  | _ => exact absurd trivial hguard

end

theorem oneResultPerPress_iff (es : List Event)
    : Always step OneResultPerPress init es
        ↔
      Meets step AnswersWhileTriggered init es := by
  apply always_iff_meets (I := Accounted)
  . intro s h
    unfold Accounted at h
    unfold OneResultPerPress
    omega
  . intro s e s' h hguard hs
    apply h.step hguard (Step.of_step hs)
  . intro s e s' h hguard hs
    have := h.step_bad hguard (Step.of_step hs)
    unfold OneResultPerPress
    omega
  . apply accounted_init

/-
One press in TEXT mode. The recogniser answers, the frame is closed, and the analyzer that is still
bound with `triggerCapture = true` takes the next frame before the next recomposition.
-/
def doubleCapture : List Event :=
  let launch : Launch := ⟨.text, true, 0⟩
  [
    .enterComposition true, .runCaptureEffect none, .runCameraEffect,
    .tabSelected "Text Analyzer", .collectSelectedTab, .collectAnalyzerType,
    .shutterClicked, .collectTriggerCapture, .recompose, .runCaptureEffect none, .runCameraEffect,
    .frame true, .textSuccess ⟨3, launch, .text ⟨2, 1⟩⟩ "first" none 1,
    .frame true, .textSuccess ⟨5, launch, .text ⟨4, 1⟩⟩ "second" none 2
  ]

theorem doubleCapture_two_results : ¬ Always step OneResultPerPress init doubleCapture := by
  apply not_always_of_any
  decide

end Camera
end MeeScanner
