import MeeScanner.Camera.Lemmas.Wedge
import MeeScanner.Rest

/-!
This module contains what Home does on its own: the collectors, the compositions and the effects,
in any order. They cannot keep each other going, and where they leave Home they can settle it.
-/

open Compose Transition

namespace MeeScanner
namespace Camera

def Event.internal : Event → Bool
  | .collectSelectedTab => true
  | .collectAnalyzerType => true
  | .collectTriggerCapture => true
  | .recompose => true
  | .runCaptureEffect _ => true
  | .runCameraEffect => true
  | _ => false

def internalStep : State → Event → Option State := restrict step Event.internal

namespace State

def captureKey (s : State) : Option Bool := if s.hasCameraPermission then some s.triggerCapture else none

def cameraKey (s : State) : Option (AnalyzerType × Bool) :=
  if s.hasCameraPermission then some (s.analyzerType, s.triggerCapture) else none

def launches (s : State) : Nat := s.captureEffect.due s.captureKey + s.cameraEffect.due s.cameraKey

-- A copy weighs more than what a new value of it can launch.
def copies (s : State) : Nat :=
  behind 1 s.selectedTab s.homeViewModel.selectedTab
    + behind 3 s.analyzerType s.homeViewModel.selectedAnalyzer
    + behind 5 s.triggerCapture s.homeViewModel.triggerCapture

def unrest (s : State) : Nat := s.copies + s.launches

def untouched (s : State) : Bool × HomeViewModel × List Scan :=
  (s.inComposition, s.homeViewModel, s.scans)

end State

section

variable {s s' : State} {e : Event}

theorem launches_bound (s : State) : s.launches ≤ 6 := by
  have hcapture := LaunchedEffect.due_bound s.captureKey s.captureEffect
  have hcamera := LaunchedEffect.due_bound s.cameraKey s.cameraEffect
  unfold State.launches
  omega

theorem copies_bound (s : State) : s.copies ≤ 9 := by
  have htab : behind 1 s.selectedTab s.homeViewModel.selectedTab ≤ 1 := behind_le
  have hanalyzer : behind 3 s.analyzerType s.homeViewModel.selectedAnalyzer ≤ 3 := behind_le
  have htrigger : behind 5 s.triggerCapture s.homeViewModel.triggerCapture ≤ 5 := behind_le
  unfold State.copies
  omega

theorem unrest_bound (s : State) : s.unrest ≤ 15 := by
  have hcopies := copies_bound s
  have hlaunches := launches_bound s
  unfold State.unrest
  omega

theorem launches_effects {capture : LaunchedEffect Bool Launch}
    {camera : LaunchedEffect (AnalyzerType × Bool) Launch}
    (hcapture : capture = s.captureEffect
      ∨ capture.due s.captureKey < s.captureEffect.due s.captureKey)
    (hcamera : camera = s.cameraEffect
      ∨ camera.due s.cameraKey < s.cameraEffect.due s.cameraKey)
    : { s with captureEffect := capture, cameraEffect := camera } = s
        ∨ capture.due s.captureKey + camera.due s.cameraKey < s.launches := by
  unfold State.launches
  rcases hcapture with rfl | hcapture
  . rcases hcamera with rfl | hcamera
    . exact Or.inl rfl
    . exact Or.inr (by omega)
  . rcases hcamera with rfl | hcamera
    . exact Or.inr (by omega)
    . exact Or.inr (by omega)

theorem launches_composePreview (s : State)
    : s.composePreview = s ∨ s.composePreview.launches < s.launches := by
  apply launches_effects
  . unfold State.captureKey
    split
    . apply LaunchedEffect.due_compose
    . apply LaunchedEffect.due_absent
  . unfold State.cameraKey
    split
    . apply LaunchedEffect.due_compose
    . apply LaunchedEffect.due_absent

theorem launches_analyzerType (s : State) (analyzerType : AnalyzerType)
    : State.launches { s with analyzerType := analyzerType } ≤ s.launches + 2 := by
  have hcamera := s.cameraEffect.due_le (State.cameraKey { s with analyzerType := analyzerType })
    s.cameraKey
  unfold State.launches
  change s.captureEffect.due s.captureKey + s.cameraEffect.due _ ≤ _
  omega

theorem launches_triggerCapture (s : State) (triggerCapture : Bool)
    : State.launches { s with triggerCapture := triggerCapture } ≤ s.launches + 4 := by
  have hcapture := s.captureEffect.due_le
    (State.captureKey { s with triggerCapture := triggerCapture }) s.captureKey
  have hcamera := s.cameraEffect.due_le
    (State.cameraKey { s with triggerCapture := triggerCapture }) s.cameraKey
  unfold State.launches
  change s.captureEffect.due _ + s.cameraEffect.due _ ≤ _
  omega

theorem unrest_step (h : internalStep s e = some s') : s' = s ∨ s'.unrest < s.unrest := by
  rcases restrict_eq_some_iff.mp h with ⟨hinternal, hs⟩
  cases Step.of_step hs with
  | collectSelectedTab =>
    by_cases hsame : s.selectedTab = s.homeViewModel.selectedTab
    . rw [← hsame]
      exact Or.inl rfl
    . apply Or.inr
      have hlaunches : State.launches { s with selectedTab := s.homeViewModel.selectedTab }
          = s.launches := rfl
      unfold State.unrest State.copies
      rw [hlaunches, behind_of_ne hsame, behind_self]
      dsimp only
      omega
  | collectAnalyzerType =>
    by_cases hsame : s.analyzerType = s.homeViewModel.selectedAnalyzer
    . rw [← hsame]
      exact Or.inl rfl
    . apply Or.inr
      have hlaunches := launches_analyzerType s s.homeViewModel.selectedAnalyzer
      unfold State.unrest State.copies
      rw [behind_of_ne hsame, behind_self]
      dsimp only
      omega
  | collectTriggerCapture =>
    by_cases hsame : s.triggerCapture = s.homeViewModel.triggerCapture
    . rw [← hsame]
      exact Or.inl rfl
    . apply Or.inr
      have hlaunches := launches_triggerCapture s s.homeViewModel.triggerCapture
      unfold State.unrest State.copies
      rw [behind_of_ne hsame, behind_self]
      dsimp only
      omega
  | recompose =>
    rcases launches_composePreview s with hsame | hlt
    . exact Or.inl hsame
    . exact Or.inr (Nat.add_lt_add_left hlt s.copies)
  | captureStarted launch originalBitmap hscheduled =>
    have hlt := LaunchedEffect.due_ran hscheduled s.captureKey
    exact Or.inr (Nat.add_lt_add_left (Nat.add_lt_add_right hlt _) s.copies)
  | captureSkipped launch bitmap hscheduled =>
    have hlt := LaunchedEffect.due_ran hscheduled s.captureKey
    exact Or.inr (Nat.add_lt_add_left (Nat.add_lt_add_right hlt _) s.copies)
  | cameraBound launch hscheduled =>
    have hlt := LaunchedEffect.due_ran hscheduled s.cameraKey
    exact Or.inr (Nat.add_lt_add_left (Nat.add_lt_add_left hlt _) s.copies)
  | _ => contradiction

theorem untouched_internal (h : internalStep s e = some s') : s'.untouched = s.untouched := by
  rcases restrict_eq_some_iff.mp h with ⟨hinternal, hs⟩
  cases Step.of_step hs with
  | collectSelectedTab => rfl
  | collectAnalyzerType => rfl
  | collectTriggerCapture => rfl
  | recompose => rfl
  | captureStarted => rfl
  | captureSkipped => rfl
  | cameraBound => rfl
  | _ => contradiction

theorem settled_of_quiet (hcomp : s.inComposition = true) (hquiet : Quiet internalStep s)
    : s.Settled := by
  refine ⟨hcomp, ?_, ?_, ?_, ?_, ?_, ?_⟩
  . have htab := hquiet.eq .collectSelectedTab rfl (if_pos hcomp)
    exact (congrArg State.selectedTab htab).symm
  . have hanalyzer := hquiet.eq .collectAnalyzerType rfl (if_pos hcomp)
    exact (congrArg State.analyzerType hanalyzer).symm
  . have htrigger := hquiet.eq .collectTriggerCapture rfl (if_pos hcomp)
    exact (congrArg State.triggerCapture htrigger).symm
  . exact hquiet.eq .recompose rfl (if_pos hcomp)
  . apply hquiet.eq_none (·.captureEffect.scheduled) (.runCaptureEffect none) rfl
    intro launch hscheduled
    simp only [step, State.runCaptureEffect, hscheduled]
    split
    . exact ⟨_, rfl, rfl⟩
    . exact ⟨_, rfl, rfl⟩
  . apply hquiet.eq_none (·.cameraEffect.scheduled) .runCameraEffect rfl
    intro launch hscheduled
    simp only [step, State.runCameraEffect, hscheduled]
    exact ⟨_, rfl, rfl⟩

end

/--
However the collectors, the compositions and the effects of Home follow each other, at most fifteen
of them change anything, and from where they are they can settle Home, without a scan and with the
view model as it was.
-/
theorem cameraComesToRest (s s' : State) (es : List Event) (hcomp : s.inComposition = true)
    (hexec : exec internalStep s es = some s')
    : changes internalStep s es ≤ 15
        ∧ ∃ t, Reaches internalStep s' t ∧ Quiet internalStep t ∧ t.Settled
            ∧ t.homeViewModel = s.homeViewModel ∧ t.scans = s.scans := by
  rcases rests_of_measure State.untouched (fun _ _ _ h => unrest_step h)
    (fun _ _ _ h => untouched_internal h) hexec with ⟨hchanges, t, hreaches, hquiet, hsame⟩
  refine ⟨Nat.le_trans hchanges (unrest_bound s), t, hreaches, hquiet, ?_, ?_, ?_⟩
  . apply settled_of_quiet _ hquiet
    rw [← hcomp]
    exact congrArg (·.1) hsame
  . exact congrArg (·.2.1) hsame
  . exact congrArg (·.2.2) hsame

-- A tab and a press that the composition has not seen yet.
def unseenPress : State :=
  (exec step init [.enterComposition true, .tabSelected "Text Analyzer", .collectSelectedTab,
    .shutterClicked]).get (by decide)

def seenLate : List Event :=
  [
    .runCameraEffect, .collectTriggerCapture, .recompose, .runCaptureEffect none,
    .collectAnalyzerType, .recompose, .runCameraEffect
  ]

theorem unseenPress_comesToRest
    : changes internalStep unseenPress seenLate ≤ 15
        ∧ ∃ t, Reaches internalStep ((exec internalStep unseenPress seenLate).get (by decide)) t
            ∧ Quiet internalStep t ∧ t.Settled
            ∧ t.homeViewModel = unseenPress.homeViewModel ∧ t.scans = unseenPress.scans := by
  apply cameraComesToRest unseenPress _ seenLate
  . decide
  . exact (Option.some_get _).symm

end Camera
end MeeScanner
