import MeeScanner.Camera.Lemmas.Frames

/-!
This module contains the capture flag and what serves it. Where the composition is up to date, a
flag that is on must have a capture in progress, otherwise the shutter is dead.
-/

open Compose Transition

namespace MeeScanner
namespace Camera

def IsCaptureTab (tab : String) : Prop := tab = "Object Detection" ∨ tab = "Text Analyzer"

def Recognition.press? : Recognition → Option Nat
  | .objects _ press => some press
  | _ => none

namespace State

-- Home is composed, up to date with the view model, and its effects have run.
def Settled (s : State) : Prop :=
  s.inComposition = true
    ∧ s.selectedTab = s.homeViewModel.selectedTab
    ∧ s.analyzerType = s.homeViewModel.selectedAnalyzer
    ∧ s.triggerCapture = s.homeViewModel.triggerCapture
    ∧ s.composePreview = s
    ∧ s.captureEffect.scheduled = none
    ∧ s.cameraEffect.scheduled = none

def TaskServes (s : State) : Prop := ∃ task ∈ s.tasks, task.recognition.press? = some s.presses

def AnalyzerServes (s : State) : Prop :=
  s.bound.any fun binding =>
    binding.launch.analyzerType = .text ∧ binding.launch.triggerCapture = true

def CaptureInProgress (s : State) : Prop := s.TaskServes ∨ s.AnalyzerServes

def CaptureTab (s : State) : Prop := IsCaptureTab s.selectedTab

-- A press that the next recomposition sees launches both effects with `triggerCapture = true`.
def PressRestarts (s : State) : Prop :=
  ∃ s', exec step s [.shutterClicked, .collectTriggerCapture, .recompose] = some s'
    ∧ s'.captureEffect.scheduled = some ⟨s.analyzerType, true, s.visit⟩
    ∧ s'.cameraEffect.scheduled = some ⟨s.analyzerType, true, s.visit⟩

instance (s : State) : Decidable s.Settled := by
  unfold Settled
  infer_instance

instance (s : State) : Decidable s.TaskServes := by
  unfold TaskServes
  infer_instance

instance (s : State) : Decidable s.AnalyzerServes := by
  unfold AnalyzerServes
  infer_instance

instance (s : State) : Decidable s.CaptureInProgress := by
  unfold CaptureInProgress
  infer_instance

def LaunchAhead (s : State) : Prop := s.captureEffect.key ≠ some true ∨ s.triggerCapture = false

def LaunchScheduled (s : State) : Prop :=
  ∃ launch, s.captureEffect.scheduled = some launch ∧ launch.analyzerType = .object

def TextServes (s : State) : Prop :=
  s.cameraEffect.key = some (.text, true) ∧ (s.cameraEffect.scheduled ≠ none ∨ s.bound ≠ none)

def Served (s : State) : Prop :=
  s.LaunchAhead ∨ s.TaskServes ∨ s.LaunchScheduled ∨ s.TextServes

end State

def NotWedged (s : State) : Prop :=
  s.Settled →
    (s.homeViewModel.triggerCapture = true → s.CaptureInProgress)
      ∧ (¬ s.CaptureInProgress →
          s.homeViewModel.triggerCapture = false ∧ (s.CaptureTab → s.PressRestarts))

/-
No step takes the capture away from a press: the bitmap is there, the detector does not fail, the
mode does not change under the press, no late barcode unbinds the camera under it, and the flag
does not turn on before the composition has seen it off. Each of these is harmless where something
else serves the press. Without the camera permission no effect runs, a shutter must not be shown.
-/
def KeepsCapture (s : State) : Event → Prop
  | .shutterClicked =>
    s.CaptureTab → s.homeViewModel.triggerCapture = true ∨ s.LaunchAhead ∨ s.LaunchScheduled
      ∨ s.TextServes
  | .collectTriggerCapture =>
    s.homeViewModel.triggerCapture = true → s.triggerCapture = true
      ∨ s.captureEffect.key ≠ some true ∨ s.TaskServes ∨ s.LaunchScheduled ∨ s.TextServes
  | .recompose =>
    s.homeViewModel.triggerCapture = true → s.triggerCapture = true →
      s.analyzerType = .text ∨ s.TaskServes
        ∨ (s.captureEffect.key ≠ some true ∧ s.analyzerType = .object)
        ∨ (s.captureEffect.key = some true
            ∧ (s.LaunchScheduled ∨ s.cameraEffect.key = some (s.analyzerType, true)))
  | .collectSelectedTab =>
    s.hasCameraPermission = true ∨ ¬ IsCaptureTab s.homeViewModel.selectedTab
  | .permissionResult granted =>
    granted = true ∨ (¬ s.CaptureTab ∧ s.homeViewModel.triggerCapture = false)
  | .runCaptureEffect bitmap =>
    s.homeViewModel.triggerCapture = true → bitmap ≠ none ∨ s.LaunchAhead ∨ s.TaskServes
      ∨ ¬ s.LaunchScheduled ∨ s.TextServes
  | .barcodeSuccess _ (_ :: _) .. =>
    s.homeViewModel.triggerCapture = true → s.LaunchAhead ∨ s.TaskServes ∨ s.LaunchScheduled
      ∨ s.cameraEffect.scheduled ≠ none
  | .objectFailure task =>
    s.homeViewModel.triggerCapture = true → s.LaunchAhead ∨ (s.finish task).TaskServes
      ∨ s.LaunchScheduled ∨ s.TextServes
  | .enterComposition granted =>
    (granted = true ∨ (¬ IsCaptureTab s.homeViewModel.selectedTab
        ∧ s.homeViewModel.triggerCapture = false))
      ∧ (s.homeViewModel.triggerCapture = true →
          s.homeViewModel.selectedAnalyzer = .object ∨ s.homeViewModel.selectedAnalyzer = .text
            ∨ s.TaskServes)
  | _ => True

instance (tab : String) : Decidable (IsCaptureTab tab) := by
  unfold IsCaptureTab
  infer_instance

instance (s : State) : Decidable s.LaunchScheduled :=
  decidable_of_iff (s.captureEffect.scheduled.any (·.analyzerType = .object)) (by
    simp [State.LaunchScheduled, Option.any_eq_true])

instance (s : State) (e : Event) : Decidable (KeepsCapture s e) := by
  unfold KeepsCapture State.CaptureTab State.LaunchAhead State.TextServes
  split <;> infer_instance

structure EffectsKeyed (s : State) : Prop where
  keysAgree : ∀ key, s.cameraEffect.key = some key → s.captureEffect.key = some key.2
  captureAbsent : s.inComposition = false → s.captureEffect = .absent
  cameraAbsent : s.inComposition = false → s.cameraEffect = .absent
  captureLaunch : ∀ launch, s.captureEffect.scheduled = some launch →
    s.captureEffect.key = some launch.triggerCapture
  cameraLaunch : ∀ launch, s.cameraEffect.scheduled = some launch →
    s.cameraEffect.key = some (launch.analyzerType, launch.triggerCapture)
  boundLaunch : ∀ key binding, s.cameraEffect.key = some key → s.cameraEffect.scheduled = none →
    s.bound = some binding → key = (binding.launch.analyzerType, binding.launch.triggerCapture)

structure CaptureServed (s : State) : Prop where
  effects : EffectsKeyed s
  permission : s.inComposition = true → s.hasCameraPermission = true
    ∨ (¬ s.CaptureTab ∧ s.homeViewModel.triggerCapture = false)
  served : s.inComposition = true → s.homeViewModel.triggerCapture = true → s.Served

theorem captureServed_init : CaptureServed init := by
  constructor
  . constructor <;> simp [init]
  . simp [init]
  . simp [init]

section

variable {s s' : State} {e : Event}

theorem captureKey_of_settled (h : s.Settled) (hpermission : s.hasCameraPermission = true)
    : s.captureEffect.key = some s.triggerCapture := by
  have hsame : s.composePreview.captureEffect = s.captureEffect := by
    rw [h.2.2.2.2.1]
  simp only [State.composePreview, hpermission, ↓reduceIte] at hsame
  exact LaunchedEffect.compose_eq_self_iff.mp hsame

theorem cameraKey_of_settled (h : s.Settled) (hpermission : s.hasCameraPermission = true)
    : s.cameraEffect.key = some (s.analyzerType, s.triggerCapture) := by
  have hsame : s.composePreview.cameraEffect = s.cameraEffect := by
    rw [h.2.2.2.2.1]
  simp only [State.composePreview, hpermission, ↓reduceIte] at hsame
  exact LaunchedEffect.compose_eq_self_iff.mp hsame

theorem CaptureServed.granted (h : CaptureServed s) (hcomp : s.inComposition = true)
    (hon : s.homeViewModel.triggerCapture = true) : s.hasCameraPermission = true := by
  rcases h.permission hcomp with hpermission | ⟨_, hoff⟩
  . exact hpermission
  . rw [hon] at hoff
    contradiction

theorem CaptureServed.granted_of_captureTab (h : CaptureServed s) (hcomp : s.inComposition = true)
    (htab : s.CaptureTab) : s.hasCameraPermission = true := by
  rcases h.permission hcomp with hpermission | ⟨hother, _⟩
  . exact hpermission
  . contradiction

theorem CaptureServed.inProgress (h : CaptureServed s) (hsettled : s.Settled)
    (hon : s.homeViewModel.triggerCapture = true) : s.CaptureInProgress := by
  rcases hsettled with ⟨hcomp, htab, hanalyzer, htrigger, hcompose, hcapture, hcamera⟩
  have hkey := captureKey_of_settled
    ⟨hcomp, htab, hanalyzer, htrigger, hcompose, hcapture, hcamera⟩ (h.granted hcomp hon)
  rw [hon] at htrigger
  rw [htrigger] at hkey
  rcases h.served hcomp hon with hahead | htask | hlaunch | htext
  . rcases hahead with hahead | hahead
    . contradiction
    . rw [htrigger] at hahead
      contradiction
  . exact Or.inl htask
  . rcases hlaunch with ⟨launch, hlaunch, _⟩
    rw [hcapture] at hlaunch
    contradiction
  . rcases htext with ⟨htext, hscheduled | hbound⟩
    . contradiction
    . rw [Option.ne_none_iff_exists'] at hbound
      rcases hbound with ⟨binding, hbound⟩
      have hmode := h.effects.boundLaunch _ binding htext hcamera hbound
      injection hmode with hmode1 hmode2
      apply Or.inr
      simp [State.AnalyzerServes, hbound, ← hmode1, ← hmode2]

theorem exec_press (hcomp : s.inComposition = true) (htab : s.CaptureTab)
    (hoff : s.homeViewModel.triggerCapture = false)
    : exec step s [.shutterClicked, .collectTriggerCapture, .recompose]
        =
      some {
        s with
        homeViewModel := s.homeViewModel.onCaptureTrigger
        presses := s.presses + 1
        triggerCapture := true
      }.composePreview := by
  have hclick : step s .shutterClicked = some {
        s with
        homeViewModel := s.homeViewModel.onCaptureTrigger
        presses := s.presses + 1
      } := by
    unfold State.CaptureTab IsCaptureTab at htab
    simp [step, State.shutterClicked, hcomp, hoff, htab]
  rw [exec_cons, hclick]
  simp [step, hcomp, HomeViewModel.onCaptureTrigger]

theorem pressRestarts (hsettled : s.Settled) (hpermission : s.hasCameraPermission = true)
    (hoff : s.homeViewModel.triggerCapture = false) (htab : s.CaptureTab) : s.PressRestarts := by
  have hkey := captureKey_of_settled hsettled hpermission
  have hcameraKey := cameraKey_of_settled hsettled hpermission
  rw [hsettled.2.2.2.1, hoff] at hkey hcameraKey
  refine ⟨_, exec_press hsettled.1 htab hoff, ?_, ?_⟩
  . simp [State.composePreview, hpermission, LaunchedEffect.compose, hkey, State.visit]
  . simp [State.composePreview, hpermission, LaunchedEffect.compose, hcameraKey, State.visit]

theorem CaptureServed.notWedged (h : CaptureServed s) : NotWedged s := by
  intro hsettled
  have hprogress := h.inProgress hsettled
  constructor
  . exact hprogress
  . intro hidle
    have hoff : s.homeViewModel.triggerCapture = false := by
      cases hflag : s.homeViewModel.triggerCapture with
      | false => rfl
      | true => exact absurd (hprogress hflag) hidle
    constructor
    . exact hoff
    . intro htab
      apply pressRestarts hsettled (h.granted_of_captureTab hsettled.1 htab) hoff htab

theorem EffectsKeyed.composePreview (h : EffectsKeyed s) (hcomp : s.inComposition = true)
    : EffectsKeyed s.composePreview := by
  cases hpermission : s.hasCameraPermission with
  | false =>
    constructor <;> simp [State.composePreview, hpermission, hcomp]
  | true =>
    constructor
    . intro key hkey
      simp only [State.composePreview, hpermission, ↓reduceIte, LaunchedEffect.key_compose,
        Option.some.injEq] at hkey ⊢
      rw [← hkey]
    . intro hleft
      simp [State.composePreview, hcomp] at hleft
    . intro hleft
      simp [State.composePreview, hcomp] at hleft
    . simp only [State.composePreview, hpermission, ↓reduceIte]
      exact LaunchedEffect.captured_compose h.captureLaunch
        ⟨s.analyzerType, s.triggerCapture, s.visit⟩
    . simp only [State.composePreview, hpermission, ↓reduceIte]
      exact LaunchedEffect.captured_compose h.cameraLaunch
        ⟨s.analyzerType, s.triggerCapture, s.visit⟩
    . intro key binding hkey hscheduled hbound
      simp only [State.composePreview, hpermission, ↓reduceIte] at hkey hscheduled hbound
      by_cases hsame : s.cameraEffect.key = some (s.analyzerType, s.triggerCapture)
      . rw [LaunchedEffect.compose_same hsame] at hkey hscheduled
        apply h.boundLaunch key binding hkey hscheduled hbound
      . rw [LaunchedEffect.compose_other hsame] at hscheduled
        contradiction

theorem EffectsKeyed.ranCapture (h : EffectsKeyed s) {launch : Launch}
    (hscheduled : s.captureEffect.scheduled = some launch)
    : EffectsKeyed { s with captureEffect := s.captureEffect.ran } := by
  constructor
  . exact h.keysAgree
  . intro hleft
    rw [h.captureAbsent hleft] at hscheduled
    contradiction
  . exact h.cameraAbsent
  . intro launch hlaunch
    contradiction
  . exact h.cameraLaunch
  . exact h.boundLaunch

theorem EffectsKeyed.step (h : EffectsKeyed s) (hs : Step s e s') : EffectsKeyed s' := by
  cases hs with
  | recompose hcomp => apply h.composePreview hcomp
  | captureStarted launch originalBitmap hscheduled =>
    have := h.ranCapture hscheduled
    exact ⟨this.keysAgree, this.captureAbsent, this.cameraAbsent, this.captureLaunch,
      this.cameraLaunch, this.boundLaunch⟩
  | captureSkipped launch bitmap hscheduled => apply h.ranCapture hscheduled
  | cameraBound launch hscheduled =>
    constructor
    . exact h.keysAgree
    . exact h.captureAbsent
    . intro hleft
      rw [h.cameraAbsent hleft] at hscheduled
      contradiction
    . exact h.captureLaunch
    . intro launch hlaunch
      contradiction
    . intro key binding hkey _ hbound
      have hlaunch := h.cameraLaunch launch hscheduled
      simp only [LaunchedEffect.key_ran] at hkey
      rw [hkey] at hlaunch
      injection hlaunch with hlaunch
      injection hbound with hbound
      rw [hlaunch, ← hbound]
  | barcodeFound =>
    refine ⟨h.keysAgree, h.captureAbsent, h.cameraAbsent, h.captureLaunch, h.cameraLaunch, ?_⟩
    intro key binding _ _ hbound
    contradiction
  | enterComposition granted hcomp =>
    apply EffectsKeyed.composePreview
    . have hcapture := h.captureAbsent hcomp
      have hcamera := h.cameraAbsent hcomp
      constructor <;> simp [hcapture, hcamera]
    . rfl
  | leaveComposition => constructor <;> simp
  | _ =>
    exact ⟨h.keysAgree, h.captureAbsent, h.cameraAbsent, h.captureLaunch, h.cameraLaunch,
      h.boundLaunch⟩

theorem State.TaskServes.process (h : s.TaskServes) (launch : Launch) (recognition : Recognition)
    : (s.process launch recognition).TaskServes := by
  rcases h with ⟨task, hmem, htask⟩
  refine ⟨task, ?_, htask⟩
  apply List.mem_append_left
  exact hmem

theorem State.TaskServes.finish (h : s.TaskServes) {task : Task}
    (htask : task.recognition.press? = none) : (s.finish task).TaskServes := by
  rcases h with ⟨other, hmem, hother⟩
  refine ⟨other, ?_, hother⟩
  apply (List.mem_erase_of_ne ?_).mpr hmem
  intro heq
  rw [heq, htask] at hother
  contradiction

theorem State.TaskServes.answer (h : s.TaskServes) {task : Task} {imageProxy : ImageProxy}
    (htask : task.recognition.press? = none) : (s.answer task imageProxy).TaskServes := by
  rcases h.finish htask with ⟨other, hmem, hother⟩
  exact ⟨other, List.mem_cons_of_mem _ hmem, hother⟩

theorem State.Served.mono (h : s.Served) (hcapture : s'.captureEffect = s.captureEffect)
    (htrigger : s'.triggerCapture = s.triggerCapture)
    (hcamera : s'.cameraEffect = s.cameraEffect) (hbound : s'.bound = s.bound)
    (htask : s.TaskServes → s'.TaskServes) : s'.Served := by
  rcases h with hahead | h | hlaunch | htext
  . apply Or.inl
    simpa [State.LaunchAhead, hcapture, htrigger] using hahead
  . exact Or.inr (Or.inl (htask h))
  . apply Or.inr (Or.inr (Or.inl ?_))
    simpa [State.LaunchScheduled, hcapture] using hlaunch
  . apply Or.inr (Or.inr (Or.inr ?_))
    simpa [State.TextServes, hcamera, hbound] using htext

theorem composePreview_same (hpermission : s.hasCameraPermission = true)
    (hcapture : s.captureEffect.key = some s.triggerCapture)
    (hcamera : s.cameraEffect.key = some (s.analyzerType, s.triggerCapture))
    : s.composePreview = s := by
  simp only [State.composePreview, hpermission, ↓reduceIte]
  rw [LaunchedEffect.compose_same hcapture, LaunchedEffect.compose_same hcamera, ← hpermission]

theorem State.Served.recompose (hserved : s.Served) (heffects : EffectsKeyed s)
    (hpermission : s.hasCameraPermission = true)
    (hguard : s.triggerCapture = true → s.analyzerType = .text ∨ s.TaskServes
      ∨ (s.captureEffect.key ≠ some true ∧ s.analyzerType = .object)
      ∨ (s.captureEffect.key = some true
          ∧ (s.LaunchScheduled ∨ s.cameraEffect.key = some (s.analyzerType, true))))
    : s.composePreview.Served := by
  cases htrigger : s.triggerCapture with
  | false =>
    apply Or.inl (Or.inr ?_)
    exact htrigger
  | true =>
    by_cases hsame : s.cameraEffect.key = some (s.analyzerType, true)
    . have hkey := heffects.keysAgree _ hsame
      rw [← htrigger] at hsame hkey
      rw [composePreview_same hpermission hkey hsame]
      exact hserved
    . rcases hguard htrigger with htext | htask | ⟨hkey, hobject⟩ | ⟨hkey, hlaunch | hcontra⟩
      . apply Or.inr (Or.inr (Or.inr ?_))
        rw [htext] at hsame
        simp [State.TextServes, State.composePreview, hpermission, htrigger, htext,
          LaunchedEffect.compose_other hsame]
      . exact Or.inr (Or.inl htask)
      . apply Or.inr (Or.inr (Or.inl ?_))
        simp [State.LaunchScheduled, State.composePreview, hpermission, htrigger, hobject,
          LaunchedEffect.compose_other hkey]
      . apply Or.inr (Or.inr (Or.inl ?_))
        simpa [State.LaunchScheduled, State.composePreview, hpermission, htrigger,
          LaunchedEffect.compose_same hkey] using hlaunch
      . contradiction

theorem State.Served.enter (hcapture : s.captureEffect = .absent)
    (hcamera : s.cameraEffect = .absent) (hpermission : s.hasCameraPermission = true)
    (htrigger : s.triggerCapture = true)
    (hmode : s.analyzerType = .object ∨ s.analyzerType = .text ∨ s.TaskServes)
    : s.composePreview.Served := by
  rcases hmode with hobject | htext | htask
  . apply Or.inr (Or.inr (Or.inl ?_))
    simp [State.LaunchScheduled, State.composePreview, hpermission, htrigger, hobject, hcapture,
      LaunchedEffect.compose]
  . apply Or.inr (Or.inr (Or.inr ?_))
    simp [State.TextServes, State.composePreview, hpermission, htrigger, htext, hcamera,
      LaunchedEffect.compose]
  . exact Or.inr (Or.inl htask)

theorem State.Served.shutterPressed
    (hguard : s.LaunchAhead ∨ s.LaunchScheduled ∨ s.TextServes)
    : State.Served
        { s with homeViewModel := s.homeViewModel.onCaptureTrigger, presses := s.presses + 1 } := by
  rcases hguard with h | h | h
  . exact Or.inl h
  . exact Or.inr (Or.inr (Or.inl h))
  . exact Or.inr (Or.inr (Or.inr h))

theorem State.Served.collectTriggerCapture (hserved : s.Served)
    (hguard : s.triggerCapture = true ∨ s.captureEffect.key ≠ some true ∨ s.TaskServes
      ∨ s.LaunchScheduled ∨ s.TextServes)
    : State.Served { s with triggerCapture := s.homeViewModel.triggerCapture } := by
  rcases hguard with htrigger | h | h | h | h
  . rcases hserved with hahead | h | h | h
    . rcases hahead with hahead | hahead
      . exact Or.inl (Or.inl hahead)
      . rw [htrigger] at hahead
        contradiction
    . exact Or.inr (Or.inl h)
    . exact Or.inr (Or.inr (Or.inl h))
    . exact Or.inr (Or.inr (Or.inr h))
  . exact Or.inl (Or.inl h)
  . exact Or.inr (Or.inl h)
  . exact Or.inr (Or.inr (Or.inl h))
  . exact Or.inr (Or.inr (Or.inr h))

-- A block that runs and starts no detector served no press, unless the bitmap was missing.
theorem State.Served.captureSkipped (hserved : s.Served) (heffects : EffectsKeyed s)
    {launch : Launch} {bitmap : Option Bitmap}
    (hscheduled : s.captureEffect.scheduled = some launch)
    (hskip : launch.triggerCapture = true ∧ launch.analyzerType = .object → bitmap = none)
    (hguard : bitmap ≠ none ∨ s.LaunchAhead ∨ s.TaskServes ∨ ¬ s.LaunchScheduled ∨ s.TextServes)
    : State.Served { s with captureEffect := s.captureEffect.ran } := by
  have hkey := heffects.captureLaunch launch hscheduled
  have hlaunch : s.LaunchScheduled → launch.analyzerType = .object := by
    intro h
    rcases h with ⟨other, hother, hobject⟩
    rw [hscheduled] at hother
    injection hother with hother
    rw [hother]
    exact hobject
  rcases hserved with h | h | h | h
  . exact Or.inl h
  . exact Or.inr (Or.inl h)
  . cases htrigger : launch.triggerCapture with
    | false =>
      apply Or.inl (Or.inl ?_)
      simp [hkey, htrigger]
    | true =>
      have hnone := hskip ⟨htrigger, hlaunch h⟩
      rcases hguard with hbitmap | hother | hother | hother | hother
      . contradiction
      . exact Or.inl hother
      . exact Or.inr (Or.inl hother)
      . contradiction
      . exact Or.inr (Or.inr (Or.inr hother))
  . exact Or.inr (Or.inr (Or.inr h))

theorem State.Served.captureStarted (launch : Launch) (originalBitmap : Bitmap)
    : State.Served ({ s with captureEffect := s.captureEffect.ran }.process launch
        (.objects originalBitmap s.presses)) := by
  apply Or.inr (Or.inl ?_)
  refine ⟨⟨s.nextId, launch, .objects originalBitmap s.presses⟩, ?_, rfl⟩
  simp [State.process]

theorem State.Served.cameraBound (hserved : s.Served) (launch : Launch)
    : State.Served
        {
          s with
          cameraEffect := s.cameraEffect.ran
          bound := some ⟨s.nextId, launch⟩
          nextId := s.nextId + 1
        } := by
  rcases hserved with h | h | h | h
  . exact Or.inl h
  . exact Or.inr (Or.inl h)
  . exact Or.inr (Or.inr (Or.inl h))
  . exact Or.inr (Or.inr (Or.inr ⟨h.1, Or.inr (Option.some_ne_none _)⟩))

theorem State.Served.barcodeFound (hserved : s.Served) {task : Task} {imageProxy : ImageProxy}
    (htask : task.recognition = .barcodes imageProxy false) (result : ScanResult)
    (analyzerType : AnalyzerType) (now : Int)
    (hguard : s.LaunchAhead ∨ s.TaskServes ∨ s.LaunchScheduled ∨ s.cameraEffect.scheduled ≠ none)
    : ((s.answer task imageProxy).onScanResult result analyzerType now).unbindAll.Served := by
  have hother : task.recognition.press? = none := by
    rw [htask]
    rfl
  rcases hguard with h | h | h | hscheduled
  . exact Or.inl h
  . exact Or.inr (Or.inl (h.answer hother))
  . exact Or.inr (Or.inr (Or.inl h))
  . rcases hserved with h | h | h | h
    . exact Or.inl h
    . exact Or.inr (Or.inl (h.answer hother))
    . exact Or.inr (Or.inr (Or.inl h))
    . exact Or.inr (Or.inr (Or.inr ⟨h.1, Or.inl hscheduled⟩))

theorem State.Served.objectFailure {task : Task}
    (hguard : s.LaunchAhead ∨ (s.finish task).TaskServes ∨ s.LaunchScheduled ∨ s.TextServes)
    : (s.finish task).Served := by
  rcases hguard with h | h | h | h
  . exact Or.inl h
  . exact Or.inr (Or.inl h)
  . exact Or.inr (Or.inr (Or.inl h))
  . exact Or.inr (Or.inr (Or.inr h))

theorem State.Served.finish (hserved : s.Served) {task : Task}
    (htask : task.recognition.press? = none) : (s.finish task).Served := by
  apply hserved.mono
  . rfl
  . rfl
  . rfl
  . rfl
  . intro h
    apply State.TaskServes.finish h htask

theorem State.Served.process (hserved : s.Served) (binding : Binding) (recognition : Recognition)
    : ((s.receive binding).process binding.launch recognition).Served := by
  apply hserved.mono
  . rfl
  . rfl
  . rfl
  . rfl
  . intro htask
    apply State.TaskServes.process (s := s.receive binding) htask

theorem CaptureServed.step (h : CaptureServed s) (hguard : KeepsCapture s e) (hs : Step s e s')
    : CaptureServed s' := by
  have heffects := h.effects.step hs
  cases hs with
  | shutterPressed hcomp htab hoff =>
    have hpermission := h.granted_of_captureTab hcomp htab
    refine ⟨heffects, fun _ => Or.inl hpermission, ?_⟩
    intro _ _
    apply State.Served.shutterPressed
    rcases hguard htab with hon | hguard
    . rw [hoff] at hon
      contradiction
    . exact hguard
  | collectSelectedTab hcomp =>
    refine ⟨heffects, ?_, h.served⟩
    intro _
    rcases h.permission hcomp with hpermission | ⟨_, hoff⟩
    . exact Or.inl hpermission
    . rcases hguard with hpermission | htab
      . exact Or.inl hpermission
      . exact Or.inr ⟨htab, hoff⟩
  | collectTriggerCapture hcomp =>
    refine ⟨heffects, h.permission, ?_⟩
    intro _ hon
    apply State.Served.collectTriggerCapture (h.served hcomp hon) (hguard hon)
  | recompose hcomp =>
    refine ⟨heffects, h.permission, ?_⟩
    intro _ hon
    apply (h.served hcomp hon).recompose h.effects (h.granted hcomp hon) (hguard hon)
  | permissionResult granted =>
    refine ⟨heffects, ?_, h.served⟩
    intro _
    exact hguard
  | captureStarted launch originalBitmap =>
    refine ⟨heffects, h.permission, ?_⟩
    intro _ _
    apply State.Served.captureStarted
  | captureSkipped launch bitmap hscheduled hskip =>
    refine ⟨heffects, h.permission, ?_⟩
    intro hcomp hon
    apply (h.served hcomp hon).captureSkipped h.effects hscheduled hskip (hguard hon)
  | cameraBound launch =>
    refine ⟨heffects, h.permission, ?_⟩
    intro hcomp hon
    apply (h.served hcomp hon).cameraBound
  | frameQr binding =>
    refine ⟨heffects, h.permission, ?_⟩
    intro hcomp hon
    apply (h.served hcomp hon).process
  | frameText binding =>
    refine ⟨heffects, h.permission, ?_⟩
    intro hcomp hon
    apply (h.served hcomp hon).process
  | barcodeEmpty task imageProxy _ _ htask =>
    refine ⟨heffects, h.permission, ?_⟩
    intro hcomp hon
    apply (h.served hcomp hon).mono
    . rfl
    . rfl
    . rfl
    . rfl
    . intro hserves
      apply State.TaskServes.answer hserves
      rw [htask]
      rfl
  | barcodeFound task imageProxy barcode barcodes bitmap now htask =>
    refine ⟨heffects, h.permission, ?_⟩
    intro hcomp hon
    apply (h.served hcomp hon).barcodeFound htask
    apply hguard hon
  | barcodeComplete task imageProxy answered htask =>
    refine ⟨heffects, h.permission, ?_⟩
    intro hcomp hon
    apply (h.served hcomp hon).finish
    rw [htask]
    rfl
  | textSuccess =>
    refine ⟨heffects, ?_, ?_⟩
    . intro hcomp
      exact (h.permission hcomp).imp_right fun hoff => ⟨hoff.1, rfl⟩
    . intro _ hon
      contradiction
  | textFailure task imageProxy htask =>
    refine ⟨heffects, h.permission, ?_⟩
    intro hcomp hon
    apply (h.served hcomp hon).finish
    rw [htask]
    rfl
  | objectSuccess =>
    refine ⟨heffects, ?_, ?_⟩
    . intro hcomp
      exact (h.permission hcomp).imp_right fun hoff => ⟨hoff.1, rfl⟩
    . intro _ hon
      contradiction
  | objectFailure task =>
    refine ⟨heffects, h.permission, ?_⟩
    intro _ hon
    apply State.Served.objectFailure (hguard hon)
  | enterComposition granted hcomp =>
    refine ⟨heffects, ?_, ?_⟩
    . intro _
      exact hguard.1
    . intro _ hon
      change s.homeViewModel.triggerCapture = true at hon
      apply State.Served.enter
      . exact h.effects.captureAbsent hcomp
      . exact h.effects.cameraAbsent hcomp
      . rcases hguard.1 with hpermission | ⟨_, hoff⟩
        . exact hpermission
        . rw [hon] at hoff
          contradiction
      . exact hon
      . exact hguard.2 hon
  | leaveComposition =>
    refine ⟨heffects, ?_, ?_⟩
    . intro hcontra
      contradiction
    . intro hcontra
      contradiction
  | _ => exact ⟨heffects, h.permission, h.served⟩

end

/-
A press in OBJECT mode before the preview shows its first picture: `previewView.bitmap` is null, the
block returns, and `triggerCapture` stays on with no capture in progress.
-/
def missingBitmap : List Event :=
  [
    .enterComposition true, .runCaptureEffect none, .runCameraEffect,
    .tabSelected "Object Detection", .collectSelectedTab, .collectAnalyzerType, .recompose,
    .runCameraEffect,
    .shutterClicked, .collectTriggerCapture, .recompose, .runCaptureEffect none, .runCameraEffect
  ]

theorem notWedged_of_meets (es : List Event) (h : Meets step KeepsCapture init es)
    : Always step NotWedged init es := by
  apply always_of_meets (I := CaptureServed) (G := KeepsCapture)
  . intro s hs
    exact hs.notWedged
  . intro s e s' hs hguard hstep
    apply hs.step hguard (Step.of_step hstep)
  . exact captureServed_init
  . exact h

def servedPress : List Event :=
  let launch : Launch := ⟨.object, true, 0⟩
  [
    .enterComposition false, .permissionResult true, .recompose, .runCaptureEffect none,
    .runCameraEffect, .tabSelected "Object Detection", .collectSelectedTab, .collectAnalyzerType,
    .recompose, .runCameraEffect, .shutterClicked, .collectTriggerCapture, .recompose,
    .runCaptureEffect (some ⟨0, 0, 0, 4, 4, by decide, by decide⟩), .runCameraEffect,
    .objectSuccess ⟨2, launch, .objects ⟨0, 0, 0, 4, 4, by decide, by decide⟩ 1⟩ [] none 1,
    .collectTriggerCapture, .recompose, .runCaptureEffect none, .runCameraEffect
  ]

theorem servedPress_notWedged : Always step NotWedged init servedPress := by
  apply notWedged_of_meets
  decide

theorem missingBitmap_wedged : ¬ Always step NotWedged init missingBitmap := by
  intro h
  have hrun : (exec step init missingBitmap).any fun s =>
      s.Settled ∧ s.homeViewModel.triggerCapture = true ∧ ¬ s.CaptureInProgress := by
    decide
  rw [Option.any_eq_true] at hrun
  rcases hrun with ⟨s, hexec, hs⟩
  simp only [decide_eq_true_eq] at hs
  have := (h.exec hexec hs.1).1 hs.2.1
  exact hs.2.2 this

end Camera
end MeeScanner
