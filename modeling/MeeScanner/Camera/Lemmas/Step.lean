import MeeScanner.Camera.Impl

/-!
This module contains the inversion of `Camera.step`: everything an event can do, one constructor for
each branch of the source.
-/

open Compose

namespace MeeScanner
namespace Camera

inductive Step (s : State) : Event → State → Prop where
  | documentTab (hcomp : s.inComposition) : Step s (.tabSelected "Document") s
  | tabSelected (tab : String) (hcomp : s.inComposition)
    : Step s (.tabSelected tab) { s with homeViewModel := s.homeViewModel.onTabSelected tab }
  | shutterIgnored (hcomp : s.inComposition) : Step s .shutterClicked s
  | shutterPressed (hcomp : s.inComposition)
    (htab : s.selectedTab = "Object Detection" ∨ s.selectedTab = "Text Analyzer")
    (hoff : s.homeViewModel.triggerCapture = false)
    : Step s .shutterClicked
        { s with homeViewModel := s.homeViewModel.onCaptureTrigger, presses := s.presses + 1 }
  | collectSelectedTab (hcomp : s.inComposition)
    : Step s .collectSelectedTab { s with selectedTab := s.homeViewModel.selectedTab }
  | collectAnalyzerType (hcomp : s.inComposition)
    : Step s .collectAnalyzerType { s with analyzerType := s.homeViewModel.selectedAnalyzer }
  | collectTriggerCapture (hcomp : s.inComposition)
    : Step s .collectTriggerCapture { s with triggerCapture := s.homeViewModel.triggerCapture }
  | recompose (hcomp : s.inComposition) : Step s .recompose s.composePreview
  | permissionResult (granted : Bool) (hcomp : s.inComposition)
    : Step s (.permissionResult granted) { s with hasCameraPermission := granted }
  | captureStarted (launch : Launch) (originalBitmap : Bitmap)
    (hscheduled : s.captureEffect.scheduled = some launch)
    (hlaunch : launch.triggerCapture = true ∧ launch.analyzerType = .object)
    : Step s (.runCaptureEffect (some originalBitmap))
        ({ s with captureEffect := s.captureEffect.ran }.process launch
          (.objects originalBitmap s.presses))
  | captureSkipped (launch : Launch) (bitmap : Option Bitmap)
    (hscheduled : s.captureEffect.scheduled = some launch)
    (hskip : launch.triggerCapture = true ∧ launch.analyzerType = .object → bitmap = none)
    : Step s (.runCaptureEffect bitmap) { s with captureEffect := s.captureEffect.ran }
  | cameraBound (launch : Launch) (hscheduled : s.cameraEffect.scheduled = some launch)
    : Step s .runCameraEffect
        {
          s with
          cameraEffect := s.cameraEffect.ran
          bound := some ⟨s.nextId, launch⟩
          nextId := s.nextId + 1
        }
  | frameQr (binding : Binding) (hbound : s.bound = some binding)
    (hready : ∀ f ∈ s.openFrames, f.binding ≠ binding.id)
    (hmode : binding.launch.analyzerType = .qr)
    : Step s (.frame true)
        ((s.receive binding).process binding.launch (.barcodes (s.imageProxy binding) false))
  | frameText (binding : Binding) (hbound : s.bound = some binding)
    (hready : ∀ f ∈ s.openFrames, f.binding ≠ binding.id)
    (hmode : binding.launch.analyzerType = .text ∧ binding.launch.triggerCapture = true)
    : Step s (.frame true)
        ((s.receive binding).process binding.launch (.text (s.imageProxy binding)))
  | frameKept (binding : Binding) (hbound : s.bound = some binding)
    (hready : ∀ f ∈ s.openFrames, f.binding ≠ binding.id)
    (hmode : binding.launch.analyzerType = .text ∧ binding.launch.triggerCapture = false)
    : Step s (.frame true) (s.receive binding)
  | frameClosed (binding : Binding) (hasMediaImage : Bool) (hbound : s.bound = some binding)
    (hready : ∀ f ∈ s.openFrames, f.binding ≠ binding.id)
    (hmode : hasMediaImage = true → binding.launch.analyzerType ≠ .qr
      ∧ binding.launch.analyzerType ≠ .text)
    : Step s (.frame hasMediaImage) ((s.receive binding).close (s.imageProxy binding))
  | barcodeEmpty (task : Task) (imageProxy : ImageProxy) (bitmap : Option Bitmap) (now : Int)
    (htask : task.recognition = .barcodes imageProxy false) (hmem : task ∈ s.tasks)
    : Step s (.barcodeSuccess task [] bitmap now) (s.answer task imageProxy)
  | barcodeFound (task : Task) (imageProxy : ImageProxy) (barcode : Option String)
    (barcodes : List (Option String)) (bitmap : Option Bitmap) (now : Int)
    (htask : task.recognition = .barcodes imageProxy false) (hmem : task ∈ s.tasks)
    : Step s (.barcodeSuccess task (barcode :: barcodes) bitmap now)
        ((s.answer task imageProxy).onScanResult (.qrResult (barcode.getD "") bitmap)
          (s.analyzerTypeOf task.launch.visit) now).unbindAll
  | barcodeComplete (task : Task) (imageProxy : ImageProxy) (answered : Bool)
    (htask : task.recognition = .barcodes imageProxy answered) (hmem : task ∈ s.tasks)
    : Step s (.barcodeComplete task) ((s.finish task).close imageProxy)
  | textSuccess (task : Task) (imageProxy : ImageProxy) (text : String) (bitmap : Option Bitmap)
    (now : Int) (htask : task.recognition = .text imageProxy) (hmem : task ∈ s.tasks)
    : Step s (.textSuccess task text bitmap now)
        ((((s.finish task).onScanResult (.textResult text bitmap)
          (s.analyzerTypeOf task.launch.visit) now).onCaptureCompleted).close imageProxy)
  | textFailure (task : Task) (imageProxy : ImageProxy)
    (htask : task.recognition = .text imageProxy) (hmem : task ∈ s.tasks)
    : Step s (.textFailure task) ((s.finish task).close imageProxy)
  | objectSuccess (task : Task) (originalBitmap : Bitmap) (press : Nat)
    (objects : List DetectedObject) (infos : List DetectedObjectInfo) (bitmap : Option Bitmap)
    (now : Int) (htask : task.recognition = .objects originalBitmap press) (hmem : task ∈ s.tasks)
    (hinfos : detectedObjects originalBitmap objects = some infos)
    : Step s (.objectSuccess task objects bitmap now)
        ((s.finish task).onScanResult (.objectResult bitmap infos)
          (s.analyzerTypeOf task.launch.visit) now).onCaptureCompleted
  | objectFailure (task : Task) (originalBitmap : Bitmap) (press : Nat)
    (htask : task.recognition = .objects originalBitmap press) (hmem : task ∈ s.tasks)
    : Step s (.objectFailure task) (s.finish task)
  | documentResult (result : DocumentScanResult) (now : Int)
    : Step s (.documentResult result now) (s.documentResult result now)
  | enterComposition (granted : Bool) (hcomp : s.inComposition = false)
    : Step s (.enterComposition granted)
        {
          s with
          inComposition := true
          hasCameraPermission := granted
          selectedTab := s.homeViewModel.selectedTab
          analyzerType := s.homeViewModel.selectedAnalyzer
          triggerCapture := s.homeViewModel.triggerCapture
        }.composePreview
  | leaveComposition (hcomp : s.inComposition)
    : Step s .leaveComposition
        {
          s with
          inComposition := false
          pastAnalyzerTypes := s.pastAnalyzerTypes ++ [s.analyzerType]
          captureEffect := .absent
          cameraEffect := .absent
        }

variable {s s' : State}

theorem Step.of_tabSelected {tab : String} (h : s.tabSelected tab = some s')
    : Step s (.tabSelected tab) s' := by
  unfold State.tabSelected at h
  split at h
  . next hcomp =>
    split at h
    . next htab =>
      injection h with h
      subst h htab
      apply Step.documentTab hcomp.1
    . injection h with h
      subst h
      apply Step.tabSelected tab hcomp.1
  . contradiction

theorem Step.of_shutterClicked (h : s.shutterClicked = some s') : Step s .shutterClicked s' := by
  unfold State.shutterClicked at h
  split at h
  . next hcomp =>
    split at h
    . next htab =>
      injection h with h
      subst h
      cases htrigger : s.homeViewModel.triggerCapture with
      | false =>
        simp only [Bool.false_eq_true, ↓reduceIte]
        apply Step.shutterPressed hcomp htab htrigger
      | true =>
        have hsame : s.homeViewModel.onCaptureTrigger = s.homeViewModel := by
          simp [HomeViewModel.onCaptureTrigger, ← htrigger]
        simp only [↓reduceIte, hsame]
        apply Step.shutterIgnored hcomp
    . injection h with h
      subst h
      apply Step.shutterIgnored hcomp
  . contradiction

theorem Step.of_runCaptureEffect {bitmap : Option Bitmap}
    (h : s.runCaptureEffect bitmap = some s') : Step s (.runCaptureEffect bitmap) s' := by
  unfold State.runCaptureEffect at h
  split at h
  . contradiction
  . next launch hscheduled =>
    dsimp only at h
    split at h
    . next hlaunch =>
      cases bitmap with
      | none =>
        injection h with h
        subst h
        apply Step.captureSkipped launch none hscheduled
        simp
      | some originalBitmap =>
        injection h with h
        subst h
        apply Step.captureStarted launch originalBitmap hscheduled hlaunch
    . next hlaunch =>
      injection h with h
      subst h
      apply Step.captureSkipped launch bitmap hscheduled
      intro hcontra
      contradiction

theorem Step.of_runCameraEffect (h : s.runCameraEffect = some s')
    : Step s .runCameraEffect s' := by
  unfold State.runCameraEffect at h
  split at h
  . contradiction
  . next launch hscheduled =>
    injection h with h
    subst h
    apply Step.cameraBound launch hscheduled

theorem Step.of_frame {hasMediaImage : Bool} (h : s.frame hasMediaImage = some s')
    : Step s (.frame hasMediaImage) s' := by
  unfold State.frame at h
  split at h
  . contradiction
  . next binding hbound =>
    split at h
    . next hall =>
      have hready : ∀ f ∈ s.openFrames, f.binding ≠ binding.id := by simpa using hall
      injection h with h
      subst h
      unfold State.analyze
      split
      . next himage =>
        subst himage
        cases hmode : binding.launch.analyzerType with
        | qr => apply Step.frameQr binding hbound hready hmode
        | text =>
          cases htrigger : binding.launch.triggerCapture with
          | true =>
            simp only [↓reduceIte]
            apply Step.frameText binding hbound hready ⟨hmode, htrigger⟩
          | false =>
            simp only [Bool.false_eq_true, ↓reduceIte]
            apply Step.frameKept binding hbound hready ⟨hmode, htrigger⟩
        | object => apply Step.frameClosed binding true hbound hready (by simp [hmode])
        | document => apply Step.frameClosed binding true hbound hready (by simp [hmode])
        | photo => apply Step.frameClosed binding true hbound hready (by simp [hmode])
      . next himage =>
        apply Step.frameClosed binding hasMediaImage hbound hready
        intro hcontra
        contradiction
    . contradiction

theorem Step.of_barcodeSuccess {task : Task} {barcodes : List (Option String)}
    {bitmap : Option Bitmap} {now : Int}
    (h : s.barcodeSuccess task barcodes bitmap now = some s')
    : Step s (.barcodeSuccess task barcodes bitmap now) s' := by
  unfold State.barcodeSuccess at h
  split at h
  . next imageProxy htask =>
    split at h
    . next hmem =>
      cases barcodes with
      | nil =>
        injection h with h
        subst h
        apply Step.barcodeEmpty task imageProxy bitmap now htask hmem
      | cons barcode barcodes =>
        injection h with h
        subst h
        apply Step.barcodeFound task imageProxy barcode barcodes bitmap now htask hmem
    . contradiction
  . contradiction

theorem Step.of_barcodeComplete {task : Task} (h : s.barcodeComplete task = some s')
    : Step s (.barcodeComplete task) s' := by
  unfold State.barcodeComplete at h
  split at h
  . next imageProxy answered htask =>
    split at h
    . next hmem =>
      injection h with h
      subst h
      apply Step.barcodeComplete task imageProxy answered htask hmem
    . contradiction
  . contradiction

theorem Step.of_textSuccess {task : Task} {text : String} {bitmap : Option Bitmap} {now : Int}
    (h : s.textSuccess task text bitmap now = some s')
    : Step s (.textSuccess task text bitmap now) s' := by
  unfold State.textSuccess at h
  split at h
  . next imageProxy htask =>
    split at h
    . next hmem =>
      injection h with h
      subst h
      apply Step.textSuccess task imageProxy text bitmap now htask hmem
    . contradiction
  . contradiction

theorem Step.of_textFailure {task : Task} (h : s.textFailure task = some s')
    : Step s (.textFailure task) s' := by
  unfold State.textFailure at h
  split at h
  . next imageProxy htask =>
    split at h
    . next hmem =>
      injection h with h
      subst h
      apply Step.textFailure task imageProxy htask hmem
    . contradiction
  . contradiction

theorem Step.of_objectSuccess {task : Task} {objects : List DetectedObject}
    {bitmap : Option Bitmap} {now : Int} (h : s.objectSuccess task objects bitmap now = some s')
    : Step s (.objectSuccess task objects bitmap now) s' := by
  unfold State.objectSuccess at h
  split at h
  . next originalBitmap press htask =>
    split at h
    . next hmem =>
      split at h
      . contradiction
      . next infos hinfos =>
        injection h with h
        subst h
        apply Step.objectSuccess task originalBitmap press objects infos bitmap now htask hmem
          hinfos
    . contradiction
  . contradiction

theorem Step.of_objectFailure {task : Task} (h : s.objectFailure task = some s')
    : Step s (.objectFailure task) s' := by
  unfold State.objectFailure at h
  split at h
  . next originalBitmap press htask =>
    split at h
    . next hmem =>
      injection h with h
      subst h
      apply Step.objectFailure task originalBitmap press htask hmem
    . contradiction
  . contradiction

theorem Step.of_enterComposition {granted : Bool} (h : s.enterComposition granted = some s')
    : Step s (.enterComposition granted) s' := by
  unfold State.enterComposition at h
  split at h
  . contradiction
  . next hcomp =>
    injection h with h
    subst h
    apply Step.enterComposition granted
    simpa using hcomp

theorem Step.of_leaveComposition (h : s.leaveComposition = some s')
    : Step s .leaveComposition s' := by
  unfold State.leaveComposition at h
  split at h
  . next hcomp =>
    injection h with h
    subst h
    apply Step.leaveComposition hcomp
  . contradiction

theorem Step.of_step {e : Event} (h : step s e = some s') : Step s e s' := by
  cases e with
  | tabSelected tab => apply Step.of_tabSelected h
  | shutterClicked => apply Step.of_shutterClicked h
  | collectSelectedTab =>
    simp only [step, Option.ite_none_right_eq_some, Option.some.injEq] at h
    exact h.2 ▸ .collectSelectedTab h.1
  | collectAnalyzerType =>
    simp only [step, Option.ite_none_right_eq_some, Option.some.injEq] at h
    exact h.2 ▸ .collectAnalyzerType h.1
  | collectTriggerCapture =>
    simp only [step, Option.ite_none_right_eq_some, Option.some.injEq] at h
    exact h.2 ▸ .collectTriggerCapture h.1
  | recompose =>
    simp only [step, Option.ite_none_right_eq_some, Option.some.injEq] at h
    exact h.2 ▸ .recompose h.1
  | permissionResult granted =>
    simp only [step, Option.ite_none_right_eq_some, Option.some.injEq] at h
    exact h.2 ▸ .permissionResult granted h.1
  | runCaptureEffect bitmap => apply Step.of_runCaptureEffect h
  | runCameraEffect => apply Step.of_runCameraEffect h
  | frame hasMediaImage => apply Step.of_frame h
  | barcodeSuccess task barcodes bitmap now => apply Step.of_barcodeSuccess h
  | barcodeComplete task => apply Step.of_barcodeComplete h
  | textSuccess task text bitmap now => apply Step.of_textSuccess h
  | textFailure task => apply Step.of_textFailure h
  | objectSuccess task objects bitmap now => apply Step.of_objectSuccess h
  | objectFailure task => apply Step.of_objectFailure h
  | documentResult result now =>
    simp only [step, Option.some.injEq] at h
    exact h ▸ .documentResult result now
  | enterComposition granted => apply Step.of_enterComposition h
  | leaveComposition => apply Step.of_leaveComposition h

end Camera
end MeeScanner
