import MeeScanner.Compose
import MeeScanner.Transition
import MeeScanner.Home.ObjectCapture
import MeeScanner.Home.ViewModel
import MeeScanner.History.UseCase

/-!
This module contains the camera pipeline of the Android Home screen: `HomeViewModel`, the copies of
its flows that `HomeScreen` collects, the two effects of `CameraPreview`, the analyzer that is bound
to the camera, the frames and the recogniser tasks, and the scans that reach `App`.

Every main thread entry is one `Event`. What code outside of this repository decides is data of the
event: a frame and its media image, what a recogniser finds, the bitmap that the preview returns at
that moment (`none` for null) and the clock. The camera hands an analyzer its next frame when the
frame before was closed, and none after `unbindAll`. Started tasks answer at any later time, also
when Home has left the composition. The binding follows the lifecycle of Home's entry, which stops
the frames while Home is stopped; here they may come at any time while the camera is bound, so that
the runs of the source are some of these.
-/

open Compose

namespace MeeScanner
namespace Camera

-- What the effects and listeners of one launch captured. `visit` tells apart the compositions of
-- HomeScreen, each has its own `onScanResult` lambda over its own `analyzerType` state.
structure Launch where
  analyzerType : AnalyzerType
  triggerCapture : Bool
  visit : Nat
  deriving DecidableEq, Repr

structure Binding where
  id : Nat
  launch : Launch
  deriving DecidableEq, Repr

structure ImageProxy where
  id : Nat
  binding : Nat
  deriving DecidableEq, Repr

inductive Recognition where
  | barcodes (imageProxy : ImageProxy) (answered : Bool)
  | text (imageProxy : ImageProxy)
  | objects (originalBitmap : Bitmap) (press : Nat)
  deriving DecidableEq, Repr

structure Task where
  id : Nat
  launch : Launch
  recognition : Recognition
  deriving DecidableEq, Repr

structure Scan where
  result : ScanResult
  row : ScanHistoryEntity
  visit : Option Nat
  deriving DecidableEq, Repr

structure State where
  homeViewModel : HomeViewModel := {}
  inComposition : Bool := false
  hasCameraPermission : Bool := false
  selectedTab : String := "QR Scanner"
  analyzerType : AnalyzerType := .qr
  triggerCapture : Bool := false
  pastAnalyzerTypes : List AnalyzerType := []
  captureEffect : LaunchedEffect Bool Launch := .absent
  cameraEffect : LaunchedEffect (AnalyzerType × Bool) Launch := .absent
  bound : Option Binding := none
  openFrames : List ImageProxy := []
  closedFrames : List ImageProxy := []
  tasks : List Task := []
  nextId : Nat := 0
  scans : List Scan := []
  presses : Nat := 0
  deriving DecidableEq, Repr

inductive Event where
  | tabSelected (tab : String)
  | shutterClicked
  | collectSelectedTab
  | collectAnalyzerType
  | collectTriggerCapture
  | recompose
  | permissionResult (granted : Bool)
  | runCaptureEffect (bitmap : Option Bitmap)
  | runCameraEffect
  | frame (hasMediaImage : Bool)
  | barcodeSuccess (task : Task) (barcodes : List (Option String)) (bitmap : Option Bitmap)
      (now : Int)
  | barcodeComplete (task : Task)
  | textSuccess (task : Task) (text : String) (bitmap : Option Bitmap) (now : Int)
  | textFailure (task : Task)
  | objectSuccess (task : Task) (objects : List DetectedObject) (bitmap : Option Bitmap)
      (now : Int)
  | objectFailure (task : Task)
  | documentResult (result : DocumentScanResult) (now : Int)
  | enterComposition (granted : Bool)
  | leaveComposition
  deriving DecidableEq, Repr

namespace State

def visit (s : State) : Nat := s.pastAnalyzerTypes.length

def currentVisit (s : State) : Option Nat := if s.inComposition then some s.visit else none

-- The `analyzerType` state of an earlier composition keeps its last value.
def analyzerTypeOf (s : State) (visit : Nat) : AnalyzerType :=
  s.pastAnalyzerTypes[visit]?.getD s.analyzerType

-- App's lambda: setResult, storeResult and navigate.
def onScanResult (s : State) (result : ScanResult) (analyzerType : AnalyzerType) (now : Int)
    : State :=
  let row := ScanHistoryUseCase.saveHistory result analyzerType now
  { s with scans := s.scans ++ [⟨result, row, s.currentVisit⟩] }

def onCaptureCompleted (s : State) : State :=
  { s with homeViewModel := s.homeViewModel.onCaptureCompleted }

def unbindAll (s : State) : State := { s with bound := none }

def close (s : State) (imageProxy : ImageProxy) : State :=
  {
    s with
    openFrames := s.openFrames.erase imageProxy
    closedFrames := s.closedFrames ++ [imageProxy]
  }

def process (s : State) (launch : Launch) (recognition : Recognition) : State :=
  { s with tasks := s.tasks ++ [⟨s.nextId, launch, recognition⟩], nextId := s.nextId + 1 }

def finish (s : State) (task : Task) : State := { s with tasks := s.tasks.erase task }

def imageProxy (s : State) (binding : Binding) : ImageProxy := ⟨s.nextId, binding.id⟩

def receive (s : State) (binding : Binding) : State :=
  { s with openFrames := s.openFrames ++ [s.imageProxy binding], nextId := s.nextId + 1 }

def answer (s : State) (task : Task) (imageProxy : ImageProxy) : State :=
  { s with tasks := { task with recognition := .barcodes imageProxy true } :: s.tasks.erase task }

def composePreview (s : State) : State :=
  let launch : Launch := ⟨s.analyzerType, s.triggerCapture, s.visit⟩
  {
    s with
    captureEffect :=
      if s.hasCameraPermission then
        s.captureEffect.compose s.triggerCapture launch
      else
        .absent
    cameraEffect :=
      if s.hasCameraPermission then
        s.cameraEffect.compose (s.analyzerType, s.triggerCapture) launch
      else
        .absent
  }

def tabSelected (s : State) (tab : String) : Option State :=
  if s.inComposition ∧ tab ∈ HomeScreen.tabs then
    if tab = "Document" then
      -- The document scanner's own flag, see `Document`.
      some s
    else
      some { s with homeViewModel := s.homeViewModel.onTabSelected tab }
  else
    none

def shutterClicked (s : State) : Option State :=
  if s.inComposition then
    if s.selectedTab = "Object Detection" ∨ s.selectedTab = "Text Analyzer" then
      some {
        s with
        homeViewModel := s.homeViewModel.onCaptureTrigger
        presses := if s.homeViewModel.triggerCapture then s.presses else s.presses + 1
      }
    else
      some s
  else
    none

def runCaptureEffect (s : State) (bitmap : Option Bitmap) : Option State :=
  match s.captureEffect.scheduled with
  | none => none
  | some launch =>
    let s := { s with captureEffect := s.captureEffect.ran }
    if launch.triggerCapture ∧ launch.analyzerType = .object then
      match bitmap with
      | none => some s
      | some originalBitmap => some (s.process launch (.objects originalBitmap s.presses))
    else
      some s

def runCameraEffect (s : State) : Option State :=
  match s.cameraEffect.scheduled with
  | none => none
  | some launch =>
    some {
      s with
      cameraEffect := s.cameraEffect.ran
      bound := some ⟨s.nextId, launch⟩
      nextId := s.nextId + 1
    }

def analyze (s : State) (launch : Launch) (imageProxy : ImageProxy) (hasMediaImage : Bool)
    : State :=
  if hasMediaImage then
    match launch.analyzerType with
    | .qr => s.process launch (.barcodes imageProxy false)
    | .object => s.close imageProxy
    | .text =>
      if launch.triggerCapture then
        s.process launch (.text imageProxy)
      else
        -- No branch closes the frame here.
        s
    | .document => s.close imageProxy
    | .photo => s.close imageProxy
  else
    s.close imageProxy

def frame (s : State) (hasMediaImage : Bool) : Option State :=
  match s.bound with
  | none => none
  | some binding =>
    if s.openFrames.all (·.binding ≠ binding.id) then
      some ((s.receive binding).analyze binding.launch (s.imageProxy binding) hasMediaImage)
    else
      none

-- The success listener runs before the complete listener, other entries can come between the two.
def barcodeSuccess (s : State) (task : Task) (barcodes : List (Option String))
    (bitmap : Option Bitmap) (now : Int) : Option State :=
  match task.recognition with
  | .barcodes imageProxy false =>
    if task ∈ s.tasks then
      let s := s.answer task imageProxy
      match barcodes with
      | [] => some s
      | barcode :: _ =>
        let result := .qrResult (barcode.getD "") bitmap
        some (s.onScanResult result (s.analyzerTypeOf task.launch.visit) now).unbindAll
    else
      none
  | _ => none

-- A task that failed has no answer, only its complete listener runs.
def barcodeComplete (s : State) (task : Task) : Option State :=
  match task.recognition with
  | .barcodes imageProxy _ =>
    if task ∈ s.tasks then
      some ((s.finish task).close imageProxy)
    else
      none
  | _ => none

def textSuccess (s : State) (task : Task) (text : String) (bitmap : Option Bitmap) (now : Int)
    : Option State :=
  match task.recognition with
  | .text imageProxy =>
    if task ∈ s.tasks then
      let s := s.finish task
      let s := s.onScanResult (.textResult text bitmap) (s.analyzerTypeOf task.launch.visit) now
      some (s.onCaptureCompleted.close imageProxy)
    else
      none
  | _ => none

def textFailure (s : State) (task : Task) : Option State :=
  match task.recognition with
  | .text imageProxy =>
    if task ∈ s.tasks then
      some ((s.finish task).close imageProxy)
    else
      none
  | _ => none

def objectSuccess (s : State) (task : Task) (objects : List DetectedObject)
    (bitmap : Option Bitmap) (now : Int) : Option State :=
  match task.recognition with
  | .objects originalBitmap _ =>
    if task ∈ s.tasks then
      match detectedObjects originalBitmap objects with
      | none => none
      | some infos =>
        let s := s.finish task
        let result := .objectResult bitmap infos
        some (s.onScanResult result (s.analyzerTypeOf task.launch.visit) now).onCaptureCompleted
    else
      none
  | _ => none

-- The detector has no failure listener.
def objectFailure (s : State) (task : Task) : Option State :=
  match task.recognition with
  | .objects _ _ => if task ∈ s.tasks then some (s.finish task) else none
  | _ => none

def documentResult (s : State) (result : DocumentScanResult) (now : Int) : State :=
  s.onScanResult (.documentResult result.pageCount result.pdfUri result.pages) .document now

def enterComposition (s : State) (granted : Bool) : Option State :=
  if s.inComposition then
    none
  else
    some {
      s with
      inComposition := true
      hasCameraPermission := granted
      selectedTab := s.homeViewModel.selectedTab
      analyzerType := s.homeViewModel.selectedAnalyzer
      triggerCapture := s.homeViewModel.triggerCapture
    }.composePreview

def leaveComposition (s : State) : Option State :=
  if s.inComposition then
    some {
      s with
      inComposition := false
      pastAnalyzerTypes := s.pastAnalyzerTypes ++ [s.analyzerType]
      captureEffect := .absent
      cameraEffect := .absent
    }
  else
    none

end State

def init : State := {}

def step (s : State) : Event → Option State
  | .tabSelected tab => s.tabSelected tab
  | .shutterClicked => s.shutterClicked
  | .collectSelectedTab =>
    if s.inComposition then some { s with selectedTab := s.homeViewModel.selectedTab } else none
  | .collectAnalyzerType =>
    if s.inComposition then
      some { s with analyzerType := s.homeViewModel.selectedAnalyzer }
    else
      none
  | .collectTriggerCapture =>
    if s.inComposition then
      some { s with triggerCapture := s.homeViewModel.triggerCapture }
    else
      none
  | .recompose => if s.inComposition then some s.composePreview else none
  | .permissionResult granted =>
    if s.inComposition then some { s with hasCameraPermission := granted } else none
  | .runCaptureEffect bitmap => s.runCaptureEffect bitmap
  | .runCameraEffect => s.runCameraEffect
  | .frame hasMediaImage => s.frame hasMediaImage
  | .barcodeSuccess task barcodes bitmap now => s.barcodeSuccess task barcodes bitmap now
  | .barcodeComplete task => s.barcodeComplete task
  | .textSuccess task text bitmap now => s.textSuccess task text bitmap now
  | .textFailure task => s.textFailure task
  | .objectSuccess task objects bitmap now => s.objectSuccess task objects bitmap now
  | .objectFailure task => s.objectFailure task
  | .documentResult result now => some (s.documentResult result now)
  | .enterComposition granted => s.enterComposition granted
  | .leaveComposition => s.leaveComposition

end Camera
end MeeScanner
