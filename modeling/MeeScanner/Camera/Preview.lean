import MeeScanner.Camera.Lemmas.Step
import MeeScanner.Home.Crop

/-!
This module contains the camera pipeline together with the preview that it takes its bitmaps from.
The preview changes at any time: it shows another picture, has another size, or has none to give.
Every bitmap that the pipeline reads is the one of that moment, the detector works on the one that
was read when it was started. `previewView.bitmap` makes a new object on each read: what is compared
are the pictures, so two reads agree as long as the preview has not changed in between.
-/

open Transition

namespace MeeScanner
namespace Preview

open Camera (Task)

structure State where
  camera : Camera.State := {}
  bitmap : Option Bitmap := none
  deriving DecidableEq, Repr

inductive Event where
  | changed (bitmap : Option Bitmap)
  | camera (event : Camera.Event)
  deriving DecidableEq, Repr

def bitmapRead : Camera.Event → Option (Option Bitmap)
  | .runCaptureEffect bitmap => some bitmap
  | .barcodeSuccess _ _ bitmap _ => some bitmap
  | .textSuccess _ _ bitmap _ => some bitmap
  | .objectSuccess _ _ bitmap _ => some bitmap
  | _ => none

def init : State := {}

def step (s : State) : Event → Option State
  | .changed bitmap => some { s with bitmap := bitmap }
  | .camera event =>
    if ∀ bitmap ∈ bitmapRead event, bitmap = s.bitmap then
      (Camera.step s.camera event).map fun camera => { s with camera := camera }
    else
      none

-- The object result that an answer delivers, with the bitmap the detector was run on.
def delivered (_ : State) : Event → State → List (Bitmap × ScanResult)
  | .camera (.objectSuccess task ..), s' =>
    match task.recognition with
    | .objects originalBitmap _ =>
      (s'.camera.scans.getLast?.map fun scan => (originalBitmap, scan.result)).toList
    | _ => []
  | _, _ => []

structure InFrame (frame : Bitmap) (info : DetectedObjectInfo) : Prop where
  left : 0 ≤ info.boundingLeft ∧ info.boundingLeft ≤ frame.width
  top : 0 ≤ info.boundingTop ∧ info.boundingTop ≤ frame.height
  right : 0 ≤ info.boundingRight ∧ info.boundingRight ≤ frame.width
  bottom : 0 ≤ info.boundingBottom ∧ info.boundingBottom ≤ frame.height
  image : ∀ crop ∈ info.croppedImage,
    frame.createBitmap info.boundingLeft info.boundingTop info.width info.height = some crop

def OwnFrame : Bitmap × ScanResult → Prop
  | (originalBitmap, .objectResult frame objects) =>
    frame = some originalBitmap ∧ ∀ bitmap ∈ frame, ∀ info ∈ objects, InFrame bitmap info
  | _ => False

instance (frame : Bitmap) : DecidablePred (InFrame frame) := fun info =>
  decidable_of_iff
    ((0 ≤ info.boundingLeft ∧ info.boundingLeft ≤ frame.width)
      ∧ (0 ≤ info.boundingTop ∧ info.boundingTop ≤ frame.height)
      ∧ (0 ≤ info.boundingRight ∧ info.boundingRight ≤ frame.width)
      ∧ (0 ≤ info.boundingBottom ∧ info.boundingBottom ≤ frame.height)
      ∧ ∀ crop ∈ info.croppedImage,
          frame.createBitmap info.boundingLeft info.boundingTop info.width info.height = some crop)
    ⟨fun h => ⟨h.1, h.2.1, h.2.2.1, h.2.2.2.1, h.2.2.2.2⟩,
      fun h => ⟨h.left, h.top, h.right, h.bottom, h.image⟩⟩

instance : DecidablePred OwnFrame := by
  intro o
  unfold OwnFrame
  split <;> infer_instance

-- When a detector answers, the preview shows what it was run on.
def AnswersInFrame (s : State) : Event → Prop
  | .camera (.objectSuccess task ..) => ∀ originalBitmap press,
      task.recognition = .objects originalBitmap press → s.bitmap = some originalBitmap
  | _ => True

theorem inFrame_of_coerced {bitmap : Bitmap} {obj : DetectedObject} {info : DetectedObjectInfo}
    (h : Coerced bitmap obj info) : InFrame bitmap info := by
  have hbounds := h.bounds
  refine ⟨hbounds.1.1, hbounds.1.2, hbounds.2.1, hbounds.2.2, ?_⟩
  intro crop hcrop
  exact h.createBitmap hcrop

theorem inFrame_of_detected {bitmap : Bitmap} {objects : List DetectedObject}
    {infos : List DetectedObjectInfo} (h : detectedObjects bitmap objects = some infos)
    : ∀ info ∈ infos, InFrame bitmap info := by
  rcases detectedObjects_coerced bitmap objects with ⟨infos', hinfos, hall⟩
  rw [h, Option.some.injEq] at hinfos
  subst hinfos
  have hinside : List.Forall₂ (fun info obj => InFrame bitmap info ∧ Coerced bitmap obj info)
      infos objects := by
    apply hall.flip.imp
    intro info obj hcoerced
    exact ⟨inFrame_of_coerced hcoerced, hcoerced⟩
  rw [List.forall₂_and_left] at hinside
  exact hinside.1

section

variable {s s' : State} {e : Event}

theorem delivered_objectSuccess {task : Task} {objects : List DetectedObject}
    {bitmap : Option Bitmap} {now : Int}
    (h : step s (.camera (.objectSuccess task objects bitmap now)) = some s')
    : ∃ originalBitmap press infos, task.recognition = .objects originalBitmap press
        ∧ detectedObjects originalBitmap objects = some infos
        ∧ delivered s (.camera (.objectSuccess task objects bitmap now)) s'
          = [(originalBitmap, .objectResult s.bitmap infos)] := by
  simp only [step, Option.ite_none_right_eq_some, Option.map_eq_some_iff] at h
  rcases h with ⟨hread, camera, hcamera, rfl⟩
  have hbitmap : bitmap = s.bitmap := hread bitmap rfl
  cases Camera.Step.of_step hcamera with
  | objectSuccess _ originalBitmap press _ infos _ _ htask _ hinfos =>
    refine ⟨originalBitmap, press, infos, htask, hinfos, ?_⟩
    simp [delivered, htask, hbitmap, Camera.State.onScanResult, Camera.State.onCaptureCompleted]

theorem ownFrame_iff {originalBitmap : Bitmap} {objects : List DetectedObject}
    {infos : List DetectedObjectInfo} (h : detectedObjects originalBitmap objects = some infos)
    (frame : Option Bitmap)
    : OwnFrame (originalBitmap, .objectResult frame infos) ↔ frame = some originalBitmap := by
  constructor
  . intro hown
    exact hown.1
  . intro hframe
    refine ⟨hframe, ?_⟩
    intro bitmap hbitmap
    rw [hframe, Option.mem_some_iff] at hbitmap
    rw [← hbitmap]
    exact inFrame_of_detected h

theorem ownFrame_delivered_iff (h : step s e = some s')
    : (∀ o ∈ delivered s e s', OwnFrame o) ↔ AnswersInFrame s e := by
  cases e with
  | changed => simp [delivered, AnswersInFrame]
  | camera event =>
    cases event with
    | objectSuccess task objects bitmap now =>
      rcases delivered_objectSuccess h with ⟨originalBitmap, press, infos, htask, hinfos, hout⟩
      rw [hout, List.forall_mem_singleton, ownFrame_iff hinfos]
      simp [AnswersInFrame, htask]
    | _ => simp [delivered, AnswersInFrame]

end

theorem ownFrames_iff (es : List Event)
    : Always (logged step delivered) (fun p => ∀ o ∈ p.2, OwnFrame o) (init, []) es
        ↔
      Meets step AnswersInFrame init es := by
  apply always_shown_iff_meets (I := fun _ => True)
  . intro s e s' _ _
    trivial
  . intro s e s' _ hs'
    exact ownFrame_delivered_iff hs'
  . trivial

/-
The detector is run on picture 1, the preview has moved on to picture 2 when it answers.
-/
def movedOn : List Event :=
  let picture (k : Nat) : Option Bitmap := some ⟨k, 0, 0, 6, 5, by decide, by decide⟩
  [
    .camera (.enterComposition true), .camera (.tabSelected "Object Detection"),
    .camera .collectSelectedTab, .camera .collectAnalyzerType, .camera .recompose,
    .changed (picture 1), .camera .shutterClicked, .camera .collectTriggerCapture,
    .camera .recompose, .camera (.runCaptureEffect (picture 1)), .changed (picture 2),
    .camera (.objectSuccess
      ⟨0, ⟨.object, true, 0⟩, .objects ⟨1, 0, 0, 6, 5, by decide, by decide⟩ 1⟩
      [⟨⟨-1, 1, 2, 9⟩, [⟨"cup", 0⟩]⟩] (picture 2) 1)
  ]

theorem movedOn_other_frame
    : ¬ Always (logged step delivered) (fun p => ∀ o ∈ p.2, OwnFrame o) (init, []) movedOn := by
  apply not_always_of_any
  decide

end Preview
end MeeScanner
