import MeeScanner.Camera.Lemmas.Step

/-!
This module contains the relation between the kind of a scan and the type its row is filed under.
The kind is fixed by the mode the recogniser was started in, the type is read when it answers.
-/

open Transition

namespace MeeScanner
namespace Camera

def RowsFiled (s : State) : Prop := ∀ scan ∈ s.scans, scan.row.scanType = scan.result.kind.name

instance : DecidablePred RowsFiled := fun s =>
  inferInstanceAs (Decidable (∀ scan ∈ s.scans, scan.row.scanType = scan.result.kind.name))

def Recognition.mode : Recognition → AnalyzerType
  | .barcodes .. => .qr
  | .text .. => .text
  | .objects .. => .object

def TasksInMode (s : State) : Prop :=
  ∀ task ∈ s.tasks, task.launch.analyzerType = task.recognition.mode

-- The state that the lambda of the answering task reads still has the mode of the task's launch.
def AnswersInMode (s : State) : Event → Prop
  | .barcodeSuccess task (_ :: _) .. =>
    s.analyzerTypeOf task.launch.visit = task.launch.analyzerType
  | .textSuccess task .. => s.analyzerTypeOf task.launch.visit = task.launch.analyzerType
  | .objectSuccess task .. => s.analyzerTypeOf task.launch.visit = task.launch.analyzerType
  | _ => True

section

variable {s s' : State} {e : Event}

theorem TasksInMode.process (h : TasksInMode s) {launch : Launch} {recognition : Recognition}
    (hmode : launch.analyzerType = recognition.mode)
    : TasksInMode (s.process launch recognition) := by
  intro task hmem
  simp only [State.process, List.mem_append, List.mem_singleton] at hmem
  rcases hmem with hmem | rfl
  . apply h task hmem
  . exact hmode

theorem TasksInMode.finish (h : TasksInMode s) (task : Task) : TasksInMode (s.finish task) := by
  intro other hmem
  apply h
  apply List.mem_of_mem_erase hmem

theorem TasksInMode.answer (h : TasksInMode s) {task : Task} {imageProxy : ImageProxy}
    (htask : task.recognition = .barcodes imageProxy false) (hmem : task ∈ s.tasks)
    : TasksInMode (s.answer task imageProxy) := by
  intro other hother
  simp only [State.answer, List.mem_cons] at hother
  rcases hother with rfl | hother
  . have := h task hmem
    rw [htask] at this
    exact this
  . apply h
    apply List.mem_of_mem_erase hother

theorem TasksInMode.step (h : TasksInMode s) (hs : Step s e s') : TasksInMode s' := by
  cases hs with
  | captureStarted _ _ _ hlaunch =>
    apply TasksInMode.process
    . exact h
    . exact hlaunch.2
  | frameQr _ _ _ hmode =>
    apply TasksInMode.process
    . exact h
    . exact hmode
  | frameText _ _ _ hmode =>
    apply TasksInMode.process
    . exact h
    . exact hmode.1
  | barcodeEmpty _ _ _ _ htask hmem => apply h.answer htask hmem
  | barcodeFound _ _ _ _ _ _ htask hmem => apply h.answer htask hmem
  | barcodeComplete task => apply h.finish task
  | textSuccess task => apply h.finish task
  | textFailure task => apply h.finish task
  | objectSuccess task => apply h.finish task
  | objectFailure task => apply h.finish task
  | _ => exact h

theorem RowsFiled.onScanResult (h : RowsFiled s) {result : ScanResult}
    {analyzerType : AnalyzerType} (hkind : analyzerType = result.kind) (now : Int)
    : RowsFiled (s.onScanResult result analyzerType now) := by
  intro scan hmem
  simp only [State.onScanResult, List.mem_append, List.mem_singleton] at hmem
  rcases hmem with hmem | rfl
  . apply h scan hmem
  . simp [hkind]

theorem not_rowsFiled_onScanResult {result : ScanResult} {analyzerType : AnalyzerType}
    (hkind : analyzerType ≠ result.kind) (now : Int)
    : ¬ RowsFiled (s.onScanResult result analyzerType now) := by
  intro h
  have hlast := h ⟨result, ScanHistoryUseCase.saveHistory result analyzerType now, s.currentVisit⟩
    (by simp [State.onScanResult])
  simp only [ScanHistoryUseCase.saveHistory_scanType, AnalyzerType.name_inj] at hlast
  contradiction

theorem mode_of_mem (h : TasksInMode s) {task : Task} (hmem : task ∈ s.tasks)
    {recognition : Recognition} (htask : task.recognition = recognition)
    : task.launch.analyzerType = recognition.mode := by
  rw [← htask]
  apply h task hmem

theorem RowsFiled.step (h : RowsFiled s) (htasks : TasksInMode s) (hguard : AnswersInMode s e)
    (hs : Step s e s') : RowsFiled s' := by
  cases hs with
  | barcodeFound _ _ _ _ _ _ htask hmem =>
    apply RowsFiled.onScanResult
    . exact h
    . exact hguard.trans (mode_of_mem htasks hmem htask)
  | textSuccess _ _ _ _ _ htask hmem =>
    apply RowsFiled.onScanResult
    . exact h
    . exact hguard.trans (mode_of_mem htasks hmem htask)
  | objectSuccess _ _ _ _ _ _ _ htask hmem =>
    apply RowsFiled.onScanResult
    . exact h
    . exact hguard.trans (mode_of_mem htasks hmem htask)
  | documentResult =>
    apply RowsFiled.onScanResult
    . exact h
    . rfl
  | _ => exact h

theorem RowsFiled.step_bad (htasks : TasksInMode s) (hguard : ¬ AnswersInMode s e)
    (hs : Step s e s') : ¬ RowsFiled s' := by
  cases hs with
  | barcodeFound _ _ _ _ _ _ htask hmem =>
    apply not_rowsFiled_onScanResult
    intro hkind
    exact hguard (hkind.trans (mode_of_mem htasks hmem htask).symm)
  | textSuccess _ _ _ _ _ htask hmem =>
    apply not_rowsFiled_onScanResult
    intro hkind
    exact hguard (hkind.trans (mode_of_mem htasks hmem htask).symm)
  | objectSuccess _ _ _ _ _ _ _ htask hmem =>
    apply not_rowsFiled_onScanResult
    intro hkind
    exact hguard (hkind.trans (mode_of_mem htasks hmem htask).symm)
  | _ => exact absurd trivial hguard

end

theorem rowsFiled_iff (es : List Event)
    : Always step RowsFiled init es ↔ Meets step AnswersInMode init es := by
  apply always_iff_meets (I := fun s => RowsFiled s ∧ TasksInMode s)
  . intro s h
    exact h.1
  . intro s e s' h hguard hs
    have hs := Step.of_step hs
    exact ⟨h.1.step h.2 hguard hs, h.2.step hs⟩
  . intro s e s' h hguard hs
    apply RowsFiled.step_bad h.2 hguard (Step.of_step hs)
  . constructor
    . intro scan hmem
      contradiction
    . intro task hmem
      contradiction

/-
A frame goes to the barcode scanner in QR mode, the tab changes to Text Analyzer, and the scanner
answers: the QR code is filed under TEXT.
-/
def lateBarcode : List Event :=
  [
    .enterComposition true, .runCaptureEffect none, .runCameraEffect, .frame true,
    .tabSelected "Text Analyzer", .collectSelectedTab, .collectAnalyzerType,
    .barcodeSuccess ⟨2, ⟨.qr, false, 0⟩, .barcodes ⟨1, 0⟩ false⟩ [some "upi://pay"] none 1
  ]

theorem lateBarcode_misfiled : ¬ Always step RowsFiled init lateBarcode := by
  apply not_always_of_any
  decide

end Camera
end MeeScanner
