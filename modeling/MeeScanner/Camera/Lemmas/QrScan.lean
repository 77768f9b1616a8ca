import MeeScanner.Camera.Lemmas.Frames

/-!
This module contains the budget of QR results in one visit of Home. A visit can still see a QR
result from each barcode task that has no answer, and from a QR analyzer that is bound and holds no
such task. A result is paid for by its task, and `unbindAll` takes the analyzer away.
-/

open Transition

namespace MeeScanner
namespace Camera

def Recognition.unanswered? : Recognition → Option ImageProxy
  | .barcodes imageProxy false => some imageProxy
  | _ => none

namespace State

def unanswered (s : State) : List ImageProxy := s.tasks.filterMap (·.recognition.unanswered?)

def qrResultsIn (s : State) (visit : Nat) : Nat :=
  s.scans.countP fun scan => scan.visit = some visit ∧ scan.result.isQr

def scanning (s : State) : Nat :=
  match s.bound with
  | none => 0
  | some binding =>
    if binding.launch.analyzerType = .qr ∧ ∀ f ∈ s.unanswered, f.binding ≠ binding.id then 1 else 0

variable (s : State)

theorem held_of_unanswered {f : ImageProxy} (hf : f ∈ s.unanswered) : f ∈ s.held := by
  simp only [unanswered, held, List.mem_filterMap] at hf ⊢
  rcases hf with ⟨task, hmem, htask⟩
  refine ⟨task, hmem, ?_⟩
  unfold Recognition.unanswered? at htask
  split at htask
  . next hrecognition =>
    rw [hrecognition]
    exact htask
  . contradiction

@[simp]
theorem unanswered_process (launch : Launch) (recognition : Recognition)
    : (s.process launch recognition).unanswered
        =
      s.unanswered ++ recognition.unanswered?.toList := by
  simp only [unanswered, process, List.filterMap_append, List.append_cancel_left_eq]
  cases h : recognition.unanswered? <;> simp [h]

theorem unanswered_process_none (launch : Launch) {recognition : Recognition}
    (hnone : recognition.unanswered? = none)
    : s.unanswered.Perm (s.process launch recognition).unanswered := by
  rw [unanswered_process, hnone]
  simp

theorem unanswered_answer_perm {task : Task} {imageProxy : ImageProxy} (hmem : task ∈ s.tasks)
    (htask : task.recognition = .barcodes imageProxy false)
    : s.unanswered.Perm (imageProxy :: (s.answer task imageProxy).unanswered) := by
  apply filterMap_perm_erase_some hmem
  rw [htask]
  rfl

theorem unanswered_finish_perm_some {task : Task} {imageProxy : ImageProxy} (hmem : task ∈ s.tasks)
    (htask : task.recognition.unanswered? = some imageProxy)
    : s.unanswered.Perm (imageProxy :: (s.finish task).unanswered) := by
  apply filterMap_perm_erase_some hmem htask

theorem unanswered_finish_perm_none {task : Task} (hmem : task ∈ s.tasks)
    (htask : task.recognition.unanswered? = none)
    : s.unanswered.Perm (s.finish task).unanswered := by
  apply filterMap_perm_erase_none hmem htask

theorem scanning_le_one : s.scanning ≤ 1 := by
  unfold scanning
  split
  . omega
  . split <;> omega

theorem scanning_of_none (h : s.bound = none) : s.scanning = 0 := by
  simp [scanning, h]

theorem scanning_of_not_qr {binding : Binding} (hbound : s.bound = some binding)
    (hmode : binding.launch.analyzerType ≠ .qr) : s.scanning = 0 := by
  simp [scanning, hbound, hmode]

theorem scanning_of_qr {binding : Binding} (hbound : s.bound = some binding)
    (hmode : binding.launch.analyzerType = .qr) (hfree : ∀ f ∈ s.unanswered, f.binding ≠ binding.id)
    : s.scanning = 1 := by
  simp only [scanning, hbound]
  rw [if_pos ⟨hmode, hfree⟩]

theorem scanning_of_busy {binding : Binding} (hbound : s.bound = some binding) {f : ImageProxy}
    (hmem : f ∈ s.unanswered) (hbusy : f.binding = binding.id) : s.scanning = 0 := by
  simp only [scanning, hbound, ite_eq_right_iff]
  intro h
  exact absurd hbusy (h.2 f hmem)

theorem qrResultsIn_onScanResult (result : ScanResult) (analyzerType : AnalyzerType) (now : Int)
    (visit : Nat)
    : (s.onScanResult result analyzerType now).qrResultsIn visit
        =
      s.qrResultsIn visit + if s.currentVisit = some visit ∧ result.isQr then 1 else 0 := by
  simp [qrResultsIn, onScanResult, List.countP_append, List.countP_singleton]

theorem visit_of_currentVisit {visit : Nat} (h : s.currentVisit = some visit)
    : visit = s.visit := by
  unfold currentVisit at h
  split at h
  . injection h with h
    omega
  . contradiction

end State

theorem scanning_congr {s s' : State} (hbound : s'.bound = s.bound)
    (hperm : s.unanswered.Perm s'.unanswered) : s'.scanning = s.scanning := by
  simp only [State.scanning, hbound, hperm.mem_iff]

def OneQrResultPerVisit (s : State) : Prop := ∀ visit, s.qrResultsIn visit ≤ 1

-- The camera effect binds a QR analyzer only where no earlier QR frame can still be answered and
-- none has been answered with a code in this visit.
def BindsQrOnce (s : State) : Event → Prop
  | .runCameraEffect => ∀ launch, s.cameraEffect.scheduled = some launch →
    launch.analyzerType = .qr → s.unanswered = [] ∧ s.qrResultsIn s.visit = 0
  | _ => True

instance (s : State) (e : Event) : Decidable (BindsQrOnce s e) := by
  unfold BindsQrOnce
  split
  . exact decidable_of_iff (s.cameraEffect.scheduled.all fun launch =>
      launch.analyzerType = .qr → s.unanswered = [] ∧ s.qrResultsIn s.visit = 0) (by
        simp only [Option.all_eq_true, decide_eq_true_eq])
  . infer_instance

def Tagged (s : State) : Prop := ∀ scan ∈ s.scans, ∀ visit, scan.visit = some visit → visit ≤ s.visit

structure QrBudget (s : State) : Prop where
  tagged : Tagged s
  once : ∀ visit, s.qrResultsIn visit ≤ 1
  budget : s.qrResultsIn s.visit + s.unanswered.length + s.scanning ≤ 1

theorem qrBudget_init : QrBudget init := by
  constructor <;> simp [init, Tagged, State.qrResultsIn, State.unanswered, State.scanning]

section

variable {s s' : State} {e : Event}

theorem Tagged.onScanResult (h : Tagged s) (result : ScanResult) (analyzerType : AnalyzerType)
    (now : Int) : Tagged (s.onScanResult result analyzerType now) := by
  intro scan hscan visit hvisit
  simp only [State.onScanResult, List.mem_append, List.mem_singleton] at hscan
  rcases hscan with hscan | rfl
  . apply h scan hscan visit hvisit
  . have := s.visit_of_currentVisit hvisit
    change visit ≤ s.visit
    omega

theorem qrResultsIn_onScanResult_other {result : ScanResult} (hresult : result.isQr = false)
    (analyzerType : AnalyzerType) (now : Int) (visit : Nat)
    : (s.onScanResult result analyzerType now).qrResultsIn visit = s.qrResultsIn visit := by
  rw [State.qrResultsIn_onScanResult]
  simp [hresult]

theorem qrResultsIn_congr (hscans : s'.scans = s.scans) (visit : Nat)
    : s'.qrResultsIn visit = s.qrResultsIn visit := by
  simp only [State.qrResultsIn, hscans]

theorem unanswered_congr (htasks : s'.tasks = s.tasks) : s'.unanswered = s.unanswered := by
  simp only [State.unanswered, htasks]

theorem QrBudget.congr (h : QrBudget s) (htagged : Tagged s')
    (hqr : ∀ visit, s'.qrResultsIn visit = s.qrResultsIn visit) (hvisit : s'.visit = s.visit)
    (hbound : s'.bound = s.bound) (hperm : s.unanswered.Perm s'.unanswered) : QrBudget s' := by
  constructor
  . exact htagged
  . intro visit
    rw [hqr]
    apply h.once
  . rw [hqr, hvisit, scanning_congr hbound hperm, ← hperm.length_eq]
    exact h.budget

theorem QrBudget.keep (h : QrBudget s) (hscans : s'.scans = s.scans) (hvisit : s'.visit = s.visit)
    (hbound : s'.bound = s.bound) (hperm : s.unanswered.Perm s'.unanswered) : QrBudget s' := by
  apply h.congr
  . unfold Tagged
    rw [hscans, hvisit]
    exact h.tagged
  . apply qrResultsIn_congr hscans
  . exact hvisit
  . exact hbound
  . exact hperm

theorem QrBudget.reported (h : QrBudget s) {result : ScanResult} (hresult : result.isQr = false)
    {analyzerType : AnalyzerType} {now : Int}
    (hscans : s'.scans = (s.onScanResult result analyzerType now).scans)
    (hvisit : s'.visit = s.visit) (hbound : s'.bound = s.bound)
    (hperm : s.unanswered.Perm s'.unanswered) : QrBudget s' := by
  apply h.congr
  . unfold Tagged
    rw [hscans, hvisit]
    exact h.tagged.onScanResult result analyzerType now
  . intro visit
    rw [qrResultsIn_congr hscans]
    apply qrResultsIn_onScanResult_other hresult
  . exact hvisit
  . exact hbound
  . exact hperm

theorem QrBudget.answered (h : QrBudget s) {imageProxy : ImageProxy} (hscans : s'.scans = s.scans)
    (hvisit : s'.visit = s.visit) (hperm : s.unanswered.Perm (imageProxy :: s'.unanswered))
    : QrBudget s' := by
  have hqr := qrResultsIn_congr hscans
  constructor
  . unfold Tagged
    rw [hscans, hvisit]
    exact h.tagged
  . intro visit
    rw [hqr]
    apply h.once
  . have := h.budget
    have := s'.scanning_le_one
    have := hperm.length_eq
    simp only [List.length_cons] at this
    rw [hqr, hvisit]
    omega

theorem QrBudget.found (h : QrBudget s) {task : Task} {imageProxy : ImageProxy}
    (htask : task.recognition = .barcodes imageProxy false) (hmem : task ∈ s.tasks)
    (rawValue : String) (bitmap : Option Bitmap) (analyzerType : AnalyzerType) (now : Int)
    : QrBudget ((s.answer task imageProxy).onScanResult (.qrResult rawValue bitmap) analyzerType
        now).unbindAll := by
  have hperm := (s.unanswered_answer_perm hmem htask).length_eq
  simp only [List.length_cons] at hperm
  have hbudget := h.budget
  have hqr := State.qrResultsIn_onScanResult (s.answer task imageProxy)
    (.qrResult rawValue bitmap) analyzerType now
  constructor
  . apply Tagged.onScanResult (s := s.answer task imageProxy)
    exact h.tagged
  . intro visit
    change State.qrResultsIn (State.onScanResult _ _ _ _) visit ≤ 1
    rw [hqr]
    change s.qrResultsIn visit + _ ≤ 1
    split
    . next hvisit =>
      have := s.visit_of_currentVisit hvisit.1
      subst this
      omega
    . apply h.once
  . rw [State.scanning_of_none _ rfl]
    change State.qrResultsIn (State.onScanResult _ _ _ _) s.visit
      + (s.answer task imageProxy).unanswered.length + 0 ≤ 1
    rw [hqr]
    change s.qrResultsIn s.visit + _ + _ + 0 ≤ 1
    split <;> omega

theorem QrBudget.frameQr (h : QrBudget s) (hframes : FramesHeld s) {binding : Binding}
    (hbound : s.bound = some binding) (hready : ∀ f ∈ s.openFrames, f.binding ≠ binding.id)
    (hmode : binding.launch.analyzerType = .qr)
    : QrBudget ((s.receive binding).process binding.launch
        (.barcodes (s.imageProxy binding) false)) := by
  have hfree : s.scanning = 1 := by
    apply s.scanning_of_qr hbound hmode
    intro f hf
    apply hready
    apply hframes.heldOpen
    apply s.held_of_unanswered hf
  have hbudget := h.budget
  constructor
  . exact h.tagged
  . exact h.once
  . have hlength : ((s.receive binding).process binding.launch
        (.barcodes (s.imageProxy binding) false)).unanswered.length = s.unanswered.length + 1 := by
      rw [State.unanswered_process]
      simp [State.unanswered, State.receive, Recognition.unanswered?]
    have hbusy : ((s.receive binding).process binding.launch
        (.barcodes (s.imageProxy binding) false)).scanning = 0 := by
      apply State.scanning_of_busy (f := s.imageProxy binding)
      . exact hbound
      . simp [Recognition.unanswered?]
      . rfl
    rw [hlength, hbusy]
    change s.qrResultsIn s.visit + (s.unanswered.length + 1) + 0 ≤ 1
    omega

theorem QrBudget.cameraBound (h : QrBudget s) {launch : Launch}
    (hguard : launch.analyzerType = .qr → s.unanswered = [] ∧ s.qrResultsIn s.visit = 0)
    (hbound : s'.bound = some ⟨s.nextId, launch⟩) (hscans : s'.scans = s.scans)
    (hvisit : s'.visit = s.visit) (htasks : s'.tasks = s.tasks) : QrBudget s' := by
  have hqr := qrResultsIn_congr hscans
  have hunanswered := unanswered_congr htasks
  constructor
  . unfold Tagged
    rw [hscans, hvisit]
    exact h.tagged
  . intro visit
    rw [hqr]
    apply h.once
  . rw [hqr, hvisit, hunanswered]
    have := h.budget
    by_cases hmode : launch.analyzerType = .qr
    . have := s'.scanning_le_one
      rcases hguard hmode with ⟨hempty, hzero⟩
      rw [hempty, hzero]
      simp only [List.length_nil]
      omega
    . rw [s'.scanning_of_not_qr hbound hmode]
      omega

theorem QrBudget.leave (h : QrBudget s) (hscans : s'.scans = s.scans)
    (hvisit : s'.visit = s.visit + 1) (hbound : s'.bound = s.bound) (htasks : s'.tasks = s.tasks)
    : QrBudget s' := by
  have hqr := qrResultsIn_congr hscans
  have hunanswered := unanswered_congr htasks
  have hnew : s.qrResultsIn (s.visit + 1) = 0 := by
    unfold State.qrResultsIn
    rw [List.countP_eq_zero]
    intro scan hscan hqr
    simp only [decide_eq_true_eq] at hqr
    have := h.tagged scan hscan _ hqr.1
    omega
  constructor
  . intro scan hscan visit hscanVisit
    rw [hscans] at hscan
    have := h.tagged scan hscan visit hscanVisit
    omega
  . intro visit
    rw [hqr]
    apply h.once
  . rw [hqr, hvisit, hnew, hunanswered, scanning_congr hbound (by rw [hunanswered])]
    have := h.budget
    omega

theorem QrBudget.step (h : QrBudget s) (hframes : FramesHeld s) (hguard : BindsQrOnce s e)
    (hs : Step s e s') : QrBudget s' := by
  cases hs with
  | captureStarted launch originalBitmap =>
    apply h.keep
    . rfl
    . rfl
    . rfl
    . apply State.unanswered_process_none
      rfl
  | cameraBound launch hscheduled =>
    apply h.cameraBound (hguard launch hscheduled) <;> rfl
  | frameQr _ hbound hready hmode => apply h.frameQr hframes hbound hready hmode
  | frameText binding =>
    apply h.keep
    . rfl
    . rfl
    . rfl
    . apply (s.receive binding).unanswered_process_none
      rfl
  | barcodeEmpty _ _ _ _ htask hmem =>
    apply h.answered
    . rfl
    . rfl
    . apply s.unanswered_answer_perm hmem htask
  | barcodeFound _ _ _ _ _ _ htask hmem => apply h.found htask hmem
  | barcodeComplete task imageProxy answered htask hmem =>
    cases answered with
    | false =>
      apply h.answered
      . rfl
      . rfl
      . apply s.unanswered_finish_perm_some hmem
        rw [htask]
        rfl
    | true =>
      apply h.keep
      . rfl
      . rfl
      . rfl
      . apply s.unanswered_finish_perm_none hmem
        rw [htask]
        rfl
  | textSuccess task _ text bitmap _ htask hmem =>
    apply h.reported
    . show (ScanResult.textResult text bitmap).isQr = false
      rfl
    . rfl
    . rfl
    . rfl
    . apply s.unanswered_finish_perm_none hmem
      rw [htask]
      rfl
  | textFailure task _ htask hmem =>
    apply h.keep
    . rfl
    . rfl
    . rfl
    . apply s.unanswered_finish_perm_none hmem
      rw [htask]
      rfl
  | objectSuccess task _ _ _ infos bitmap _ htask hmem =>
    apply h.reported
    . show (ScanResult.objectResult bitmap infos).isQr = false
      rfl
    . rfl
    . rfl
    . rfl
    . apply s.unanswered_finish_perm_none hmem
      rw [htask]
      rfl
  | objectFailure task _ _ htask hmem =>
    apply h.keep
    . rfl
    . rfl
    . rfl
    . apply s.unanswered_finish_perm_none hmem
      rw [htask]
      rfl
  | documentResult result =>
    apply h.reported
    . show (ScanResult.documentResult result.pageCount result.pdfUri result.pages).isQr = false
      rfl
    . rfl
    . rfl
    . rfl
    . exact List.Perm.refl _
  | leaveComposition =>
    apply h.leave
    . rfl
    . simp [State.visit]
    . rfl
    . rfl
  | _ => exact ⟨h.tagged, h.once, h.budget⟩

end

theorem oneQrResultPerVisit_of_meets (es : List Event) (h : Meets step BindsQrOnce init es)
    : Always step OneQrResultPerVisit init es := by
  apply always_of_meets (I := fun s => QrBudget s ∧ FramesHeld s) (G := BindsQrOnce)
  . intro s hs
    exact hs.1.once
  . intro s e s' hs hguard hstep
    have hstep := Step.of_step hstep
    exact ⟨hs.1.step hs.2 hguard hstep, hs.2.step hstep⟩
  . exact ⟨qrBudget_init, framesHeld_init⟩
  . exact h

def twoVisits : List Event :=
  [
    .enterComposition true, .runCaptureEffect none, .runCameraEffect, .frame true,
    .barcodeSuccess ⟨2, ⟨.qr, false, 0⟩, .barcodes ⟨1, 0⟩ false⟩ [some "tel:1"] none 1,
    .barcodeComplete ⟨2, ⟨.qr, false, 0⟩, .barcodes ⟨1, 0⟩ true⟩, .leaveComposition,
    .enterComposition true, .runCaptureEffect none, .runCameraEffect, .frame true,
    .barcodeSuccess ⟨5, ⟨.qr, false, 1⟩, .barcodes ⟨4, 3⟩ false⟩ [some "tel:1"] none 2
  ]

theorem twoVisits_oneQrResult : Always step OneQrResultPerVisit init twoVisits := by
  apply oneQrResultPerVisit_of_meets
  decide

/-
Two QR bindings of one visit, each with a frame at the scanner: the tab goes to Text Analyzer and
back, and the first answer unbinds the camera without stopping the second.
-/
def twoBindings : List Event :=
  let launch : Launch := ⟨.qr, false, 0⟩
  [
    .enterComposition true, .runCaptureEffect none, .runCameraEffect, .frame true,
    .tabSelected "Text Analyzer", .collectAnalyzerType, .recompose, .runCameraEffect,
    .tabSelected "QR Scanner", .collectAnalyzerType, .recompose, .runCameraEffect, .frame true,
    .barcodeSuccess ⟨2, launch, .barcodes ⟨1, 0⟩ false⟩ [some "tel:1"] none 1,
    .barcodeSuccess ⟨6, launch, .barcodes ⟨5, 4⟩ false⟩ [some "tel:1"] none 2
  ]

theorem twoBindings_two_results : ¬ Always step OneQrResultPerVisit init twoBindings := by
  intro h
  have hrun : (exec step init twoBindings).any fun s => s.qrResultsIn 0 = 2 := by
    decide
  rw [Option.any_eq_true] at hrun
  rcases hrun with ⟨s, hexec, hs⟩
  simp only [decide_eq_true_eq] at hs
  have := h.exec hexec 0
  omega

end Camera
end MeeScanner
