import MeeScanner.Camera.Lemmas.Wedge
import MeeScanner.Reaches

/-!
This module contains the way back to scanning. Whatever state the camera pipeline got into, two
other tabs and one recognised text bring it to where it was started: the flag is off, and an
analyzer for QR codes is bound that waits for its first frame.
-/

open Compose Transition

namespace MeeScanner
namespace Camera

structure BindingsOld (s : State) : Prop where
  bound : ∀ binding, s.bound = some binding → binding.id < s.nextId
  frames : ∀ f ∈ s.openFrames, f.binding < s.nextId

namespace State

def entered (s : State) : State :=
  {
    s with
    inComposition := true
    hasCameraPermission := true
    selectedTab := s.homeViewModel.selectedTab
    analyzerType := s.homeViewModel.selectedAnalyzer
    triggerCapture := s.homeViewModel.triggerCapture
  }.composePreview

def ready (s : State) : Prop := ∀ f ∈ s.openFrames, ∀ binding, s.bound = some binding →
  f.binding ≠ binding.id

def selectTab (s : State) (tab : String) : State :=
  {
    s with
    homeViewModel := s.homeViewModel.onTabSelected tab
    selectedTab := tab
    analyzerType := HomeViewModel.analyzerOfTab tab
    triggerCapture := s.homeViewModel.triggerCapture
  }.composePreview

def showTab (s : State) (tab : String) : State :=
  let s := s.selectTab tab
  let launch : Launch := ⟨s.analyzerType, s.triggerCapture, s.visit⟩
  {
    s with
    captureEffect := s.captureEffect.ran
    cameraEffect := ⟨some (s.analyzerType, s.triggerCapture), none⟩
    bound := some ⟨s.nextId, launch⟩
    nextId := s.nextId + 1
  }

def textTask (s : State) (binding : Binding) : Task :=
  ⟨s.nextId + 1, binding.launch, .text (s.imageProxy binding)⟩

-- The binding was handed its next frame, and the frame is at the text recogniser.
def reading (s : State) (binding : Binding) : State :=
  (s.receive binding).process binding.launch (.text (s.imageProxy binding))

end State

/-- Home as it is when the app has started: the QR tab is on display and the camera waits. -/
structure Scanning (s : State) : Prop where
  settled : s.Settled
  permission : s.hasCameraPermission = true
  viewModel : s.homeViewModel = {}
  bound : ∃ binding, s.bound = some binding ∧ binding.launch = ⟨.qr, false, s.visit⟩
  ready : s.ready

section

variable {s s' : State} {e : Event}

theorem bindingsOld_init : BindingsOld init := by
  constructor <;> simp [init]

theorem BindingsOld.congr (h : BindingsOld s) (hbound : s'.bound = s.bound)
    (hframes : s'.openFrames = s.openFrames) (hid : s'.nextId = s.nextId) : BindingsOld s' := by
  constructor
  . rw [hbound, hid]
    exact h.bound
  . rw [hframes, hid]
    exact h.frames

theorem BindingsOld.receive (h : BindingsOld s) {binding : Binding}
    (hbound : s.bound = some binding) : BindingsOld (s.receive binding) := by
  have hid := h.bound binding hbound
  constructor
  . intro other hother
    have := h.bound other hother
    exact Nat.lt_succ_of_lt this
  . intro f hf
    simp only [State.receive, List.mem_append, List.mem_singleton] at hf ⊢
    rcases hf with hf | rfl
    . have := h.frames f hf
      omega
    . simp only [State.imageProxy]
      omega

theorem BindingsOld.process (h : BindingsOld s) (launch : Launch) (recognition : Recognition)
    : BindingsOld (s.process launch recognition) := by
  constructor
  . intro binding hbound
    exact Nat.lt_succ_of_lt (h.bound binding hbound)
  . intro f hf
    exact Nat.lt_succ_of_lt (h.frames f hf)

theorem BindingsOld.close (h : BindingsOld s) (imageProxy : ImageProxy)
    : BindingsOld (s.close imageProxy) := by
  constructor
  . exact h.bound
  . intro f hf
    exact h.frames f (List.mem_of_mem_erase hf)

theorem BindingsOld.step (h : BindingsOld s) (hs : Step s e s') : BindingsOld s' := by
  cases hs with
  | captureStarted launch originalBitmap =>
    apply BindingsOld.process
    exact h.congr rfl rfl rfl
  | cameraBound launch =>
    constructor
    . intro binding hbound
      injection hbound with hbound
      simp [← hbound]
    . intro f hf
      exact Nat.lt_succ_of_lt (h.frames f hf)
  | frameQr binding hbound => exact (h.receive hbound).process _ _
  | frameText binding hbound => exact (h.receive hbound).process _ _
  | frameKept binding hbound => exact h.receive hbound
  | frameClosed binding _ hbound => exact (h.receive hbound).close _
  | barcodeFound =>
    constructor
    . intro binding hbound
      contradiction
    . exact h.frames
  | barcodeComplete =>
    apply BindingsOld.close
    exact h.congr rfl rfl rfl
  | textSuccess =>
    apply BindingsOld.close
    exact h.congr rfl rfl rfl
  | textFailure =>
    apply BindingsOld.close
    exact h.congr rfl rfl rfl
  | _ => exact h.congr rfl rfl rfl

theorem step_entered (hcomp : s.inComposition = false)
    : step s (.enterComposition true) = some s.entered := by
  simp only [step, State.enterComposition, hcomp, Bool.false_eq_true, ↓reduceIte, State.entered]

theorem reaches_composed (s : State)
    : ∃ t, Reaches step s t ∧ t.inComposition = true ∧ t.hasCameraPermission = true := by
  cases hcomp : s.inComposition with
  | false => exact ⟨s.entered, Reaches.of_step (step_entered hcomp), rfl, rfl⟩
  | true =>
    refine ⟨{ s with hasCameraPermission := true }, ?_, hcomp, rfl⟩
    apply Reaches.of_step (e := .permissionResult true)
    simp [step, hcomp]

theorem reaches_selectTab (hcomp : s.inComposition = true) {tab : String}
    (htab : tab ∈ HomeScreen.tabs ∧ tab ≠ "Document") : Reaches step s (s.selectTab tab) := by
  apply Reaches.of_exec [.tabSelected tab, .collectSelectedTab, .collectAnalyzerType,
    .collectTriggerCapture, .recompose]
  simp [step, State.tabSelected, State.selectTab, HomeViewModel.onTabSelected, hcomp, htab.1,
    htab.2]

theorem reaches_ranCapture : Reaches step s { s with captureEffect := s.captureEffect.ran } := by
  cases hscheduled : s.captureEffect.scheduled with
  | none =>
    have hran : s.captureEffect.ran = s.captureEffect := by
      unfold LaunchedEffect.ran
      rw [← hscheduled]
    rw [hran]
    exact Reaches.refl s
  | some launch =>
    apply Reaches.of_step (e := .runCaptureEffect none)
    simp [step, State.runCaptureEffect, hscheduled]

theorem key_selectTab (hpermission : s.hasCameraPermission = true) (tab : String)
    : (s.selectTab tab).cameraEffect.key
        = some (HomeViewModel.analyzerOfTab tab, s.homeViewModel.triggerCapture) := by
  simp only [State.selectTab, State.composePreview, hpermission, ↓reduceIte]
  apply LaunchedEffect.key_compose

theorem reaches_showTab (hcomp : s.inComposition = true) (hpermission : s.hasCameraPermission = true)
    {tab : String} (htab : tab ∈ HomeScreen.tabs ∧ tab ≠ "Document")
    (hkey : s.cameraEffect.key
      ≠ some (HomeViewModel.analyzerOfTab tab, s.homeViewModel.triggerCapture))
    : Reaches step s (s.showTab tab) := by
  apply (reaches_selectTab hcomp htab).trans
  apply reaches_ranCapture.trans
  apply Reaches.of_step (e := .runCameraEffect)
  have heffect : (s.selectTab tab).cameraEffect
      = ⟨some (HomeViewModel.analyzerOfTab tab, s.homeViewModel.triggerCapture),
          some ⟨HomeViewModel.analyzerOfTab tab, s.homeViewModel.triggerCapture, s.visit⟩⟩ := by
    simp only [State.selectTab, State.composePreview, hpermission, ↓reduceIte]
    exact LaunchedEffect.compose_other hkey _
  simp only [step, State.runCameraEffect, heffect]
  rfl

theorem BindingsOld.ready_showTab (h : BindingsOld s) (tab : String) : (s.showTab tab).ready := by
  intro f hf binding hbound
  injection hbound with hbound
  have hlt : f.binding < s.nextId := h.frames f hf
  rw [← hbound]
  change f.binding ≠ s.nextId
  omega

theorem step_reading {binding : Binding} (hbound : s.bound = some binding)
    (hmode : binding.launch.analyzerType = .text ∧ binding.launch.triggerCapture = true)
    (hready : s.ready) : step s (.frame true) = some (s.reading binding) := by
  have hall : s.openFrames.all (·.binding ≠ binding.id) = true := by
    rw [List.all_eq_true]
    intro f hf
    simpa using hready f hf binding hbound
  simp only [step, State.frame, hbound, hall, ↓reduceIte, State.analyze, hmode.1, hmode.2]
  rfl

theorem mem_reading (s : State) (binding : Binding)
    : s.textTask binding ∈ (s.reading binding).tasks := by
  exact List.mem_append_right _ (List.mem_singleton_self _)

-- A text analyzer that waits for a frame ends the capture with the text it is given.
theorem reaches_captured {binding : Binding} (hbound : s.bound = some binding)
    (hmode : binding.launch.analyzerType = .text ∧ binding.launch.triggerCapture = true)
    (hready : s.ready)
    : ∃ t, Reaches step s t ∧ t.homeViewModel = s.homeViewModel.onCaptureCompleted
        ∧ t.cameraEffect = s.cameraEffect ∧ t.inComposition = s.inComposition
        ∧ t.hasCameraPermission = s.hasCameraPermission := by
  have hreading := Reaches.of_step (step_reading hbound hmode hready)
  have hsuccess : ∃ t, step (s.reading binding) (.textSuccess (s.textTask binding) "" none 0)
        = some t
      ∧ t.homeViewModel = s.homeViewModel.onCaptureCompleted
      ∧ t.cameraEffect = s.cameraEffect ∧ t.inComposition = s.inComposition
      ∧ t.hasCameraPermission = s.hasCameraPermission := by
    exact ⟨_, if_pos (mem_reading s binding), rfl, rfl, rfl, rfl⟩
  rcases hsuccess with ⟨t, ht, hsame⟩
  exact ⟨t, hreading.trans (Reaches.of_step ht), hsame⟩

theorem inv_of_reaches (h : BindingsOld s) (hreaches : Reaches step s s') : BindingsOld s' := by
  apply hreaches.inv _ h
  intro s e s' h hs
  exact h.step (Step.of_step hs)

-- The text tab is shown with the flag on: one recognised text turns it off.
theorem reaches_cleared_of_on (h : BindingsOld s) (hcomp : s.inComposition = true)
    (hpermission : s.hasCameraPermission = true) (hon : s.homeViewModel.triggerCapture = true)
    (hkey : s.cameraEffect.key ≠ some (.text, true))
    : ∃ t, Reaches step s t ∧ t.homeViewModel.triggerCapture = false
        ∧ t.cameraEffect.key ≠ some (.qr, false) ∧ t.inComposition = true
        ∧ t.hasCameraPermission = true := by
  have htext : Reaches step s (s.showTab "Text Analyzer") := by
    apply reaches_showTab hcomp hpermission (by decide)
    rw [hon]
    exact hkey
  have hbound : (s.showTab "Text Analyzer").bound = some ⟨s.nextId, ⟨.text, true, s.visit⟩⟩ := by
    rw [← hon]
    rfl
  have hshown : (s.showTab "Text Analyzer").cameraEffect.key = some (.text, true) := by
    rw [← hon]
    rfl
  rcases reaches_captured hbound ⟨rfl, rfl⟩ (h.ready_showTab _) with
    ⟨t, ht, hvm, heffect, hin, hgranted⟩
  refine ⟨t, htext.trans ht, ?_, ?_, ?_, ?_⟩
  . rw [hvm]
    rfl
  . rw [heffect, hshown]
    decide
  . rw [hin]
    exact hcomp
  . rw [hgranted]
    exact hpermission

theorem reaches_cleared (h : BindingsOld s) (hcomp : s.inComposition = true)
    (hpermission : s.hasCameraPermission = true)
    : ∃ t, Reaches step s t ∧ t.homeViewModel.triggerCapture = false
        ∧ t.cameraEffect.key ≠ some (.qr, false) ∧ t.inComposition = true
        ∧ t.hasCameraPermission = true := by
  have hphoto : Reaches step s (s.selectTab "Photo") := reaches_selectTab hcomp (by decide)
  have hkey := key_selectTab hpermission "Photo"
  cases hflag : s.homeViewModel.triggerCapture with
  | false =>
    refine ⟨s.selectTab "Photo", hphoto, hflag, ?_, hcomp, hpermission⟩
    rw [hkey]
    simp [HomeViewModel.analyzerOfTab]
  | true =>
    have hother : (s.selectTab "Photo").cameraEffect.key ≠ some (.text, true) := by
      rw [hkey]
      simp [HomeViewModel.analyzerOfTab]
    apply hphoto.exists_trans
    exact reaches_cleared_of_on (inv_of_reaches h hphoto) hcomp hpermission hflag hother

theorem settled_showTab (hcomp : s.inComposition = true)
    (hpermission : s.hasCameraPermission = true) (tab : String) : (s.showTab tab).Settled := by
  refine ⟨hcomp, rfl, rfl, rfl, ?_, rfl, rfl⟩
  apply composePreview_same
  . exact hpermission
  . simp [State.showTab, State.selectTab, State.composePreview, hpermission]
  . rfl

theorem scanning_showTab (h : BindingsOld s) (hcomp : s.inComposition = true)
    (hpermission : s.hasCameraPermission = true) (hoff : s.homeViewModel.triggerCapture = false)
    : Scanning (s.showTab "QR Scanner") := by
  constructor
  . exact settled_showTab hcomp hpermission _
  . exact hpermission
  . simp [State.showTab, State.selectTab, State.composePreview, HomeViewModel.onTabSelected, hoff,
      HomeViewModel.analyzerOfTab]
  . refine ⟨_, rfl, ?_⟩
    change Launch.mk .qr s.homeViewModel.triggerCapture s.visit = ⟨.qr, false, s.visit⟩
    rw [hoff]
  . exact h.ready_showTab _

end

theorem scansAgain (es : List Event) (s : State) (hexec : exec step init es = some s)
    : ∃ s', Reaches step s s' ∧ Scanning s' := by
  have hold : BindingsOld s := inv_of_reaches bindingsOld_init (Reaches.of_exec es hexec)
  rcases reaches_composed s with ⟨t, hst, hcomp, hpermission⟩
  have ht := inv_of_reaches hold hst
  rcases reaches_cleared ht hcomp hpermission with ⟨u, htu, hoff, hkey, hcomp, hpermission⟩
  have hu := inv_of_reaches ht htu
  refine ⟨u.showTab "QR Scanner", ?_, scanning_showTab hu hcomp hpermission hoff⟩
  apply (hst.trans htu).trans
  apply reaches_showTab hcomp hpermission (by decide)
  rw [hoff]
  exact hkey

theorem missingBitmap_scansAgain
    : ∃ s', Reaches step ((exec step init missingBitmap).get (by decide)) s' ∧ Scanning s' := by
  apply scansAgain missingBitmap _ (Option.some_get _).symm

end Camera
end MeeScanner
