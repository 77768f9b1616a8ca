import MeeScanner.Camera.Lemmas.Frames

/-!
This module contains the release of frames. A frame is handed to the analyzer once, it is open until
it is closed, and the listeners of the task that holds it close it. The analyzer of a text binding
that waits for the shutter starts no task and closes nothing.
-/

open Transition

namespace MeeScanner
namespace Camera

def handed (s : State) : Event → State → List ImageProxy
  | .frame _, _ => (s.bound.map s.imageProxy).toList
  | _, _ => []

def State.Pending (s : State) (f : ImageProxy) : Prop :=
  ∃ task ∈ s.tasks, task.recognition.imageProxy? = some f

instance (s : State) : DecidablePred s.Pending := fun f =>
  inferInstanceAs (Decidable (∃ task ∈ s.tasks, task.recognition.imageProxy? = some f))

-- Each frame that was handed out is open, with a task pending for it, or has been closed once.
def FramesReleased (p : State × List ImageProxy) : Prop :=
  ∀ f ∈ p.2, (f ∈ p.1.openFrames ∧ f ∉ p.1.closedFrames ∧ p.1.Pending f)
    ∨ (f ∉ p.1.openFrames ∧ p.1.closedFrames.count f = 1)

def AnalyzerReady (s : State) : Prop :=
  ∀ binding ∈ s.bound, (∀ f ∈ s.held, f.binding ≠ binding.id) →
    ∀ hasMediaImage, (step s (.frame hasMediaImage)).isSome

def EveryFrameReleased (p : State × List ImageProxy) : Prop :=
  FramesReleased p ∧ AnalyzerReady p.1

instance : DecidablePred EveryFrameReleased := by
  intro p
  unfold EveryFrameReleased FramesReleased AnalyzerReady
  infer_instance

-- A picture does not reach an analyzer that was launched in TEXT mode without a capture.
def ClosesFrame (s : State) : Event → Prop
  | .frame true => ∀ binding ∈ s.bound,
      binding.launch.analyzerType = .text → binding.launch.triggerCapture = true
  | _ => True

structure FramesHanded (s : State) (frames : List ImageProxy) : Prop where
  perm : frames.Perm (s.openFrames ++ s.closedFrames)
  nodup : frames.Nodup
  old : ∀ f ∈ frames, f.id < s.nextId

def OpenHeld (s : State) : Prop := ∀ f ∈ s.openFrames, f ∈ s.held

theorem mem_held_iff {s : State} {f : ImageProxy} : f ∈ s.held ↔ s.Pending f := by
  simp only [State.held, State.Pending, List.mem_filterMap]

section

variable {s s' : State} {e : Event} {frames : List ImageProxy}

theorem framesHanded_init : FramesHanded init [] := by
  constructor <;> simp [init]

theorem FramesHanded.congr (h : FramesHanded s frames) (hopen : s'.openFrames = s.openFrames)
    (hclosed : s'.closedFrames = s.closedFrames) (hid : s.nextId ≤ s'.nextId)
    : FramesHanded s' (frames ++ []) := by
  rw [List.append_nil]
  constructor
  . rw [hopen, hclosed]
    exact h.perm
  . exact h.nodup
  . intro f hf
    have := h.old f hf
    omega

theorem FramesHanded.receive (h : FramesHanded s frames) (binding : Binding)
    : FramesHanded (s.receive binding) (frames ++ [s.imageProxy binding]) := by
  constructor
  . simp only [State.receive, List.append_assoc]
    have := h.perm.append_right [s.imageProxy binding]
    apply this.trans
    rw [List.append_assoc]
    apply List.Perm.append_left
    apply List.perm_append_comm
  . rw [← List.concat_eq_append]
    apply h.nodup.concat
    intro hmem
    have := h.old _ hmem
    simp [State.imageProxy] at this
  . intro f hf
    simp only [State.receive, List.mem_append, List.mem_singleton] at hf ⊢
    rcases hf with hf | rfl
    . have := h.old f hf
      omega
    . simp [State.imageProxy]

theorem FramesHanded.close (h : FramesHanded s frames) {imageProxy : ImageProxy}
    (hopen : imageProxy ∈ s.openFrames) : FramesHanded (s.close imageProxy) frames := by
  constructor
  . apply h.perm.trans
    have := (List.perm_cons_erase hopen).append_right s.closedFrames
    apply this.trans
    simp only [State.close, List.cons_append]
    rw [← List.append_assoc]
    apply (List.perm_append_singleton imageProxy _).symm
  . exact h.nodup
  . exact h.old

theorem FramesHanded.release (h : FramesHanded s frames) (hheld : FramesHeld s) {task : Task}
    {imageProxy : ImageProxy} (hmem : task ∈ s.tasks)
    (htask : task.recognition.imageProxy? = some imageProxy)
    : FramesHanded ((s.finish task).close imageProxy) (frames ++ []) := by
  rw [List.append_nil]
  apply FramesHanded.close
  . exact ⟨h.perm, h.nodup, h.old⟩
  . apply hheld.heldOpen
    rw [mem_held_iff]
    exact ⟨task, hmem, htask⟩

theorem handed_frame {binding : Binding} (hbound : s.bound = some binding) (hasMediaImage : Bool)
    : handed s (.frame hasMediaImage) s' = [s.imageProxy binding] := by
  simp [handed, hbound]

theorem FramesHanded.step (h : FramesHanded s frames) (hheld : FramesHeld s) (hs : Step s e s')
    : FramesHanded s' (frames ++ handed s e s') := by
  cases hs with
  | frameQr binding hbound =>
    rw [handed_frame hbound]
    have := h.receive binding
    refine ⟨this.perm, this.nodup, ?_⟩
    intro f hf
    have := this.old f hf
    simp only [State.process]
    omega
  | frameText binding hbound =>
    rw [handed_frame hbound]
    have := h.receive binding
    refine ⟨this.perm, this.nodup, ?_⟩
    intro f hf
    have := this.old f hf
    simp only [State.process]
    omega
  | frameKept binding hbound =>
    rw [handed_frame hbound]
    apply h.receive binding
  | frameClosed binding _ hbound =>
    rw [handed_frame hbound]
    apply (h.receive binding).close
    simp [State.receive]
  | barcodeComplete task _ _ htask hmem => apply h.release hheld hmem (by rw [htask]; rfl)
  | textSuccess task _ _ _ _ htask hmem =>
    have := h.release hheld hmem (by rw [htask]; rfl)
    exact ⟨this.perm, this.nodup, this.old⟩
  | textFailure task _ htask hmem => apply h.release hheld hmem (by rw [htask]; rfl)
  | captureStarted => exact h.congr rfl rfl (Nat.le_succ _)
  | cameraBound => exact h.congr rfl rfl (Nat.le_succ _)
  | _ => exact h.congr rfl rfl (Nat.le_refl _)

theorem held_finish_perm_none {task : Task} (hmem : task ∈ s.tasks)
    (htask : task.recognition.imageProxy? = none) : s.held.Perm (s.finish task).held := by
  apply filterMap_perm_erase_none hmem htask

theorem OpenHeld.handled (h : OpenHeld s) (binding : Binding) {recognition : Recognition}
    (hproxy : recognition.imageProxy? = some (s.imageProxy binding))
    : OpenHeld ((s.receive binding).process binding.launch recognition) := by
  intro f hf
  rw [State.held_process, hproxy, List.mem_append]
  simp only [State.process, State.receive, List.mem_append] at hf
  rcases hf with hf | hf
  . exact Or.inl (h f hf)
  . exact Or.inr (by simpa using hf)

theorem OpenHeld.closed (h : OpenHeld s) (hheld : FramesHeld s) (binding : Binding)
    : OpenHeld ((s.receive binding).close (s.imageProxy binding)) := by
  intro f hf
  apply h
  have hnodup := (hheld.receive binding).openNodup
  simp only [State.close] at hf
  rw [hnodup.mem_erase_iff] at hf
  simp only [State.receive, List.mem_append, List.mem_singleton] at hf
  tauto

theorem OpenHeld.release (h : OpenHeld s) (hheld : FramesHeld s) {task : Task}
    {imageProxy : ImageProxy} (hmem : task ∈ s.tasks)
    (htask : task.recognition.imageProxy? = some imageProxy)
    : OpenHeld ((s.finish task).close imageProxy) := by
  intro f hf
  simp only [State.close, State.finish] at hf
  rw [hheld.openNodup.mem_erase_iff] at hf
  have hmemHeld := h f hf.2
  rw [(s.held_finish_perm hmem htask).mem_iff, List.mem_cons] at hmemHeld
  exact hmemHeld.resolve_left hf.1

theorem OpenHeld.answer (h : OpenHeld s) {task : Task} {imageProxy : ImageProxy}
    (hmem : task ∈ s.tasks) (htask : task.recognition.imageProxy? = some imageProxy)
    : OpenHeld (s.answer task imageProxy) := by
  intro f hf
  rw [← (s.held_answer_perm hmem htask).mem_iff]
  exact h f hf

theorem OpenHeld.finish (h : OpenHeld s) {task : Task} (hmem : task ∈ s.tasks)
    (htask : task.recognition.imageProxy? = none) : OpenHeld (s.finish task) := by
  intro f hf
  rw [← (held_finish_perm_none hmem htask).mem_iff]
  exact h f hf

theorem OpenHeld.step (h : OpenHeld s) (hheld : FramesHeld s) (hguard : ClosesFrame s e)
    (hs : Step s e s') : OpenHeld s' := by
  cases hs with
  | captureStarted =>
    intro f hf
    rw [State.held_process, List.mem_append]
    exact Or.inl (h f hf)
  | frameQr binding => apply h.handled binding rfl
  | frameText binding => apply h.handled binding rfl
  | frameKept binding hbound _ hmode =>
    have := hguard binding hbound hmode.1
    rw [hmode.2] at this
    contradiction
  | frameClosed binding => apply h.closed hheld binding
  | barcodeEmpty task _ _ _ htask hmem => apply h.answer hmem (by rw [htask]; rfl)
  | barcodeFound task _ _ _ _ _ htask hmem => exact h.answer hmem (by rw [htask]; rfl)
  | barcodeComplete task _ _ htask hmem => apply h.release hheld hmem (by rw [htask]; rfl)
  | textSuccess task _ _ _ _ htask hmem => exact h.release hheld hmem (by rw [htask]; rfl)
  | textFailure task _ htask hmem => apply h.release hheld hmem (by rw [htask]; rfl)
  | objectSuccess task _ _ _ _ _ _ htask hmem => exact h.finish hmem (by rw [htask]; rfl)
  | objectFailure task _ _ htask hmem => apply h.finish hmem (by rw [htask]; rfl)
  | _ => exact h

theorem FramesHanded.released (h : FramesHanded s frames) (hheld : OpenHeld s)
    : FramesReleased (s, frames) := by
  have hnodup := h.perm.nodup_iff.mp h.nodup
  rw [List.nodup_append] at hnodup
  intro f hf
  by_cases hopen : f ∈ s.openFrames
  . refine Or.inl ⟨hopen, ?_, mem_held_iff.mp (hheld f hopen)⟩
    intro hclosed
    exact hnodup.2.2 f hopen f hclosed rfl
  . have hclosed : f ∈ s.closedFrames := by
      have := h.perm.mem_iff.mp hf
      rw [List.mem_append] at this
      exact this.resolve_left hopen
    exact Or.inr ⟨hopen, List.count_eq_one_of_mem hnodup.2.1 hclosed⟩

theorem OpenHeld.ready (h : OpenHeld s) : AnalyzerReady s := by
  intro binding hbound hidle hasMediaImage
  have hready : s.openFrames.all (·.binding ≠ binding.id) = true := by
    rw [List.all_eq_true]
    intro f hf
    simpa using hidle f (h f hf)
  rw [Option.mem_def] at hbound
  simp only [Camera.step, State.frame, hbound]
  rw [if_pos hready]
  rfl

theorem not_released_kept (hheld : FramesHeld s) {binding : Binding}
    (hmem : s.imageProxy binding ∈ frames) : ¬ FramesReleased (s.receive binding, frames) := by
  intro h
  rcases h (s.imageProxy binding) hmem with ⟨_, _, hpending⟩ | ⟨hopen, _⟩
  . rw [← mem_held_iff] at hpending
    exact hheld.imageProxy_not_held binding hpending
  . simp [State.receive] at hopen

theorem FramesReleased.step_bad (hheld : FramesHeld s) (hguard : ¬ ClosesFrame s e)
    (hs : Step s e s') : ¬ FramesReleased (s', frames ++ handed s e s') := by
  cases hs with
  | frameKept binding hbound =>
    apply not_released_kept hheld
    simp [handed, hbound]
  | frameQr binding hbound _ hmode => simp [ClosesFrame, hbound, hmode] at hguard
  | frameText binding hbound _ hmode => simp [ClosesFrame, hbound, hmode] at hguard
  | frameClosed binding hasMediaImage hbound _ hmode =>
    cases hasMediaImage with
    | true => simp [ClosesFrame, hbound, hmode rfl] at hguard
    | false => exact absurd trivial hguard
  | _ => exact absurd trivial hguard

end

theorem everyFrameReleased_iff (es : List Event)
    : Always (logged step handed) EveryFrameReleased (init, []) es
        ↔
      Meets step ClosesFrame init es := by
  have hmeets : Meets (logged step handed) (fun p e => ClosesFrame p.1 e) (init, []) es
      ↔ Meets step ClosesFrame init es := meets_logged
  rw [← hmeets]
  apply always_iff_meets (I := fun p => (FramesHeld p.1 ∧ FramesHanded p.1 p.2) ∧ OpenHeld p.1)
  . intro p h
    exact ⟨h.1.2.released h.2, h.2.ready⟩
  . intro p e p' h hguard hp'
    rcases logged_eq_some_iff.mp hp' with ⟨s', hs', rfl⟩
    have hs := Step.of_step hs'
    exact ⟨⟨h.1.1.step hs, h.1.2.step h.1.1 hs⟩, h.2.step h.1.1 hguard hs⟩
  . intro p e p' h hguard hp' hgood
    rcases logged_eq_some_iff.mp hp' with ⟨s', hs', rfl⟩
    exact FramesReleased.step_bad h.1.1 hguard (Step.of_step hs') hgood.1
  . refine ⟨⟨framesHeld_init, framesHanded_init⟩, ?_⟩
    intro f hf
    contradiction

/-
TEXT mode with the camera bound before the shutter is pressed: the first frame is never closed.
-/
def idleText : List Event :=
  [
    .enterComposition true, .tabSelected "Text Analyzer", .collectAnalyzerType, .recompose,
    .runCameraEffect, .frame true
  ]

theorem idleText_keeps_frame
    : ¬ Always (logged step handed) EveryFrameReleased (init, []) idleText := by
  apply not_always_of_any
  decide

end Camera
end MeeScanner
