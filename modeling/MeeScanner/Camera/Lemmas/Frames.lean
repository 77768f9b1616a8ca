import Mathlib.Data.List.Nodup
import MeeScanner.Camera.Lemmas.Step

/-!
This module contains the bookkeeping of frames: every frame that a recogniser task holds is open and
held by that task alone.
-/

namespace MeeScanner
namespace Camera

section

variable {α β : Type} [DecidableEq α] {f : α → Option β} {l : List α} {a : α} {b : β}

theorem filterMap_perm_erase_some (hmem : a ∈ l) (hf : f a = some b)
    : (l.filterMap f).Perm (b :: (l.erase a).filterMap f) := by
  have := (List.perm_cons_erase hmem).filterMap f
  rw [List.filterMap_cons_some hf] at this
  exact this

theorem filterMap_perm_erase_none (hmem : a ∈ l) (hf : f a = none)
    : (l.filterMap f).Perm ((l.erase a).filterMap f) := by
  have := (List.perm_cons_erase hmem).filterMap f
  rw [List.filterMap_cons_none hf] at this
  exact this

end

def Recognition.imageProxy? : Recognition → Option ImageProxy
  | .barcodes imageProxy _ => some imageProxy
  | .text imageProxy => some imageProxy
  | .objects .. => none

namespace State

def held (s : State) : List ImageProxy := s.tasks.filterMap (·.recognition.imageProxy?)

variable (s : State)

theorem held_finish_sublist (task : Task) : (s.finish task).held.Sublist s.held := by
  apply List.Sublist.filterMap
  apply List.erase_sublist

theorem held_finish_perm {task : Task} {imageProxy : ImageProxy} (hmem : task ∈ s.tasks)
    (htask : task.recognition.imageProxy? = some imageProxy)
    : s.held.Perm (imageProxy :: (s.finish task).held) := by
  apply filterMap_perm_erase_some hmem htask

theorem held_answer_perm {task : Task} {imageProxy : ImageProxy} (hmem : task ∈ s.tasks)
    (htask : task.recognition.imageProxy? = some imageProxy)
    : s.held.Perm (s.answer task imageProxy).held := by
  apply filterMap_perm_erase_some hmem htask

@[simp]
theorem held_process (launch : Launch) (recognition : Recognition)
    : (s.process launch recognition).held = s.held ++ recognition.imageProxy?.toList := by
  simp only [held, process, List.filterMap_append, List.append_cancel_left_eq]
  cases h : recognition.imageProxy? <;> simp [h]

end State

structure FramesHeld (s : State) : Prop where
  openNodup : s.openFrames.Nodup
  openOld : ∀ f ∈ s.openFrames, f.id < s.nextId
  heldNodup : s.held.Nodup
  heldOpen : ∀ f ∈ s.held, f ∈ s.openFrames

theorem framesHeld_init : FramesHeld init := by
  constructor <;> simp [init, State.held]

section

variable {s s' : State} {e : Event}

theorem FramesHeld.imageProxy_fresh (h : FramesHeld s) (binding : Binding)
    : s.imageProxy binding ∉ s.openFrames := by
  intro hmem
  have := h.openOld _ hmem
  simp [State.imageProxy] at this

theorem FramesHeld.imageProxy_not_held (h : FramesHeld s) (binding : Binding)
    : s.imageProxy binding ∉ s.held := by
  intro hmem
  exact h.imageProxy_fresh binding (h.heldOpen _ hmem)

theorem FramesHeld.receive (h : FramesHeld s) (binding : Binding)
    : FramesHeld (s.receive binding) := by
  constructor
  . simp only [State.receive]
    rw [← List.concat_eq_append]
    apply h.openNodup.concat (h.imageProxy_fresh binding)
  . intro f hf
    simp only [State.receive, List.mem_append, List.mem_singleton] at hf ⊢
    rcases hf with hf | rfl
    . have := h.openOld f hf
      omega
    . simp [State.imageProxy]
  . exact h.heldNodup
  . intro f hf
    apply List.mem_append_left
    apply h.heldOpen f hf

theorem FramesHeld.process (h : FramesHeld s) (launch : Launch) {recognition : Recognition}
    (hproxy : ∀ f, recognition.imageProxy? = some f → f ∈ s.openFrames ∧ f ∉ s.held)
    : FramesHeld (s.process launch recognition) := by
  constructor
  . exact h.openNodup
  . intro f hf
    have := h.openOld f hf
    simp only [State.process]
    omega
  . rw [State.held_process]
    cases hr : recognition.imageProxy? with
    | none => simpa using h.heldNodup
    | some f =>
      rw [Option.toList_some, ← List.concat_eq_append]
      apply h.heldNodup.concat (hproxy f hr).2
  . intro f hf
    simp only [State.held_process, List.mem_append, Option.mem_toList] at hf
    rcases hf with hf | hf
    . apply h.heldOpen f hf
    . apply (hproxy f hf).1

theorem FramesHeld.finish (h : FramesHeld s) (task : Task) : FramesHeld (s.finish task) := by
  constructor
  . exact h.openNodup
  . exact h.openOld
  . apply List.Nodup.sublist (s.held_finish_sublist task) h.heldNodup
  . intro f hf
    apply h.heldOpen
    apply (s.held_finish_sublist task).subset hf

theorem FramesHeld.answer (h : FramesHeld s) {task : Task} {imageProxy : ImageProxy}
    (hmem : task ∈ s.tasks) (htask : task.recognition.imageProxy? = some imageProxy)
    : FramesHeld (s.answer task imageProxy) := by
  have hperm := s.held_answer_perm hmem htask
  constructor
  . exact h.openNodup
  . exact h.openOld
  . exact hperm.nodup_iff.mp h.heldNodup
  . intro f hf
    apply h.heldOpen
    apply hperm.mem_iff.mpr hf

theorem FramesHeld.close (h : FramesHeld s) {imageProxy : ImageProxy}
    (hheld : imageProxy ∉ s.held) : FramesHeld (s.close imageProxy) := by
  constructor
  . apply h.openNodup.erase
  . intro f hf
    apply h.openOld
    apply List.mem_of_mem_erase hf
  . exact h.heldNodup
  . intro f hf
    apply h.openNodup.mem_erase_iff.mpr
    constructor
    . intro heq
      subst heq
      contradiction
    . apply h.heldOpen f hf

theorem FramesHeld.not_held_finish (h : FramesHeld s) {task : Task} {imageProxy : ImageProxy}
    (hmem : task ∈ s.tasks) (htask : task.recognition.imageProxy? = some imageProxy)
    : imageProxy ∉ (s.finish task).held := by
  have hnodup := (s.held_finish_perm hmem htask).nodup_iff.mp h.heldNodup
  exact (List.nodup_cons.mp hnodup).1

theorem FramesHeld.release (h : FramesHeld s) {task : Task} {imageProxy : ImageProxy}
    (hmem : task ∈ s.tasks) (htask : task.recognition.imageProxy? = some imageProxy)
    : FramesHeld ((s.finish task).close imageProxy) := by
  apply (h.finish task).close
  apply h.not_held_finish hmem htask

theorem FramesHeld.analyzed (h : FramesHeld s) (binding : Binding) {recognition : Recognition}
    (hproxy : recognition.imageProxy? = some (s.imageProxy binding))
    : FramesHeld ((s.receive binding).process binding.launch recognition) := by
  apply (h.receive binding).process
  intro f hf
  rw [hproxy] at hf
  injection hf with hf
  subst hf
  constructor
  . simp [State.receive]
  . apply h.imageProxy_not_held

theorem FramesHeld.step (h : FramesHeld s) (hs : Step s e s') : FramesHeld s' := by
  cases hs with
  | captureStarted launch =>
    apply FramesHeld.process
    . exact ⟨h.openNodup, h.openOld, h.heldNodup, h.heldOpen⟩
    . intro f hf
      contradiction
  | cameraBound =>
    refine ⟨h.openNodup, ?_, h.heldNodup, h.heldOpen⟩
    intro f hf
    have := h.openOld f hf
    simp only
    omega
  | frameQr binding => apply h.analyzed binding rfl
  | frameText binding => apply h.analyzed binding rfl
  | frameKept binding => apply h.receive binding
  | frameClosed binding =>
    apply (h.receive binding).close
    apply h.imageProxy_not_held
  | barcodeEmpty task _ _ _ htask hmem => apply h.answer hmem (by rw [htask]; rfl)
  | barcodeFound task _ _ _ _ _ htask hmem =>
    have := h.answer hmem (by rw [htask]; rfl)
    exact ⟨this.openNodup, this.openOld, this.heldNodup, this.heldOpen⟩
  | barcodeComplete task _ _ htask hmem => apply h.release hmem (by rw [htask]; rfl)
  | textSuccess task _ _ _ _ htask hmem =>
    have := h.release hmem (by rw [htask]; rfl)
    exact ⟨this.openNodup, this.openOld, this.heldNodup, this.heldOpen⟩
  | textFailure task _ htask hmem => apply h.release hmem (by rw [htask]; rfl)
  | objectSuccess task =>
    have := h.finish task
    exact ⟨this.openNodup, this.openOld, this.heldNodup, this.heldOpen⟩
  | objectFailure task => apply h.finish task
  | _ => exact ⟨h.openNodup, h.openOld, h.heldNodup, h.heldOpen⟩

end
end Camera
end MeeScanner
